import AdaptiveAutosar.Diag.SecurityAccess
import AdaptiveAutosar.Diag.TransferData

/-! # The services behind the router

`EcuResetRequest`, the services together, and `UdsServiceRouter`, which looks a service up under the SID of a
request.
-/

namespace AdaptiveAutosar.Diag
open Foundations
set_option autoImplicit false

/-! ## EcuResetRequest -/

inductive ResetRequestType where
  | softReset
  | hardReset
  | keyOffOnReset
  | customReset
  deriving DecidableEq, Repr

/-- The reset type is there when its future is valid. -/
structure EcuResetRequest where
  resetType : Option ResetRequestType
  rapidShutdownEnabled : Bool
  deriving DecidableEq, Repr

namespace EcuResetRequest

def cSid : UInt8 := 0x11
def cSubFunctionIndex : ℕ := 1
def cPowerDownTimeKey : String := "PowerDownTime"
def cHardResetSubFunction : UInt8 := 0x01
def cKeyOffOnResetSubFunction : UInt8 := 0x02
def cSoftResetSubFunction : UInt8 := 0x03
def cEnableRapidShutdownSubFunction : UInt8 := 0x04
def cDisableRapidShutdownSubFunction : UInt8 := 0x05

def make : EcuResetRequest := ⟨none, false⟩

/-- `none` is a future that is not valid. -/
def requestReset (service : EcuResetRequest) (resetType : ResetRequestType) : Option EcuResetRequest :=
  match service.resetType with
  | some _ => none
  | none => some { service with resetType := some resetType }

def enableRapidShutdown (service : EcuResetRequest) (enable : Bool) : EcuResetRequest :=
  { service with rapidShutdownEnabled := enable }

/-- The service and whether the power-down time is required. -/
def tryHandleSubFunction (service : EcuResetRequest) (subFunction : UInt8) : Option (EcuResetRequest × Bool) :=
  let handled :=
    if subFunction = cHardResetSubFunction then service.requestReset .hardReset
    else if subFunction = cKeyOffOnResetSubFunction then service.requestReset .keyOffOnReset
    else if subFunction = cSoftResetSubFunction then service.requestReset .softReset
    else if subFunction = cEnableRapidShutdownSubFunction then some (service.enableRapidShutdown true)
    else if subFunction = cDisableRapidShutdownSubFunction then some (service.enableRapidShutdown false)
    else none
  handled.map fun service => (service, subFunction = cEnableRapidShutdownSubFunction)

def handleMessage (service : EcuResetRequest) (request : UdsRequest) : Answer × EcuResetRequest :=
  match request.requestData[cSubFunctionIndex]? with
  | none => (.refused cSid cIncorrectMessageLength, service)
  | some subFunction =>
    match service.tryHandleSubFunction subFunction with
    | none => (.refused cSid cSubFunctionNotSupported, service)
    | some (service, powerDownTimeRequired) =>
      if powerDownTimeRequired then
        match request.metaInfo.tryExtractValue cPowerDownTimeKey with
        | .error e => (.faulted e, service)
        | .ok none => (.refused cSid cSubFunctionNotSupported, service)
        | .ok (some powerDownTime) =>
          (.response [cSid + cPositiveResponseSidIncrement, subFunction, UInt8.ofInt powerDownTime], service)
      else (.response [cSid + cPositiveResponseSidIncrement, subFunction], service)

/-! ### What a request does -/

variable {service after : EcuResetRequest} {request : UdsRequest} {subFunction : UInt8} {answer : Answer}

theorem tryHandleSubFunction_enable (service : EcuResetRequest) :
    service.tryHandleSubFunction cEnableRapidShutdownSubFunction = some (service.enableRapidShutdown true, true) :=
  rfl

theorem tryHandleSubFunction_other (other : subFunction ≠ cEnableRapidShutdownSubFunction)
    (powerDownTimeRequired : Bool)
    (handled : service.tryHandleSubFunction subFunction = some (after, powerDownTimeRequired)) :
    powerDownTimeRequired = false := by
  obtain ⟨_, -, same⟩ := Option.map_eq_some_iff.mp handled
  cases same
  exact decide_eq_false other

/-- What the handling of a request can do. -/
inductive Handling (service : EcuResetRequest) (request : UdsRequest) : Answer → EcuResetRequest → Prop where
  | refuses (nrc : UInt8)
      (other : request.requestData[cSubFunctionIndex]? ≠ some cEnableRapidShutdownSubFunction) :
      Handling service request (.refused cSid nrc) service
  | resets {subFunction : UInt8} {after : EcuResetRequest}
      (given : request.requestData[cSubFunctionIndex]? = some subFunction)
      (other : subFunction ≠ cEnableRapidShutdownSubFunction) :
      Handling service request (.response [cSid + cPositiveResponseSidIncrement, subFunction]) after
  | enables {powerDownTime : ℤ}
      (given : request.requestData[cSubFunctionIndex]? = some cEnableRapidShutdownSubFunction)
      (extracted : request.metaInfo.tryExtractValue cPowerDownTimeKey = .ok (some powerDownTime)) :
      Handling service request
        (.response [cSid + cPositiveResponseSidIncrement, cEnableRapidShutdownSubFunction, UInt8.ofInt powerDownTime])
        (service.enableRapidShutdown true)
  | lacks (given : request.requestData[cSubFunctionIndex]? = some cEnableRapidShutdownSubFunction)
      (absent : request.metaInfo.tryExtractValue cPowerDownTimeKey = .ok none) :
      Handling service request (.refused cSid cSubFunctionNotSupported) (service.enableRapidShutdown true)
  | faults {e : Fault} (given : request.requestData[cSubFunctionIndex]? = some cEnableRapidShutdownSubFunction)
      (failed : request.metaInfo.tryExtractValue cPowerDownTimeKey = .error e) :
      Handling service request (.faulted e) (service.enableRapidShutdown true)

theorem handling (service : EcuResetRequest) (request : UdsRequest) :
    Handling service request (service.handleMessage request).1 (service.handleMessage request).2 := by
  unfold handleMessage
  cases given : request.requestData[cSubFunctionIndex]? with
  | none => exact .refuses _ (fun same => by cases given.symm.trans same)
  | some subFunction =>
    by_cases enable : subFunction = cEnableRapidShutdownSubFunction
    · subst enable
      simp only [tryHandleSubFunction_enable, if_true]
      cases extracted : request.metaInfo.tryExtractValue cPowerDownTimeKey with
      | error e => exact .faults given extracted
      | ok powerDownTime =>
        cases powerDownTime with
        | none => exact .lacks given extracted
        | some powerDownTime => exact .enables given extracted
    · cases handled : service.tryHandleSubFunction subFunction with
      | none =>
        simp only [handled]
        exact .refuses _ (fun same => enable (Option.some.inj (given.symm.trans same)))
      | some result =>
        obtain ⟨after, powerDownTimeRequired⟩ := result
        obtain rfl := tryHandleSubFunction_other enable powerDownTimeRequired handled
        simp only [handled, Bool.false_eq_true, if_false]
        exact .resets given enable

end EcuResetRequest

/-! ## The services -/

inductive RoutableUdsService where
  | securityAccess
  | ecuReset
  | requestDownload
  | requestUpload
  | transferData
  | requestTransferExit
  deriving DecidableEq, Repr

def RoutableUdsService.getSid : RoutableUdsService → UInt8
  | .securityAccess => SecurityAccess.cSid
  | .ecuReset => EcuResetRequest.cSid
  | .requestDownload => downloadService.sid
  | .requestUpload => uploadService.sid
  | .transferData => TransferData.cSid
  | .requestTransferExit => RequestTransferExit.cSid

structure UdsServices where
  securityAccess : SecurityAccess
  ecuReset : EcuResetRequest
  transferData : TransferData

/-- Nothing is known behind `std::terminate` or an undefined access. -/
def Answer.ends (answer : Answer) : Bool := answer = .terminated ∨ answer = .faulted .undefined

namespace UdsServices

def make (memoryAddress memorySize : UInt64) (memoryPool : Block cMemoryPoolSize) : UdsServices :=
  ⟨.make, .make, .make memoryAddress memorySize memoryPool⟩

def withTransferData (services : UdsServices) (transferData : TransferData) : UdsServices :=
  { services with transferData }

def handleMessage (services : UdsServices) (service : RoutableUdsService) (request : UdsRequest) :
    Answer × UdsServices :=
  match service with
  | .securityAccess =>
    (services.securityAccess.handleMessage request).map id fun after => { services with securityAccess := after }
  | .ecuReset => (services.ecuReset.handleMessage request).map id fun after => { services with ecuReset := after }
  | .requestDownload => (services.transferData.react ⟨.requestDownload, request⟩).map id services.withTransferData
  | .requestUpload => (services.transferData.react ⟨.requestUpload, request⟩).map id services.withTransferData
  | .transferData => (services.transferData.react ⟨.transferData, request⟩).map id services.withTransferData
  | .requestTransferExit =>
    (services.transferData.react ⟨.requestTransferExit, request⟩).map id services.withTransferData

def expire (services : UdsServices) : UdsServices :=
  { services with securityAccess := services.securityAccess.expire }

end UdsServices

/-! ## The router -/

structure UdsServiceRouter (Service : Type) where
  services : OrderedMap UInt8 Service

namespace UdsServiceRouter
variable {Service σ : Type}

def cServiceNotSupportedNrc : UInt8 := 0x11

def make : UdsServiceRouter Service := ⟨OrderedMap.empty⟩

/-- With the SID that the service gives. -/
def addService (router : UdsServiceRouter Service) (sid : UInt8) (service : Service) : UdsServiceRouter Service :=
  ⟨router.services.insert sid service⟩

def removeService (router : UdsServiceRouter Service) (sid : UInt8) : UdsServiceRouter Service :=
  ⟨router.services.erase sid⟩

/-- The service that a request is routed to. -/
def find (router : UdsServiceRouter Service) (offered : Service → Bool) (sid : UInt8) : Option Service :=
  (router.services.find? sid).filter offered

def route (router : UdsServiceRouter Service) (offered : Service → Bool)
    (handleMessage : σ → Service → UdsRequest → Answer × σ) (services : σ) (request : UdsRequest) : Answer × σ :=
  match request.requestData with
  | [] => (.faulted (.thrown (.invalidArgument "Empty request data")), services)
  | sid :: _ =>
    match router.find offered sid with
    | some service => handleMessage services service request
    | none => (.refused sid cServiceNotSupportedNrc, services)

end UdsServiceRouter

/-! ## Runs -/

structure Diagnostics where
  router : UdsServiceRouter RoutableUdsService
  offered : RoutableUdsService → Bool
  services : UdsServices

inductive RoutingInput where
  | addService (service : RoutableUdsService)
  | removeService (sid : UInt8)
  | offer (service : RoutableUdsService)
  | stopOffer (service : RoutableUdsService)
  | route (request : UdsRequest)
  | expire
  deriving DecidableEq, Repr

namespace Diagnostics

def make (services : UdsServices) : Diagnostics := ⟨.make, fun _ => false, services⟩

def react (diagnostics : Diagnostics) (input : RoutingInput) : Option Answer × Diagnostics :=
  match input with
  | .addService service =>
    (none, { diagnostics with router := diagnostics.router.addService service.getSid service })
  | .removeService sid => (none, { diagnostics with router := diagnostics.router.removeService sid })
  | .offer service => (none, { diagnostics with offered := Function.update diagnostics.offered service true })
  | .stopOffer service => (none, { diagnostics with offered := Function.update diagnostics.offered service false })
  | .route request =>
    let (answer, services) :=
      diagnostics.router.route diagnostics.offered UdsServices.handleMessage diagnostics.services request
    (some answer, { diagnostics with services })
  | .expire => (none, { diagnostics with services := diagnostics.services.expire })

def step (state : Option Diagnostics) (input : RoutingInput) : Except Unit (Option Answer × Option Diagnostics) :=
  match state with
  | none => .error ()
  | some diagnostics =>
    let (answer, after) := diagnostics.react input
    .ok (answer, if answer.any Answer.ends then none else some after)

/-- Every service stands under its own SID. -/
def Keyed (diagnostics : Diagnostics) : Prop :=
  ∀ sid service, diagnostics.router.services.find? sid = some service → service.getSid = sid

theorem keyed_make (services : UdsServices) : (make services).Keyed := by
  intro sid service found
  cases found

theorem Keyed.react {diagnostics : Diagnostics} (keyed : diagnostics.Keyed) (input : RoutingInput) :
    (diagnostics.react input).2.Keyed := by
  cases input with
  | addService service =>
    intro sid found there
    replace there : (diagnostics.router.services.insert service.getSid service).find? sid = some found := there
    rw [OrderedMap.find?_insert] at there
    split_ifs at there with same
    · cases there
      exact same.symm
    · exact keyed sid found there
  | removeService gone =>
    intro sid service there
    replace there : (diagnostics.router.services.erase gone).find? sid = some service := there
    rw [OrderedMap.find?_erase] at there
    split_ifs at there
    exact keyed sid service there
  | offer | stopOffer | route | expire => exact keyed

/-- As long as there is a state, its router is keyed. -/
def AllKeyed (state : Option Diagnostics) : Prop := ∀ diagnostics ∈ state, diagnostics.Keyed

theorem AllKeyed.step {state state' : Option Diagnostics} {input : RoutingInput} {answer : Option Answer}
    (keyed : AllKeyed state) (taken : Diagnostics.step state input = .ok (answer, state')) : AllKeyed state' := by
  cases state with
  | none => cases taken
  | some diagnostics =>
    cases taken
    split_ifs
    · exact fun _ there => by cases there
    · rintro _ ⟨⟩
      exact (keyed diagnostics rfl).react input

end Diagnostics
end AdaptiveAutosar.Diag
