import AdaptiveAutosar.Diag.UdsServiceRouter

/-! # The format of a response

What the router answers to a request, whichever of the services it is routed to and in whichever state they are.
A seed is sent behind the SID of the request.
-/

namespace AdaptiveAutosar.Diag
open Foundations Foundations.BigEndian
set_option autoImplicit false

/-! ## Responses to a SID -/

/-- A response, if there is one, refuses the SID, or it is positive for the SID and its record is `good`. -/
def Answer.Fits (sid : UInt8) (good : Bytes → Prop) : Answer → Prop
  | .response [] => True
  | .response responseData =>
    (∃ nrc, responseData = [cNegativeResponseCodeSid, sid, nrc]) ∨
      ∃ record, responseData = (sid + cPositiveResponseSidIncrement) :: record ∧ good record
  | _ => True

def hasSubFunction (sid : UInt8) : Bool := sid = SecurityAccess.cSid ∨ sid = EcuResetRequest.cSid

/-- The record begins with the sub-function of the request, if the service has one. -/
def Echoes (sid : UInt8) (requestData record : Bytes) : Prop :=
  hasSubFunction sid = true → ∃ subFunction, requestData[1]? = some subFunction ∧ record.head? = some subFunction

/-- An empty request has no response, and the response to another one fits its SID. -/
def Conforms (requestData : Bytes) (answer : Answer) : Prop :=
  match requestData with
  | [] => ∀ responseData, answer ≠ .response responseData
  | sid :: _ => answer.Fits sid (Echoes sid requestData)

variable {sid : UInt8} {good : Bytes → Prop}

theorem fits_refused (sid nrc : UInt8) (good : Bytes → Prop) : (Answer.refused sid nrc).Fits sid good :=
  .inl ⟨nrc, rfl⟩

theorem fits_positive {record : Bytes} (isGood : good record) :
    (Answer.response ((sid + cPositiveResponseSidIncrement) :: record)).Fits sid good :=
  .inr ⟨record, rfl, isGood⟩

theorem fits_unless {record : Bytes} {suppressed : Bool} (isGood : good record) :
    (Answer.response (if suppressed then [] else (sid + cPositiveResponseSidIncrement) :: record)).Fits sid good := by
  cases suppressed with
  | true => trivial
  | false => exact fits_positive isGood

/-! ## The services -/

theorem EcuResetRequest.fits (service : EcuResetRequest) (request : UdsRequest) :
    (service.handleMessage request).1.Fits cSid (Echoes cSid request.requestData) := by
  have handled := service.handling request
  generalize (service.handleMessage request).1 = answer at handled
  generalize (service.handleMessage request).2 = after at handled
  cases handled with
  | refuses | lacks => exact fits_refused _ _ _
  | resets given => exact fits_positive fun _ => ⟨_, given, rfl⟩
  | enables given => exact fits_positive fun _ => ⟨_, given, rfl⟩
  | faults => trivial

theorem RequestTransfer.fits (service : RequestTransfer) (transferData : TransferData) (request : UdsRequest)
    (plain : hasSubFunction service.sid = false) :
    (service.handleMessage transferData request).1.Fits service.sid (Echoes service.sid request.requestData) := by
  cases configured : service.configure transferData request.requestData with
  | none =>
    obtain ⟨nrc, handled⟩ := handleMessage_none configured
    rw [handled]
    exact fits_refused _ _ _
  | some after =>
    rw [handleMessage_some configured, tryGeneratePositiveResponse]
    rcases request.metaInfo.tryExtractValue cMaxNumberOfBlockLengthKey with e | (_ | number)
    · trivial
    · exact fits_refused _ _ _
    · exact fits_positive fun has => by simp [plain] at has

theorem TransferData.fits (service : TransferData) (request : UdsRequest) :
    (service.handleMessage request).1.Fits cSid (Echoes cSid request.requestData) := by
  have plain : ¬ hasSubFunction cSid = true := by decide
  have handled := service.handling request
  generalize (service.handleMessage request).1 = answer at handled
  generalize (service.handleMessage request).2 = after at handled
  cases handled with
  | refuses => exact fits_refused _ _ _
  | stores | loads => exact fits_positive fun has => absurd has plain
  | overreads | leaves => trivial

theorem RequestTransferExit.fits (transferData : TransferData) (requestData : Bytes) :
    (handleMessage transferData).1.Fits cSid (Echoes cSid requestData) := by
  have plain : ¬ hasSubFunction cSid = true := by decide
  unfold handleMessage
  split
  · exact fits_refused _ _ _
  · exact fits_positive fun has => absurd has plain

namespace SecurityAccess
variable {service : SecurityAccess} {request : UdsRequest}

/-- The request is answered with a seed, and the answer is not suppressed. -/
def sendsSeed (service : SecurityAccess) (request : UdsRequest) : Bool :=
  let subFunction := request.requestData.getD cSubFunctionIndex 0
  service.hasProblem request.requestData = none ∧ subFunction % 2 = 1 ∧ suppresses subFunction = false

theorem sendsSeed_iff {subFunction : UInt8} (served : service.Served request subFunction) :
    service.sendsSeed request = true ↔ subFunction % 2 = 1 ∧ suppresses subFunction = false := by
  unfold sendsSeed
  rw [served.getD, decide_eq_true_iff]
  exact ⟨And.right, fun both => ⟨hasProblem_eq_none.mpr ⟨subFunction, served⟩, both⟩⟩

/-- The SID of a positive response is not that of the request. -/
theorem fits_seed (seed : Bytes) (suppressed : Bool) :
    (Answer.response (if suppressed then [] else cSid :: seed)).Fits cSid good ↔ suppressed = true := by
  cases suppressed with
  | true => exact iff_of_true trivial rfl
  | false =>
    refine iff_of_false ?_ Bool.noConfusion
    rintro (⟨nrc, same⟩ | ⟨record, same, -⟩)
    · cases (List.cons.inj same).1
    · cases (List.cons.inj same).1

theorem handleSendKey_fits (service : SecurityAccess) {subFunction : UInt8} (key : Bytes) (metaInfo : MetaInfo)
    (suppressed : Bool) (echoed : good [subFunction]) :
    (service.handleSendKey subFunction key metaInfo suppressed).1.Fits cSid good := by
  by_cases whole : key.length = cKeyLength
  · cases stored : service.securityLevels.find? (subFunction - 1) with
    | none =>
      rw [handleSendKey_absent whole stored]
      exact fits_refused _ _ _
    | some securityLevel =>
      cases compared : service.compareKey (subFunction - 1) key metaInfo with
      | error e =>
        rw [handleSendKey_error whole stored compared]
        trivial
      | ok result =>
        cases result with
        | keyValid =>
          rw [handleSendKey_valid whole stored compared]
          exact fits_unless echoed
        | keyInvalid =>
          rw [handleSendKey_invalid whole stored compared, rejectKey]
          rcases service.handleFailedAttempt metaInfo with e | (_ | next)
          · trivial
          · trivial
          · exact fits_refused _ _ _
  · rw [handleSendKey_short whole]
    exact fits_refused _ _ _

theorem fits_iff (service : SecurityAccess) (request : UdsRequest) :
    (service.handleMessage request).1.Fits cSid (Echoes cSid request.requestData) ↔
      service.sendsSeed request = false := by
  cases problem : service.hasProblem request.requestData with
  | some nrc =>
    rw [handleMessage_problem problem]
    refine iff_of_true (fits_refused _ _ _) ?_
    rw [sendsSeed, problem]
    simp
  | none =>
    obtain ⟨subFunction, served⟩ := hasProblem_eq_none.mp problem
    rw [Bool.eq_false_iff, ne_eq, sendsSeed_iff served]
    by_cases odd : subFunction % 2 = 1
    · rw [handleMessage_seed served odd, handleRequestSeed]
      refine (fits_seed _ _).trans ?_
      simp [odd]
    · rw [handleMessage_key served odd]
      refine iff_of_true (service.handleSendKey_fits _ _ _ fun _ => ⟨subFunction, served.given, rfl⟩) ?_
      exact fun both => odd both.1

end SecurityAccess

/-! ## The router -/

/-- The request is routed to `SecurityAccess` and sends a seed. -/
def Diagnostics.routesSeed (diagnostics : Diagnostics) (request : UdsRequest) : Bool :=
  (request.requestData.head?.bind (diagnostics.router.find diagnostics.offered)) = some .securityAccess ∧
    diagnostics.services.securityAccess.sendsSeed request

theorem UdsServices.fits_iff (services : UdsServices) (service : RoutableUdsService) (request : UdsRequest) :
    (services.handleMessage service request).1.Fits service.getSid (Echoes service.getSid request.requestData) ↔
      ¬ (service = .securityAccess ∧ services.securityAccess.sendsSeed request = true) := by
  cases service with
  | securityAccess =>
    refine (services.securityAccess.fits_iff request).trans ?_
    simp
  | ecuReset => exact iff_of_true (services.ecuReset.fits request) (by simp)
  | requestDownload => exact iff_of_true (downloadService.fits _ request (by decide)) (by simp)
  | requestUpload => exact iff_of_true (uploadService.fits _ request (by decide)) (by simp)
  | transferData => exact iff_of_true (services.transferData.fits request) (by simp)
  | requestTransferExit => exact iff_of_true (RequestTransferExit.fits _ request.requestData) (by simp)

theorem route_conforms_iff (diagnostics : Diagnostics) (keyed : diagnostics.Keyed) (request : UdsRequest) :
    Conforms request.requestData (diagnostics.router.route diagnostics.offered UdsServices.handleMessage
        diagnostics.services request).1 ↔
      diagnostics.routesSeed request = false := by
  rw [Diagnostics.routesSeed, decide_eq_false_iff_not]
  unfold Conforms UdsServiceRouter.route
  cases given : request.requestData with
  | nil => exact iff_of_true (fun _ same => by cases same) (fun both => by cases both.1)
  | cons sid rest =>
    rw [List.head?_cons, Option.bind_some]
    dsimp only
    cases found : diagnostics.router.find diagnostics.offered sid with
    | none => exact iff_of_true (fits_refused _ _ _) (fun both => by cases both.1)
    | some service =>
      obtain rfl : service.getSid = sid := keyed sid service (Option.filter_eq_some_iff.mp found).1
      rw [← given, Option.some.injEq]
      exact diagnostics.services.fits_iff service request

/-- A routed request is answered in the format. -/
def Formatted (taken : Taken (Option Diagnostics) RoutingInput (Option Answer)) : Prop :=
  ∀ request, taken.input = .route request → ∀ answer ∈ taken.output, Conforms request.requestData answer

/-- The input is no request that a seed is sent for. -/
def Seedless : Option Diagnostics → RoutingInput → Prop
  | some diagnostics, .route request => diagnostics.routesSeed request = false
  | _, _ => True

instance (state : Option Diagnostics) (input : RoutingInput) : Decidable (Seedless state input) := by
  unfold Seedless
  split <;> infer_instance

/-- For every sequence of requests, of services that come and go, and of ends of the delay: every response has the
format exactly when no seed is sent. -/
theorem formatted_iff_seedless (services : UdsServices)
    {trace : List (Taken (Option Diagnostics) RoutingInput (Option Answer))} {state : Option Diagnostics}
    (run : Run Diagnostics.step (some (.make services)) trace state) :
    (∀ taken ∈ trace, Formatted taken) ↔ Run.Every Seedless trace := by
  have start : Diagnostics.AllKeyed (some (.make services)) := by
    rintro _ ⟨⟩
    exact Diagnostics.keyed_make services
  refine Run.all_iff_every start (fun _ _ _ _ keyed taken => keyed.step taken) ?_ run
  intro state input answer state' keyed taken
  cases state with
  | none => cases taken
  | some diagnostics =>
    cases taken
    cases input with
    | route request =>
      have here := route_conforms_iff diagnostics (keyed diagnostics rfl) request
      constructor
      · exact fun formatted => here.mp (formatted request rfl _ rfl)
      · intro seedless other isRequest answer there
        cases isRequest
        cases there
        exact here.mpr seedless
    | addService | removeService | offer | stopOffer | expire =>
      exact iff_of_true (fun _ isRequest => by cases isRequest) trivial

def idleServices : UdsServices := .make 0 0 TransferData.blankPool

def plainRequest (requestData : Bytes) : RoutingInput := .route ⟨requestData, ⟨[]⟩, ⟨false⟩⟩

/-- A service that is not offered, a reset, and a service that is not there. -/
theorem formatted_iff_seedless_reset : ∃ trace state,
    Run.play Diagnostics.step [] (some (.make idleServices)) [.addService .ecuReset, plainRequest [0x11, 1],
        .offer .ecuReset, plainRequest [0x11, 1], plainRequest [0x27, 1]] = .ok (trace, state) ∧
      (∀ taken ∈ trace, Formatted taken) ∧
      trace.map Taken.output = [some (.refused 0x27 0x11), some (.response [0x51, 1]), none,
        some (.refused 0x11 0x11), none] := by
  obtain ⟨trace, state, played, every, outputs⟩ : ∃ trace state,
      Run.play Diagnostics.step [] (some (.make idleServices)) [.addService .ecuReset, plainRequest [0x11, 1],
          .offer .ecuReset, plainRequest [0x11, 1], plainRequest [0x27, 1]] = .ok (trace, state) ∧
        Run.Every Seedless trace ∧
        trace.map Taken.output = [some (.refused 0x27 0x11), some (.response [0x51, 1]), none,
          some (.refused 0x11 0x11), none] := by
    exact ⟨_, _, rfl, by decide, rfl⟩
  exact ⟨trace, state, played, (formatted_iff_seedless idleServices (Run.of_play .start played)).mpr every, outputs⟩

/-- The first seed is sent behind the SID of the request. -/
theorem not_always_formatted : ∃ trace state,
    Run.play Diagnostics.step [] (some (.make idleServices)) [.addService .securityAccess,
        .offer .securityAccess, plainRequest [0x27, 1]] = .ok (trace, state) ∧
      trace.map Taken.output = [some (.response [0x27, 0, 1]), none, none] ∧ ¬ ∀ taken ∈ trace, Formatted taken := by
  refine ⟨_, _, rfl, rfl, fun all => ?_⟩
  rcases all _ List.mem_cons_self _ rfl _ rfl with ⟨nrc, same⟩ | ⟨record, same, -⟩
  · cases (List.cons.inj same).1
  · cases (List.cons.inj same).1

end AdaptiveAutosar.Diag
