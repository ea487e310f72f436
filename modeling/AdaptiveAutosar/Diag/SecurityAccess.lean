import AdaptiveAutosar.Diag.UdsService
import AdaptiveAutosar.Foundations.BigEndian
import AdaptiveAutosar.Foundations.OrderedMap

/-! # SecurityAccess

`ara::diag::SecurityAccess` with its `DelayTimer`. A level is kept under the sub-function that its seed
was requested with. The end of the delay is an input of its own; the thread that has waited for it is
not joined, and a second `Start` would assign to it.
-/

namespace AdaptiveAutosar.Diag
open Foundations Foundations.BigEndian
set_option autoImplicit false

/-! ## The delay timer -/

structure DelayTimer where
  /-- The duration in seconds while the thread waits. -/
  delay : Option ℤ
  joinable : Bool
  deriving DecidableEq, Repr

namespace DelayTimer

def make : DelayTimer := ⟨none, false⟩

def isActive (timer : DelayTimer) : Bool := timer.delay.isSome

/-- `none` is `std::terminate`, from the assignment to a thread that is joinable. -/
def start (timer : DelayTimer) (delayDuration : ℤ) : Option DelayTimer :=
  if timer.isActive then some timer
  else if timer.joinable then none
  else some ⟨some delayDuration, true⟩

/-- The wait ends, with the timeout or without a reason. -/
def expire (timer : DelayTimer) : DelayTimer := { timer with delay := none }

end DelayTimer

/-! ## The service -/

structure SecurityLevel where
  unlocked : Bool
  seed : UInt16
  deriving DecidableEq, Repr

inductive KeyCompareResultType where
  | keyValid
  | keyInvalid
  deriving DecidableEq, Repr

structure SecurityAccess where
  seed : UInt16
  securityLevels : OrderedMap UInt8 SecurityLevel
  delayTimer : DelayTimer
  failedUnlockAttempt : UInt8

namespace SecurityAccess

def cSid : UInt8 := 0x27
def cInitialSeed : UInt16 := 1
def cSubFunctionIndex : ℕ := 1
def cDataRecordOffset : ℕ := 2
def cKeyLength : ℕ := 2
def cSuppressPosRspMask : UInt8 := 0x80
def cGeneralReject : UInt8 := 0x10
def cInvalidKey : UInt8 := 0x35
def cExceededNumberOfAttempts : UInt8 := 0x36
def cIsoReservedSubFunction : UInt8 := 0x00
def cIsoReservedLBound : UInt8 := 0x43
def cIsoReservedHBound : UInt8 := 0x5e
def cSupplierReservedLBound : UInt8 := 0x61
def cSupplierReservedHBound : UInt8 := 0x7f
def cEncryptorKey : String := "Encryptor"
def cAttemptThresholdKey : String := "AttemptThreshold"
def cExceededAttemptDelayKey : String := "ExceededAttemptDelay"

def make : SecurityAccess := ⟨cInitialSeed, OrderedMap.empty, .make, 0⟩

/-- The sub-function without the bit that suppresses a positive response. -/
def neutral (subFunction : UInt8) : UInt8 := subFunction &&& ~~~cSuppressPosRspMask

/-- Whether the bit that suppresses a positive response is set. -/
def suppresses (subFunction : UInt8) : Bool := subFunction &&& cSuppressPosRspMask != 0

def isReserved (subFunction : UInt8) : Bool :=
  neutral subFunction = cIsoReservedSubFunction ∨
    (cIsoReservedLBound ≤ neutral subFunction ∧ neutral subFunction ≤ cIsoReservedHBound) ∨
    (cSupplierReservedLBound ≤ neutral subFunction ∧ neutral subFunction ≤ cSupplierReservedHBound)

/-- The code to refuse the request with, if there is a problem. -/
def hasProblem (service : SecurityAccess) (requestData : Bytes) : Option UInt8 :=
  match requestData[cSubFunctionIndex]? with
  | none => some cIncorrectMessageLength
  | some subFunction =>
    if isReserved subFunction then some cSubFunctionNotSupported
    else if service.delayTimer.isActive then some cExceededNumberOfAttempts
    else none

/-! ## Seeds -/

def tryFetchSeed (service : SecurityAccess) (level : UInt8) : Option UInt16 :=
  (service.securityLevels.find? level).map fun securityLevel =>
    if securityLevel.unlocked then 0 else securityLevel.seed

def addLevel (service : SecurityAccess) (level : UInt8) : SecurityAccess :=
  { service with
    securityLevels := service.securityLevels.insert level ⟨false, service.seed⟩
    seed := if service.seed = 0xffff then cInitialSeed else service.seed + 1 }

def getSeed (service : SecurityAccess) (subFunction : UInt8) : Bytes × SecurityAccess :=
  match service.tryFetchSeed subFunction with
  | some seed => (bytes16 seed, service)
  | none => (bytes16 service.seed, service.addLevel subFunction)

def handleRequestSeed (service : SecurityAccess) (subFunction : UInt8) (suppressPositiveResponse : Bool) :
    Answer × SecurityAccess :=
  let (seed, service) := service.getSeed subFunction
  (.response (if suppressPositiveResponse then [] else cSid :: seed), service)

/-! ## Keys -/

def compareKey (service : SecurityAccess) (subFunction : UInt8) (key : Bytes) (metaInfo : MetaInfo) :
    Outcome KeyCompareResultType := do
  match ← metaInfo.tryExtractValue cEncryptorKey with
  | none => pure .keyInvalid
  | some encryptor =>
    match service.securityLevels.find? subFunction, key with
    | none, _ => .error (.thrown (.outOfRange "map::at"))
    | some securityLevel, msb :: lsb :: _ =>
      if securityLevel.seed ^^^ UInt16.ofInt encryptor = word16 msb lsb then pure .keyValid
      else pure .keyInvalid
    | some _, _ => .error (.thrown (.outOfRange "vector::_M_range_check"))

def handlePassedAttempt (service : SecurityAccess) (level : UInt8) (securityLevel : SecurityLevel) :
    SecurityAccess :=
  -- the loop before it locks copies of the levels
  { service with
    securityLevels := service.securityLevels.insert level { securityLevel with unlocked := true } }

/-- `none` is `std::terminate`. -/
def handleFailedAttempt (service : SecurityAccess) (metaInfo : MetaInfo) :
    Outcome (Option SecurityAccess) := do
  if service.delayTimer.isActive then pure (some service)
  else
    match ← metaInfo.tryExtractValue cAttemptThresholdKey with
    | none => pure (some service)
    | some attemptThreshold =>
      match ← metaInfo.tryExtractValue cExceededAttemptDelayKey with
      | none => pure (some service)
      | some exceededAttemptDelay =>
        let failedUnlockAttempt := service.failedUnlockAttempt + 1
        if UInt8.ofInt attemptThreshold < failedUnlockAttempt then
          pure ((service.delayTimer.start exceededAttemptDelay).map fun delayTimer =>
            { service with delayTimer, failedUnlockAttempt := 0 })
        else pure (some { service with failedUnlockAttempt })

def handleSendKey (service : SecurityAccess) (subFunction : UInt8) (key : Bytes) (metaInfo : MetaInfo)
    (suppressPositiveResponse : Bool) : Answer × SecurityAccess :=
  if key.length = cKeyLength then
    let requestSeedSubFunction := subFunction - 1
    match service.securityLevels.find? requestSeedSubFunction with
    | none => (.refused cSid cRequestSequenceError, service)
    | some securityLevel =>
      match service.compareKey requestSeedSubFunction key metaInfo with
      | .error e => (.faulted e, service)
      | .ok .keyValid =>
        (.response
          (if suppressPositiveResponse then [] else [cSid + cPositiveResponseSidIncrement, subFunction]),
          service.handlePassedAttempt requestSeedSubFunction securityLevel)
      | .ok .keyInvalid =>
        match service.handleFailedAttempt metaInfo with
        | .error e => (.faulted e, service)
        | .ok none => (.terminated, service)
        | .ok (some service) =>
          (.refused cSid
            (if service.delayTimer.isActive then cExceededNumberOfAttempts else cInvalidKey), service)
  else (.refused cSid cIncorrectMessageLength, service)

def handleMessage (service : SecurityAccess) (request : UdsRequest) : Answer × SecurityAccess :=
  match service.hasProblem request.requestData with
  | some nrc =>
    (.refused cSid (if request.cancellationHandler.isCanceled then cGeneralReject else nrc), service)
  | none =>
    -- `at` behind the check of the length
    let subFunction := request.requestData.getD cSubFunctionIndex 0
    let parameters := request.requestData.drop cDataRecordOffset
    if subFunction % 2 = 1 then service.handleRequestSeed subFunction (suppresses subFunction)
    else service.handleSendKey subFunction parameters request.metaInfo (suppresses subFunction)

/-! ## What a request does -/

section Requests
variable {service : SecurityAccess} {request : UdsRequest}

/-- What stands in a request that has no problem. -/
structure Served (service : SecurityAccess) (request : UdsRequest) (subFunction : UInt8) : Prop where
  given : request.requestData[cSubFunctionIndex]? = some subFunction
  free : isReserved subFunction = false
  inactive : service.delayTimer.isActive = false

theorem hasProblem_eq_none :
    service.hasProblem request.requestData = none ↔ ∃ subFunction, service.Served request subFunction := by
  unfold hasProblem
  cases given : request.requestData[cSubFunctionIndex]? with
  | none =>
    refine iff_of_false (fun same => by cases same) ?_
    rintro ⟨subFunction, served⟩
    cases given.symm.trans served.given
  | some subFunction =>
    by_cases reserved : isReserved subFunction = true
    · simp only [reserved, if_true]
      refine iff_of_false (fun same => by cases same) ?_
      rintro ⟨_, served⟩
      cases given.symm.trans served.given
      exact absurd served.free (by simp [reserved])
    · by_cases active : service.delayTimer.isActive = true
      · simp only [reserved, active, if_true]
        refine iff_of_false (fun same => by cases same) ?_
        rintro ⟨_, served⟩
        exact absurd served.inactive (by simp [active])
      · simp only [reserved, active, Bool.false_eq_true, if_false]
        exact iff_of_true trivial ⟨subFunction, given, by simpa using reserved, by simpa using active⟩

theorem handleMessage_problem {nrc : UInt8} (problem : service.hasProblem request.requestData = some nrc) :
    service.handleMessage request =
      (.refused cSid (if request.cancellationHandler.isCanceled then cGeneralReject else nrc), service) := by
  rw [handleMessage, problem]

theorem Served.getD {subFunction : UInt8} (served : service.Served request subFunction) :
    request.requestData.getD cSubFunctionIndex 0 = subFunction := by
  rw [List.getD_eq_getElem?_getD, served.given, Option.getD_some]

theorem handleMessage_seed {subFunction : UInt8} (served : service.Served request subFunction)
    (odd : subFunction % 2 = 1) :
    service.handleMessage request = service.handleRequestSeed subFunction (suppresses subFunction) := by
  rw [handleMessage, hasProblem_eq_none.mpr ⟨subFunction, served⟩]
  simp only [served.getD, odd, if_true]

theorem handleMessage_key {subFunction : UInt8} (served : service.Served request subFunction)
    (even : ¬ subFunction % 2 = 1) :
    service.handleMessage request =
      service.handleSendKey subFunction (request.requestData.drop cDataRecordOffset) request.metaInfo
        (suppresses subFunction) := by
  rw [handleMessage, hasProblem_eq_none.mpr ⟨subFunction, served⟩]
  simp only [served.getD, even, if_false]

section Keys
variable {subFunction : UInt8} {key : Bytes} {metaInfo : MetaInfo} {securityLevel : SecurityLevel}

theorem handleSendKey_short (short : ¬ key.length = cKeyLength) (suppressed : Bool) :
    service.handleSendKey subFunction key metaInfo suppressed =
      (.refused cSid cIncorrectMessageLength, service) := by
  rw [handleSendKey, if_neg short]

theorem handleSendKey_absent (whole : key.length = cKeyLength)
    (absent : service.securityLevels.find? (subFunction - 1) = none) (suppressed : Bool) :
    service.handleSendKey subFunction key metaInfo suppressed =
      (.refused cSid cRequestSequenceError, service) := by
  simp only [handleSendKey, whole, absent, if_true]

theorem handleSendKey_error {e : Fault} (whole : key.length = cKeyLength)
    (stored : service.securityLevels.find? (subFunction - 1) = some securityLevel)
    (compared : service.compareKey (subFunction - 1) key metaInfo = .error e) (suppressed : Bool) :
    service.handleSendKey subFunction key metaInfo suppressed = (.faulted e, service) := by
  simp only [handleSendKey, whole, stored, compared, if_true]

theorem handleSendKey_valid (whole : key.length = cKeyLength)
    (stored : service.securityLevels.find? (subFunction - 1) = some securityLevel)
    (compared : service.compareKey (subFunction - 1) key metaInfo = .ok .keyValid) (suppressed : Bool) :
    service.handleSendKey subFunction key metaInfo suppressed =
      (.response (if suppressed then [] else [cSid + cPositiveResponseSidIncrement, subFunction]),
        service.handlePassedAttempt (subFunction - 1) securityLevel) := by
  simp only [handleSendKey, whole, stored, compared, if_true]

/-- How a wrong key is answered. -/
def rejectKey (service : SecurityAccess) (metaInfo : MetaInfo) : Answer × SecurityAccess :=
  match service.handleFailedAttempt metaInfo with
  | .error e => (.faulted e, service)
  | .ok none => (.terminated, service)
  | .ok (some next) =>
    (.refused cSid (if next.delayTimer.isActive then cExceededNumberOfAttempts else cInvalidKey), next)

theorem handleSendKey_invalid (whole : key.length = cKeyLength)
    (stored : service.securityLevels.find? (subFunction - 1) = some securityLevel)
    (compared : service.compareKey (subFunction - 1) key metaInfo = .ok .keyInvalid) (suppressed : Bool) :
    service.handleSendKey subFunction key metaInfo suppressed = service.rejectKey metaInfo := by
  simp only [handleSendKey, whole, stored, compared, if_true]
  rfl

end Keys

/-- The level whose key is compared for the request, and what the comparison says. -/
def comparison (service : SecurityAccess) (request : UdsRequest) :
    Option (UInt8 × Outcome KeyCompareResultType) :=
  match service.hasProblem request.requestData with
  | some _ => none
  | none =>
    let level := request.requestData.getD cSubFunctionIndex 0 - 1
    let key := request.requestData.drop cDataRecordOffset
    if request.requestData.getD cSubFunctionIndex 0 % 2 = 1 then none
    else if key.length = cKeyLength then
      (service.securityLevels.find? level).map fun _ => (level, service.compareKey level key request.metaInfo)
    else none

/-- What the handling of a request can do. -/
inductive Handling (service : SecurityAccess) (request : UdsRequest) : Answer → SecurityAccess → Prop where
  | refuses (nrc : UInt8) (uncompared : service.comparison request = none) :
      Handling service request (.refused cSid nrc) service
  | fetches {level : UInt8} {responseData : Bytes} (stored : (service.tryFetchSeed level).isSome)
      (uncompared : service.comparison request = none) :
      Handling service request (.response responseData) service
  | adds {level : UInt8} {responseData : Bytes} (absent : service.tryFetchSeed level = none)
      (uncompared : service.comparison request = none) :
      Handling service request (.response responseData) (service.addLevel level)
  | faults {level : UInt8} {e : Fault} (compared : service.comparison request = some (level, .error e)) :
      Handling service request (.faulted e) service
  | passes {level : UInt8} {securityLevel : SecurityLevel} {responseData : Bytes}
      (stored : service.securityLevels.find? level = some securityLevel)
      (compared : service.comparison request = some (level, .ok .keyValid)) :
      Handling service request (.response responseData) (service.handlePassedAttempt level securityLevel)
  | breaks {level : UInt8} {e : Fault} (compared : service.comparison request = some (level, .ok .keyInvalid))
      (broken : service.handleFailedAttempt request.metaInfo = .error e) :
      Handling service request (.faulted e) service
  | terminates {level : UInt8} (compared : service.comparison request = some (level, .ok .keyInvalid))
      (ended : service.handleFailedAttempt request.metaInfo = .ok none) :
      Handling service request .terminated service
  | fails {level : UInt8} {next : SecurityAccess} (nrc : UInt8)
      (compared : service.comparison request = some (level, .ok .keyInvalid))
      (counted : service.handleFailedAttempt request.metaInfo = .ok (some next)) :
      Handling service request (.refused cSid nrc) next

theorem handling_seed {subFunction : UInt8} (served : service.Served request subFunction)
    (odd : subFunction % 2 = 1) :
    Handling service request (service.handleMessage request).1 (service.handleMessage request).2 := by
  have uncompared : service.comparison request = none := by
    rw [comparison, hasProblem_eq_none.mpr ⟨subFunction, served⟩]
    simp only [served.getD, odd, if_true]
  rw [handleMessage_seed served odd, handleRequestSeed, getSeed]
  cases fetched : service.tryFetchSeed subFunction with
  | some seed =>
    have stored : (service.tryFetchSeed subFunction).isSome := by
      rw [fetched]
      rfl
    exact .fetches stored uncompared
  | none => exact .adds fetched uncompared

theorem handling_key {subFunction : UInt8} (served : service.Served request subFunction)
    (even : ¬ subFunction % 2 = 1) :
    Handling service request (service.handleMessage request).1 (service.handleMessage request).2 := by
  have compared : service.comparison request =
      if (request.requestData.drop cDataRecordOffset).length = cKeyLength then
        (service.securityLevels.find? (subFunction - 1)).map fun _ => (subFunction - 1,
          service.compareKey (subFunction - 1) (request.requestData.drop cDataRecordOffset) request.metaInfo)
      else none := by
    rw [comparison, hasProblem_eq_none.mpr ⟨subFunction, served⟩]
    simp only [served.getD, even, if_false]
  rw [handleMessage_key served even]
  by_cases whole : (request.requestData.drop cDataRecordOffset).length = cKeyLength
  · rw [if_pos whole] at compared
    cases stored : service.securityLevels.find? (subFunction - 1) with
    | none =>
      rw [stored] at compared
      simp only [handleSendKey, whole, stored, if_true]
      exact .refuses _ compared
    | some securityLevel =>
      rw [stored] at compared
      cases result : service.compareKey (subFunction - 1) (request.requestData.drop cDataRecordOffset)
          request.metaInfo with
      | error e =>
        rw [result] at compared
        simp only [handleSendKey, whole, stored, result, if_true]
        exact .faults compared
      | ok keyCompareResult =>
        rw [result] at compared
        cases keyCompareResult with
        | keyValid =>
          simp only [handleSendKey, whole, stored, result, if_true]
          exact .passes stored compared
        | keyInvalid =>
          cases counted : service.handleFailedAttempt request.metaInfo with
          | error e =>
            simp only [handleSendKey, whole, stored, result, counted, if_true]
            exact .breaks compared counted
          | ok next =>
            cases next with
            | none =>
              simp only [handleSendKey, whole, stored, result, counted, if_true]
              exact .terminates compared counted
            | some next =>
              simp only [handleSendKey, whole, stored, result, counted, if_true]
              exact .fails _ compared counted
  · rw [if_neg whole] at compared
    simp only [handleSendKey, whole, if_false]
    exact .refuses _ compared

theorem handling (service : SecurityAccess) (request : UdsRequest) :
    Handling service request (service.handleMessage request).1 (service.handleMessage request).2 := by
  cases problem : service.hasProblem request.requestData with
  | some nrc =>
    have uncompared : service.comparison request = none := by rw [comparison, problem]
    rw [handleMessage_problem problem]
    exact .refuses _ uncompared
  | none =>
    obtain ⟨subFunction, served⟩ := hasProblem_eq_none.mp problem
    by_cases odd : subFunction % 2 = 1
    · exact handling_seed served odd
    · exact handling_key served odd

end Requests

end SecurityAccess

inductive SecurityInput where
  | request (request : UdsRequest)
  | expire
  deriving DecidableEq, Repr

namespace SecurityAccess

def expire (service : SecurityAccess) : SecurityAccess :=
  { service with delayTimer := service.delayTimer.expire }

/-- The answer to a request, if it is one, and the service behind it. -/
def react (service : SecurityAccess) : SecurityInput → Option Answer × SecurityAccess
  | .request request => ((service.handleMessage request).map some id)
  | .expire => (none, service.expire)

/-! ## The levels that are unlocked -/

def isUnlocked (service : SecurityAccess) (level : UInt8) : Bool :=
  ((service.securityLevels.find? level).map SecurityLevel.unlocked).getD false

/-- The level whose correct key the input gives. -/
def accepts (service : SecurityAccess) : SecurityInput → Option UInt8
  | .request request =>
    match service.comparison request with
    | some (level, .ok .keyValid) => some level
    | _ => none
  | .expire => none

variable {service : SecurityAccess}

theorem tryFetchSeed_eq_none (level : UInt8) :
    service.tryFetchSeed level = none ↔ service.securityLevels.find? level = none := Option.map_eq_none_iff

theorem isUnlocked_addLevel {level : UInt8} (absent : service.tryFetchSeed level = none) (k : UInt8) :
    (service.addLevel level).isUnlocked k = service.isUnlocked k := by
  have locked := (service.tryFetchSeed_eq_none level).mp absent
  unfold isUnlocked addLevel
  rw [OrderedMap.find?_insert]
  by_cases same : k = level
  · rw [if_pos same, same, locked]
    rfl
  · rw [if_neg same]

theorem isUnlocked_handlePassedAttempt (level : UInt8) (securityLevel : SecurityLevel) (k : UInt8) :
    (service.handlePassedAttempt level securityLevel).isUnlocked k =
      if k = level then true else service.isUnlocked k := by
  unfold isUnlocked handlePassedAttempt
  rw [OrderedMap.find?_insert]
  by_cases same : k = level
  · rw [if_pos same, if_pos same]
    rfl
  · rw [if_neg same, if_neg same]

/-- A failed attempt is counted or starts the delay, and leaves the levels and the next seed. -/
theorem handleFailedAttempt_levels {metaInfo : MetaInfo} {next : SecurityAccess}
    (counted : service.handleFailedAttempt metaInfo = .ok (some next)) :
    next.securityLevels = service.securityLevels ∧ next.seed = service.seed := by
  unfold handleFailedAttempt at counted
  split at counted
  · cases counted
    exact ⟨rfl, rfl⟩
  · obtain ⟨attemptThreshold, -, counted⟩ := bind_eq_ok.mp counted
    cases attemptThreshold with
    | none =>
      cases counted
      exact ⟨rfl, rfl⟩
    | some attemptThreshold =>
      obtain ⟨exceededAttemptDelay, -, counted⟩ := bind_eq_ok.mp counted
      cases exceededAttemptDelay with
      | none =>
        cases counted
        exact ⟨rfl, rfl⟩
      | some exceededAttemptDelay =>
        simp only at counted
        split at counted
        · obtain ⟨delayTimer, -, rfl⟩ := Option.map_eq_some_iff.mp (Except.ok.inj counted)
          exact ⟨rfl, rfl⟩
        · cases counted
          exact ⟨rfl, rfl⟩

theorem accepts_of_comparison {request : UdsRequest} {compared : Option (UInt8 × Outcome KeyCompareResultType)}
    (same : service.comparison request = compared)
    (invalid : ∀ level, compared ≠ some (level, .ok .keyValid)) : service.accepts (.request request) = none := by
  rw [accepts, same]
  split
  · next level => exact absurd rfl (invalid level)
  · rfl

/-- Behind every input the levels unlocked before are unlocked still, and the one whose key was accepted. -/
theorem isUnlocked_react (service : SecurityAccess) (input : SecurityInput) (k : UInt8) :
    (service.react input).2.isUnlocked k = true ↔
      service.accepts input = some k ∨ service.isUnlocked k = true := by
  cases input with
  | expire => simp [accepts, react, expire, isUnlocked]
  | request request =>
    have handled := service.handling request
    show (service.handleMessage request).2.isUnlocked k = true ↔ _
    generalize (service.handleMessage request).1 = answer at handled
    generalize (service.handleMessage request).2 = after at handled
    cases handled with
    | refuses nrc uncompared | fetches stored uncompared =>
      rw [accepts_of_comparison uncompared (fun _ same => by cases same)]
      simp
    | adds absent uncompared =>
      rw [accepts_of_comparison uncompared (fun _ same => by cases same), isUnlocked_addLevel absent]
      simp
    | faults compared | breaks compared broken | terminates compared ended =>
      rw [accepts_of_comparison compared (fun _ same => by cases same)]
      simp
    | passes stored compared =>
      rw [accepts, compared, isUnlocked_handlePassedAttempt]
      split_ifs with same
      · simp [same]
      · simp [Ne.symm same]
    | fails nrc compared counted =>
      rw [accepts_of_comparison compared (fun _ same => by cases same), isUnlocked, isUnlocked,
        (handleFailedAttempt_levels counted).1]
      simp

end SecurityAccess
end AdaptiveAutosar.Diag
