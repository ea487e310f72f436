import AdaptiveAutosar.Diag.SecurityAccess

/-! # The bit that suppresses a positive response

Two runs of the service on the same inputs, but for this bit in the sub-function of some requests. Levels
are stored and looked up under the sub-function with the bit.
-/

namespace AdaptiveAutosar.Diag
open Foundations Foundations.BigEndian
set_option autoImplicit false

/-! ## The sub-function with its bit flipped -/

def flip (subFunction : UInt8) : UInt8 := subFunction ^^^ SecurityAccess.cSuppressPosRspMask

set_option maxRecDepth 20000 in
theorem flip_table : ∀ i : Fin 256,
    SecurityAccess.isReserved (flip (UInt8.ofNat i.val)) = SecurityAccess.isReserved (UInt8.ofNat i.val) ∧
    flip (UInt8.ofNat i.val) % 2 = UInt8.ofNat i.val % 2 ∧
    flip (UInt8.ofNat i.val) ≠ UInt8.ofNat i.val ∧
    SecurityAccess.suppresses (flip (UInt8.ofNat i.val)) = !SecurityAccess.suppresses (UInt8.ofNat i.val) ∧
    flip (UInt8.ofNat i.val) - 1 ≠ UInt8.ofNat i.val - 1 := by
  decide

theorem flip_facts (subFunction : UInt8) :
    SecurityAccess.isReserved (flip subFunction) = SecurityAccess.isReserved subFunction ∧
      flip subFunction % 2 = subFunction % 2 ∧ flip subFunction ≠ subFunction ∧
      SecurityAccess.suppresses (flip subFunction) = !SecurityAccess.suppresses subFunction ∧
      flip subFunction - 1 ≠ subFunction - 1 := by
  have row := flip_table ⟨subFunction.toNat, subFunction.toNat_lt⟩
  simpa only [UInt8.ofNat_toNat] using row

def UdsRequest.flipped (request : UdsRequest) : UdsRequest :=
  { request with requestData := request.requestData.modify SecurityAccess.cSubFunctionIndex flip }

def SecurityInput.flipped : SecurityInput → SecurityInput
  | .request given => .request given.flipped
  | .expire => .expire

theorem UdsRequest.flipped_getElem? (request : UdsRequest) :
    request.flipped.requestData[SecurityAccess.cSubFunctionIndex]? =
      request.requestData[SecurityAccess.cSubFunctionIndex]?.map flip := by
  rw [UdsRequest.flipped, List.getElem?_modify]
  simp

theorem UdsRequest.flipped_drop (request : UdsRequest) :
    request.flipped.requestData.drop SecurityAccess.cDataRecordOffset =
      request.requestData.drop SecurityAccess.cDataRecordOffset := by
  match request with
  | ⟨[], _, _⟩ => rfl
  | ⟨[_], _, _⟩ => rfl
  | ⟨_ :: _ :: _, _, _⟩ => rfl

/-! ## Two runs -/

/-- The answers are the same, or, to a flipped request, a positive response that one of the runs suppresses. -/
def Agree (flipped : Bool) (answer answer' : Option Answer) : Prop :=
  answer = answer' ∨ flipped = true ∧ ∃ given : Answer, given.IsPositive ∧
    (answer = some given ∧ answer' = some (.response []) ∨
      answer = some (.response []) ∧ answer' = some given)

theorem Agree.eq_of_left {flipped : Bool} {answer answer' : Answer}
    (agree : Agree flipped (some answer) (some answer')) (shown : answer ≠ .response [])
    (unsatisfied : ¬ answer.IsPositive) : answer = answer' := by
  obtain same | ⟨-, given, positive, ⟨here, -⟩ | ⟨here, -⟩⟩ := agree
  · exact Option.some.inj same
  · exact absurd (Option.some.inj here ▸ positive) unsatisfied
  · exact absurd (Option.some.inj here) shown

theorem Agree.eq_of_right {flipped : Bool} {answer answer' : Answer}
    (agree : Agree flipped (some answer) (some answer')) (shown : answer' ≠ .response [])
    (unsatisfied : ¬ answer'.IsPositive) : answer = answer' := by
  obtain same | ⟨-, given, positive, ⟨-, there⟩ | ⟨-, there⟩⟩ := agree
  · exact Option.some.inj same
  · exact absurd (Option.some.inj there) shown
  · exact absurd (Option.some.inj there ▸ positive) unsatisfied

/-- One run on the inputs, the other on those with the chosen ones flipped: the answers agree and the
services are the same behind every input. -/
def Indistinguishable : SecurityAccess → SecurityAccess → List (SecurityInput × Bool) → Prop
  | _, _, [] => True
  | one, other, (input, flipped) :: rest =>
    let (answer, one) := one.react input
    let (answer', other) := other.react (if flipped then input.flipped else input)
    Agree flipped answer answer' ∧ one = other ∧
      (answer = some .terminated ∨ Indistinguishable one other rest)

/-! ## Which flips do no harm -/

/-- Neither level is stored; or both are, and the key is as right or wrong for the one as for the other, and
right only if both are unlocked. -/
def SecurityAccess.ComparesAlike (service : SecurityAccess) (level level' : UInt8) (key : Bytes)
    (metaInfo : MetaInfo) : Prop :=
  match service.securityLevels.find? level, service.securityLevels.find? level' with
  | none, none => True
  | some stored, some stored' =>
    service.compareKey level key metaInfo = service.compareKey level' key metaInfo ∧
      (service.compareKey level key metaInfo = .ok .keyValid → stored.unlocked = true ∧ stored'.unlocked = true)
  | _, _ => False

/-- The request is refused for its sub-function or the delay, or it asks for a seed and both levels are stored,
or its key has a wrong length or compares alike. -/
def SecurityAccess.Insensitive (service : SecurityAccess) : SecurityInput → Prop
  | .expire => True
  | .request given => ∀ subFunction, service.Served given subFunction →
    if subFunction % 2 = 1 then
      (service.securityLevels.find? subFunction).isSome ∧
        (service.securityLevels.find? (flip subFunction)).isSome
    else (given.requestData.drop cDataRecordOffset).length = cKeyLength →
      service.ComparesAlike (subFunction - 1) (flip subFunction - 1)
        (given.requestData.drop cDataRecordOffset) given.metaInfo

/-- Every flipped input is one that the service is insensitive to. -/
def Harmless : SecurityAccess → List (SecurityInput × Bool) → Prop
  | _, [] => True
  | service, (input, flipped) :: rest =>
    (flipped = true → service.Insensitive input) ∧
      ((service.react input).1 = some .terminated ∨ Harmless (service.react input).2 rest)

/-! ## One input -/

namespace SecurityAccess
variable {service : SecurityAccess} {request : UdsRequest} {subFunction : UInt8}

theorem hasProblem_flipped (service : SecurityAccess) (request : UdsRequest) :
    service.hasProblem request.flipped.requestData = service.hasProblem request.requestData := by
  unfold hasProblem
  rw [request.flipped_getElem?]
  cases request.requestData[cSubFunctionIndex]? with
  | none => rfl
  | some subFunction => simp only [Option.map_some, (flip_facts subFunction).1]

theorem Served.flipped (served : service.Served request subFunction) :
    service.Served request.flipped (flip subFunction) where
  given := by rw [request.flipped_getElem?, served.given, Option.map_some]
  free := (flip_facts subFunction).1.trans served.free
  inactive := served.inactive

theorem Served.unique {other : UInt8} (served : service.Served request subFunction)
    (also : service.Served request other) : other = subFunction :=
  Option.some.inj (also.given.symm.trans served.given)

/-- One of two positive responses is suppressed, the other is not. -/
theorem agree_suppressed {first : UInt8} (rest rest' : Bytes) (positive : first ≠ cNegativeResponseCodeSid)
    (subFunction : UInt8) :
    Agree true (some (.response (if suppresses subFunction then [] else first :: rest)))
      (some (.response (if suppresses (flip subFunction) then [] else first :: rest'))) := by
  obtain ⟨-, -, -, differ, -⟩ := flip_facts subFunction
  rw [differ]
  cases suppresses subFunction with
  | false => exact .inr ⟨rfl, .response (first :: rest), positive, .inl ⟨rfl, rfl⟩⟩
  | true => exact .inr ⟨rfl, .response (first :: rest'), positive, .inr ⟨rfl, rfl⟩⟩

/-! ### A seed -/

theorem handleRequestSeed_stored (stored : (service.securityLevels.find? subFunction).isSome) :
    ∃ seed : UInt16, ∀ suppressed : Bool, service.handleRequestSeed subFunction suppressed =
      (.response (if suppressed then [] else cSid :: bytes16 seed), service) := by
  obtain ⟨securityLevel, stored⟩ := Option.isSome_iff_exists.mp stored
  refine ⟨if securityLevel.unlocked then 0 else securityLevel.seed, fun suppressed => ?_⟩
  rw [handleRequestSeed, getSeed, tryFetchSeed, stored]
  rfl

/-- Behind the request the level is stored, next to those that were. -/
theorem handleRequestSeed_levels (service : SecurityAccess) (subFunction : UInt8) (suppressed : Bool)
    (level : UInt8) :
    ((service.handleRequestSeed subFunction suppressed).2.securityLevels.find? level).isSome ↔
      level = subFunction ∨ (service.securityLevels.find? level).isSome := by
  cases stored : service.securityLevels.find? subFunction with
  | some securityLevel =>
    have isStored : (service.securityLevels.find? subFunction).isSome := by
      rw [stored]
      rfl
    obtain ⟨seed, handled⟩ := handleRequestSeed_stored isStored
    rw [handled]
    refine ⟨.inr, ?_⟩
    rintro (rfl | stored)
    · rw [stored]
      rfl
    · exact stored
  | none =>
    rw [handleRequestSeed, getSeed, (service.tryFetchSeed_eq_none subFunction).mpr stored]
    show ((service.securityLevels.insert subFunction _).find? level).isSome ↔ _
    rw [OrderedMap.find?_insert]
    by_cases same : level = subFunction
    · simp [same]
    · simp [same]

/-- A seed that is stored under one of the two sub-functions only changes the state. -/
theorem seed_alike (service : SecurityAccess) (subFunction : UInt8) :
    (Agree true
        (some (service.handleRequestSeed subFunction (suppresses subFunction)).1)
        (some (service.handleRequestSeed (flip subFunction) (suppresses (flip subFunction))).1) ∧
      (service.handleRequestSeed subFunction (suppresses subFunction)).2 =
        (service.handleRequestSeed (flip subFunction) (suppresses (flip subFunction))).2) ↔
      (service.securityLevels.find? subFunction).isSome ∧
        (service.securityLevels.find? (flip subFunction)).isSome := by
  obtain ⟨-, -, other, -, -⟩ := flip_facts subFunction
  constructor
  · rintro ⟨-, same⟩
    have levels (level : UInt8) :=
      (service.handleRequestSeed_levels subFunction (suppresses subFunction) level).symm.trans
        ((iff_of_eq (by rw [same])).trans
          (service.handleRequestSeed_levels (flip subFunction) (suppresses (flip subFunction)) level))
    exact ⟨((levels subFunction).mp (.inl rfl)).resolve_left other.symm,
      ((levels (flip subFunction)).mpr (.inl rfl)).resolve_left other⟩
  · rintro ⟨stored, stored'⟩
    obtain ⟨seed, handled⟩ := service.handleRequestSeed_stored stored
    obtain ⟨seed', handled'⟩ := service.handleRequestSeed_stored stored'
    rw [handled, handled']
    exact ⟨agree_suppressed (bytes16 seed) (bytes16 seed') (by decide) subFunction, rfl⟩

/-! ### A key -/

section Keys
variable {key : Bytes} {metaInfo : MetaInfo} {securityLevel : SecurityLevel}

/-- The answer to a wrong key is not hidden, and not that to a key without a seed. -/
theorem rejectKey_shown (service : SecurityAccess) (metaInfo : MetaInfo) :
    (service.rejectKey metaInfo).1 ≠ .response [] ∧ ¬ (service.rejectKey metaInfo).1.IsPositive ∧
      (service.rejectKey metaInfo).1 ≠ .refused cSid cRequestSequenceError := by
  unfold rejectKey
  rcases service.handleFailedAttempt metaInfo with e | (_ | next)
  · exact ⟨Answer.noConfusion, id, Answer.noConfusion⟩
  · exact ⟨Answer.noConfusion, id, Answer.noConfusion⟩
  · refine ⟨?_, fun positive => positive rfl, ?_⟩
    · exact fun same => by cases same
    · dsimp only
      split_ifs <;> decide

/-- The comparison throws what the extraction of the encryptor throws. -/
theorem compareKey_stored {level : UInt8} (whole : key.length = cKeyLength)
    (stored : service.securityLevels.find? level = some securityLevel) (metaInfo : MetaInfo) :
    ∃ judge : Option ℤ → KeyCompareResultType,
      service.compareKey level key metaInfo = (metaInfo.tryExtractValue cEncryptorKey).map judge := by
  match key, whole with
  | [msb, lsb], _ =>
    refine ⟨fun extracted => extracted.elim .keyInvalid fun encryptor =>
      if securityLevel.seed ^^^ UInt16.ofInt encryptor = word16 msb lsb then .keyValid else .keyInvalid, ?_⟩
    rw [compareKey, stored]
    rcases metaInfo.tryExtractValue cEncryptorKey with e | (_ | encryptor)
    · rfl
    · rfl
    · show (if securityLevel.seed ^^^ UInt16.ofInt encryptor = word16 msb lsb then _ else _) = _
      exact (apply_ite Except.ok _ _ _).symm

/-- Both levels are unlocked already exactly when it makes no difference which one the key unlocks. -/
theorem handlePassedAttempt_alike {level level' : UInt8} {securityLevel' : SecurityLevel}
    (other : level' ≠ level) (stored : service.securityLevels.find? level = some securityLevel)
    (stored' : service.securityLevels.find? level' = some securityLevel') :
    service.handlePassedAttempt level securityLevel = service.handlePassedAttempt level' securityLevel' ↔
      securityLevel.unlocked = true ∧ securityLevel'.unlocked = true := by
  constructor
  · intro same
    have unlocked (k : UInt8) :=
      (service.isUnlocked_handlePassedAttempt level securityLevel k).symm.trans
        ((congrArg (isUnlocked · k) same).trans
          (service.isUnlocked_handlePassedAttempt level' securityLevel' k))
    have first := unlocked level
    have second := unlocked level'
    rw [if_pos rfl, if_neg other.symm, isUnlocked, stored] at first
    rw [if_pos rfl, if_neg other, isUnlocked, stored'] at second
    exact ⟨first.symm, second⟩
  · rintro ⟨unlocked, unlocked'⟩
    have again : ({ securityLevel with unlocked := true } : SecurityLevel) = securityLevel := by
      rw [← unlocked]
    have again' : ({ securityLevel' with unlocked := true } : SecurityLevel) = securityLevel' := by
      rw [← unlocked']
    rw [handlePassedAttempt, handlePassedAttempt, again, again', OrderedMap.insert_of_find? _ stored,
      OrderedMap.insert_of_find? _ stored']

theorem response_positive (rest : Bytes) {suppressed : Bool} :
    Answer.response (if suppressed then [] else (cSid + cPositiveResponseSidIncrement) :: rest) =
        .response [] ∨
      (Answer.response (if suppressed then [] else (cSid + cPositiveResponseSidIncrement) :: rest)).IsPositive := by
  cases suppressed with
  | true => exact .inl rfl
  | false =>
    refine .inr ?_
    show cSid + cPositiveResponseSidIncrement ≠ cNegativeResponseCodeSid
    decide

theorem handleSendKey_stored_ne (whole : key.length = cKeyLength)
    (stored : service.securityLevels.find? (subFunction - 1) = some securityLevel) (suppressed : Bool) :
    (service.handleSendKey subFunction key metaInfo suppressed).1 ≠
      .refused cSid cRequestSequenceError := by
  cases compared : service.compareKey (subFunction - 1) key metaInfo with
  | error e =>
    rw [handleSendKey_error whole stored compared]
    exact Answer.noConfusion
  | ok result =>
    cases result with
    | keyValid =>
      rw [handleSendKey_valid whole stored compared]
      cases suppressed <;> exact fun same => by cases same
    | keyInvalid =>
      rw [handleSendKey_invalid whole stored compared]
      exact (service.rejectKey_shown metaInfo).2.2

theorem accepted_ne_rejected (service : SecurityAccess) (metaInfo : MetaInfo) (rest : Bytes) (suppressed : Bool) :
    Answer.response (if suppressed then [] else (cSid + cPositiveResponseSidIncrement) :: rest) ≠
      (service.rejectKey metaInfo).1 := by
  obtain ⟨shown, unsatisfied, -⟩ := service.rejectKey_shown metaInfo
  intro same
  rcases response_positive rest with hidden | positive
  · exact shown (same.symm.trans hidden)
  · exact unsatisfied (same ▸ positive)

/-- With levels under both sub-functions the key has to be as right for the one as for the other. -/
theorem key_alike_stored {securityLevel' : SecurityLevel} {subFunction : UInt8} (whole : key.length = cKeyLength)
    (stored : service.securityLevels.find? (subFunction - 1) = some securityLevel)
    (stored' : service.securityLevels.find? (flip subFunction - 1) = some securityLevel') (metaInfo : MetaInfo) :
    (Agree true
        (some (service.handleSendKey subFunction key metaInfo (suppresses subFunction)).1)
        (some (service.handleSendKey (flip subFunction) key metaInfo (suppresses (flip subFunction))).1) ∧
      (service.handleSendKey subFunction key metaInfo (suppresses subFunction)).2 =
        (service.handleSendKey (flip subFunction) key metaInfo (suppresses (flip subFunction))).2) ↔
      service.compareKey (subFunction - 1) key metaInfo = service.compareKey (flip subFunction - 1) key metaInfo ∧
        (service.compareKey (subFunction - 1) key metaInfo = .ok .keyValid →
          securityLevel.unlocked = true ∧ securityLevel'.unlocked = true) := by
  obtain ⟨-, -, -, -, other⟩ := flip_facts subFunction
  obtain ⟨judge, judged⟩ := compareKey_stored whole stored metaInfo
  obtain ⟨judge', judged'⟩ := compareKey_stored whole stored' metaInfo
  obtain ⟨shown, unsatisfied, -⟩ := service.rejectKey_shown metaInfo
  cases extracted : metaInfo.tryExtractValue cEncryptorKey with
  | error e =>
    rw [extracted] at judged judged'
    rw [handleSendKey_error whole stored judged, handleSendKey_error whole stored' judged']
    refine iff_of_true ⟨.inl rfl, rfl⟩ ⟨judged.trans judged'.symm, fun valid => ?_⟩
    cases judged.symm.trans valid
  | ok encryptor =>
    rw [extracted] at judged judged'
    cases right : judge encryptor with
    | keyValid =>
      rw [Except.map, right] at judged
      rw [handleSendKey_valid whole stored judged]
      cases right' : judge' encryptor with
      | keyValid =>
        rw [Except.map, right'] at judged'
        rw [handleSendKey_valid whole stored' judged', handlePassedAttempt_alike other stored stored']
        exact and_congr (iff_of_true (agree_suppressed _ _ (by decide) subFunction)
          (judged.trans judged'.symm)) ⟨fun both _ => both, fun both => both judged⟩
      | keyInvalid =>
        rw [Except.map, right'] at judged'
        rw [handleSendKey_invalid whole stored' judged']
        refine iff_of_false (fun both => ?_) (fun both => ?_)
        · exact service.accepted_ne_rejected metaInfo _ _ (both.1.eq_of_right shown unsatisfied)
        · cases judged.symm.trans (both.1.trans judged')
    | keyInvalid =>
      rw [Except.map, right] at judged
      rw [handleSendKey_invalid whole stored judged]
      cases right' : judge' encryptor with
      | keyValid =>
        rw [Except.map, right'] at judged'
        rw [handleSendKey_valid whole stored' judged']
        refine iff_of_false (fun both => ?_) (fun both => ?_)
        · exact service.accepted_ne_rejected metaInfo _ _ (both.1.eq_of_left shown unsatisfied).symm
        · cases judged.symm.trans (both.1.trans judged')
      | keyInvalid =>
        rw [Except.map, right'] at judged'
        rw [handleSendKey_invalid whole stored' judged']
        refine iff_of_true ⟨.inl rfl, rfl⟩ ⟨judged.trans judged'.symm, fun valid => ?_⟩
        cases judged.symm.trans valid

/-- The key is one of a level under the one sub-function and of another one under the other. -/
theorem key_alike (service : SecurityAccess) (subFunction : UInt8) (whole : key.length = cKeyLength)
    (metaInfo : MetaInfo) :
    (Agree true
        (some (service.handleSendKey subFunction key metaInfo (suppresses subFunction)).1)
        (some (service.handleSendKey (flip subFunction) key metaInfo (suppresses (flip subFunction))).1) ∧
      (service.handleSendKey subFunction key metaInfo (suppresses subFunction)).2 =
        (service.handleSendKey (flip subFunction) key metaInfo (suppresses (flip subFunction))).2) ↔
      service.ComparesAlike (subFunction - 1) (flip subFunction - 1) key metaInfo := by
  unfold ComparesAlike
  cases stored : service.securityLevels.find? (subFunction - 1) with
  | none =>
    cases stored' : service.securityLevels.find? (flip subFunction - 1) with
    | none =>
      rw [handleSendKey_absent whole stored, handleSendKey_absent whole stored']
      exact iff_of_true ⟨.inl rfl, rfl⟩ trivial
    | some securityLevel' =>
      rw [handleSendKey_absent whole stored]
      refine iff_of_false (fun both => ?_) id
      exact handleSendKey_stored_ne whole stored' _
        (both.1.eq_of_left (fun same => by cases same) (fun positive => positive rfl)).symm
  | some securityLevel =>
    cases stored' : service.securityLevels.find? (flip subFunction - 1) with
    | none =>
      rw [handleSendKey_absent whole stored']
      refine iff_of_false (fun both => ?_) id
      exact handleSendKey_stored_ne whole stored _
        (both.1.eq_of_right (fun same => by cases same) (fun positive => positive rfl))
    | some securityLevel' => exact key_alike_stored whole stored stored' metaInfo

end Keys

/-- The answers agree and the services are the same behind a flipped input exactly when the service is
insensitive to it. -/
theorem agree_iff_insensitive (service : SecurityAccess) (input : SecurityInput) :
    (Agree true (service.react input).1 (service.react input.flipped).1 ∧
        (service.react input).2 = (service.react input.flipped).2) ↔ service.Insensitive input := by
  cases input with
  | expire => exact iff_of_true ⟨.inl rfl, rfl⟩ trivial
  | request request =>
    show (Agree true (some (service.handleMessage request).1)
        (some (service.handleMessage request.flipped).1) ∧
      (service.handleMessage request).2 = (service.handleMessage request.flipped).2) ↔ _
    cases problem : service.hasProblem request.requestData with
    | some nrc =>
      rw [handleMessage_problem problem,
        handleMessage_problem ((service.hasProblem_flipped request).trans problem)]
      refine iff_of_true ⟨.inl rfl, rfl⟩ (fun subFunction served => ?_)
      cases problem.symm.trans (hasProblem_eq_none.mpr ⟨subFunction, served⟩)
    | none =>
      obtain ⟨subFunction, served⟩ := hasProblem_eq_none.mp problem
      have once : service.Insensitive (.request request) ↔
          if subFunction % 2 = 1 then
            (service.securityLevels.find? subFunction).isSome ∧
              (service.securityLevels.find? (flip subFunction)).isSome
          else (request.requestData.drop cDataRecordOffset).length = cKeyLength →
            service.ComparesAlike (subFunction - 1) (flip subFunction - 1)
              (request.requestData.drop cDataRecordOffset) request.metaInfo := by
        refine ⟨fun insensitive => insensitive subFunction served, fun insensitive other also => ?_⟩
        rw [served.unique also]
        exact insensitive
      have parity := (flip_facts subFunction).2.1
      rw [once]
      by_cases odd : subFunction % 2 = 1
      · rw [if_pos odd, handleMessage_seed served odd, handleMessage_seed served.flipped (parity.trans odd)]
        exact service.seed_alike subFunction
      · rw [if_neg odd, handleMessage_key served odd,
          handleMessage_key served.flipped (fun odd' => odd (parity.symm.trans odd')), request.flipped_drop]
        by_cases whole : (request.requestData.drop cDataRecordOffset).length = cKeyLength
        · refine (service.key_alike subFunction whole request.metaInfo).trans ?_
          exact ⟨fun alike _ => alike, fun alike => alike whole⟩
        · rw [handleSendKey_short whole, handleSendKey_short whole]
          exact iff_of_true ⟨.inl rfl, rfl⟩ (fun is_whole => absurd is_whole whole)

end SecurityAccess

/-! ## Every sequence of inputs -/

/-- For every sequence of inputs and every choice of flipped ones: the runs are indistinguishable exactly when
every flipped input does no harm where it is given. -/
theorem indistinguishable_iff_harmless (service : SecurityAccess) (inputs : List (SecurityInput × Bool)) :
    Indistinguishable service service inputs ↔ Harmless service inputs := by
  induction inputs generalizing service with
  | nil => exact Iff.rfl
  | cons head rest ih =>
    obtain ⟨input, flipped⟩ := head
    cases flipped with
    | false =>
      show (Agree false (service.react input).1 (service.react input).1 ∧
        (service.react input).2 = (service.react input).2 ∧
          ((service.react input).1 = some .terminated ∨
            Indistinguishable (service.react input).2 (service.react input).2 rest)) ↔
        (false = true → service.Insensitive input) ∧
          ((service.react input).1 = some .terminated ∨ Harmless (service.react input).2 rest)
      rw [ih]
      exact and_congr (iff_of_true (.inl rfl) (fun absent => by cases absent))
        ⟨fun both => both.2, fun after => ⟨rfl, after⟩⟩
    | true =>
      show (Agree true (service.react input).1 (service.react input.flipped).1 ∧
        (service.react input).2 = (service.react input.flipped).2 ∧
          ((service.react input).1 = some .terminated ∨
            Indistinguishable (service.react input).2 (service.react input.flipped).2 rest)) ↔
        (true = true → service.Insensitive input) ∧
          ((service.react input).1 = some .terminated ∨ Harmless (service.react input).2 rest)
      rw [← service.agree_iff_insensitive input, ← and_assoc, forall_prop_of_true rfl]
      refine and_congr_right fun alike => ?_
      rw [← alike.2, ih]

def sealed (requestData : Bytes) : SecurityInput :=
  .request ⟨0x27 :: requestData, ⟨[("Encryptor", "4660")]⟩, ⟨false⟩⟩

/-- A seed is requested with the bit in the other run only: the right key is accepted in the one run and comes
before the seed in the other. -/
theorem not_always_indistinguishable :
    (SecurityAccess.make.react (sealed [1])).1 = some (.response [0x27, 0, 1]) ∧
      ((SecurityAccess.make.react (sealed [1])).2.react (sealed [2, 0x12, 0x35])).1 =
        some (.response [0x67, 2]) ∧
      (SecurityAccess.make.react (sealed [1]).flipped).1 = some (.response []) ∧
      ((SecurityAccess.make.react (sealed [1]).flipped).2.react (sealed [2, 0x12, 0x35])).1 =
        some (.refused 0x27 0x24) ∧
      ¬ Indistinguishable .make .make [(sealed [1], true), (sealed [2, 0x12, 0x35], false)] := by
  refine ⟨rfl, rfl, rfl, rfl, ?_⟩
  rintro ⟨-, same, -⟩
  have stored := congrArg (fun service => (service.securityLevels.find? 1).isSome) same
  cases stored

end AdaptiveAutosar.Diag
