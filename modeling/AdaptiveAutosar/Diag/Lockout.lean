import AdaptiveAutosar.Diag.SecurityLevels

/-! # The lockout behind failed attempts

Next to the service stand the wrong keys that were compared since it was made or the delay last started.
The threshold is a byte of the number in the meta-info, the counter a byte as well. A lockout that follows
an earlier one assigns to the thread of the earlier one, which nobody has joined.
-/

namespace AdaptiveAutosar.Diag
open Foundations
set_option autoImplicit false

namespace SecurityAccess
variable {service : SecurityAccess} {request : UdsRequest}

/-- The request gives a wrong key, which is compared. -/
def failsKey (service : SecurityAccess) (request : UdsRequest) : Bool :=
  match service.comparison request with
  | some (_, .ok .keyInvalid) => true
  | _ => false

theorem failsKey_iff :
    service.failsKey request = true ↔ ∃ level, service.comparison request = some (level, .ok .keyInvalid) := by
  unfold failsKey
  split
  · next level same => exact iff_of_true rfl ⟨level, same⟩
  · next other => exact iff_of_false (fun same => by cases same) (fun ⟨level, same⟩ => other level same)

/-- Whatever gives no wrong key leaves the timer and the counter. -/
theorem handleMessage_quiet (quiet : service.failsKey request = false) :
    (service.handleMessage request).2.delayTimer = service.delayTimer ∧
      (service.handleMessage request).2.failedUnlockAttempt = service.failedUnlockAttempt ∧
      (service.handleMessage request).1 ≠ .terminated := by
  have right (level : UInt8) : service.comparison request ≠ some (level, .ok .keyInvalid) := by
    intro compared
    rw [failsKey_iff.mpr ⟨level, compared⟩] at quiet
    cases quiet
  have handled := service.handling request
  generalize (service.handleMessage request).1 = answer at handled ⊢
  generalize (service.handleMessage request).2 = after at handled ⊢
  cases handled with
  | refuses nrc uncompared => exact ⟨rfl, rfl, fun same => by cases same⟩
  | fetches stored uncompared => exact ⟨rfl, rfl, fun same => by cases same⟩
  | adds absent uncompared => exact ⟨rfl, rfl, fun same => by cases same⟩
  | faults compared => exact ⟨rfl, rfl, fun same => by cases same⟩
  | passes stored compared => exact ⟨rfl, rfl, fun same => by cases same⟩
  | breaks compared broken => exact absurd compared (right _)
  | terminates compared ended => exact absurd compared (right _)
  | fails nrc compared counted => exact absurd compared (right _)

/-- A wrong key is compared only without a delay, and `handleFailedAttempt` says what follows. -/
theorem handleMessage_failing (failing : service.failsKey request = true) :
    service.delayTimer.isActive = false ∧
      ((∃ e, service.handleFailedAttempt request.metaInfo = .error e ∧
          service.handleMessage request = (.faulted e, service)) ∨
        (service.handleFailedAttempt request.metaInfo = .ok none ∧
          service.handleMessage request = (.terminated, service)) ∨
        ∃ nrc next, service.handleFailedAttempt request.metaInfo = .ok (some next) ∧
          service.handleMessage request = (.refused cSid nrc, next)) := by
  obtain ⟨level, compared⟩ := failsKey_iff.mp failing
  constructor
  · cases problem : service.hasProblem request.requestData with
    | some nrc =>
      rw [comparison, problem] at compared
      cases compared
    | none =>
      obtain ⟨subFunction, served⟩ := hasProblem_eq_none.mp problem
      exact served.inactive
  · have handled := service.handling request
    rw [← Prod.mk.eta (p := service.handleMessage request)]
    generalize (service.handleMessage request).1 = answer at handled ⊢
    generalize (service.handleMessage request).2 = after at handled ⊢
    cases handled with
    | refuses nrc uncompared => cases compared.symm.trans uncompared
    | fetches stored uncompared => cases compared.symm.trans uncompared
    | adds absent uncompared => cases compared.symm.trans uncompared
    | faults other => cases compared.symm.trans other
    | passes stored other => cases compared.symm.trans other
    | breaks _ broken => exact .inl ⟨_, broken, rfl⟩
    | terminates _ ended => exact .inr (.inl ⟨ended, rfl⟩)
    | fails nrc _ counted => exact .inr (.inr ⟨nrc, _, counted, rfl⟩)

theorem handleMessage_active (active : service.delayTimer.isActive = true) (request : UdsRequest) :
    ∃ nrc, service.handleMessage request = (.refused cSid nrc, service) := by
  cases problem : service.hasProblem request.requestData with
  | some nrc => exact ⟨_, handleMessage_problem problem⟩
  | none =>
    obtain ⟨subFunction, served⟩ := hasProblem_eq_none.mp problem
    cases active.symm.trans served.inactive

end SecurityAccess

/-- The meta-info has a threshold and a delay in seconds. -/
structure Configured (metaInfo : MetaInfo) (threshold : ℕ) (delay : ℤ) : Prop where
  hasThreshold : ∃ text, metaInfo.getValue SecurityAccess.cAttemptThresholdKey = some text ∧
    DecimalText.value text = some (threshold : ℤ)
  hasDelay : metaInfo.tryExtractValue SecurityAccess.cExceededAttemptDelayKey = .ok (some delay)

/-! ## One failed attempt -/

/-- The threshold is a number that is read, and its byte is one that the counter can go beyond. -/
def Reachable (threshold : ℕ) : Prop := (threshold : ℤ) ≤ DecimalText.intMax ∧ threshold % 256 ≠ 255

instance (threshold : ℕ) : Decidable (Reachable threshold) := by
  unfold Reachable
  infer_instance

theorem toNat_ofInt (number : ℕ) : (UInt8.ofInt (number : ℤ)).toNat = number % 256 := by
  have same : ((number : ℤ) % 2 ^ 8).toNat = number % 256 := by omega
  rw [UInt8.ofInt, same, UInt8.toNat_ofNat']
  omega

/-- The counter goes beyond the byte of the threshold, or not, or the threshold is not read. -/
inductive Attempt (service : SecurityAccess) (threshold : ℕ) (delay : ℤ) :
    Outcome (Option SecurityAccess) → Prop where
  | unread (beyond : DecimalText.intMax < (threshold : ℤ)) :
      Attempt service threshold delay (.error (.thrown (.outOfRange "stoi")))
  | exceeds (read : (threshold : ℤ) ≤ DecimalText.intMax)
      (above : threshold % 256 < (service.failedUnlockAttempt + 1).toNat) :
      Attempt service threshold delay (.ok ((service.delayTimer.start delay).map fun delayTimer =>
        { service with delayTimer, failedUnlockAttempt := 0 }))
  | counts (read : (threshold : ℤ) ≤ DecimalText.intMax)
      (below : (service.failedUnlockAttempt + 1).toNat ≤ threshold % 256) :
      Attempt service threshold delay
        (.ok (some { service with failedUnlockAttempt := service.failedUnlockAttempt + 1 }))

theorem attempt {service : SecurityAccess} {metaInfo : MetaInfo} {threshold : ℕ} {delay : ℤ}
    (configured : Configured metaInfo threshold delay) (inactive : service.delayTimer.isActive = false) :
    Attempt service threshold delay (service.handleFailedAttempt metaInfo) := by
  obtain ⟨text, present, isThreshold⟩ := configured.hasThreshold
  by_cases read : (threshold : ℤ) ≤ DecimalText.intMax
  · have number : DecimalText.stoi text = .ok (threshold : ℤ) :=
      DecimalText.stoi_of_value isThreshold (by rw [DecimalText.intMin]; omega) read
    have handled : service.handleFailedAttempt metaInfo =
        if UInt8.ofInt (threshold : ℤ) < service.failedUnlockAttempt + 1 then
          .ok ((service.delayTimer.start delay).map fun delayTimer =>
            { service with delayTimer, failedUnlockAttempt := 0 })
        else .ok (some { service with failedUnlockAttempt := service.failedUnlockAttempt + 1 }) := by
      simp only [SecurityAccess.handleFailedAttempt, inactive, MetaInfo.tryExtractValue_some present, number,
        configured.hasDelay, Except.map, bind, Except.bind, pure, Except.pure, Bool.false_eq_true, if_false]
    rw [handled]
    split_ifs with above
    · rw [UInt8.lt_iff_toNat_lt, toNat_ofInt] at above
      exact .exceeds read above
    · rw [UInt8.lt_iff_toNat_lt, toNat_ofInt] at above
      exact .counts read (not_lt.mp above)
  · have beyond := not_le.mp read
    have unread : service.handleFailedAttempt metaInfo = .error (.thrown (.outOfRange "stoi")) := by
      simp only [SecurityAccess.handleFailedAttempt, inactive, MetaInfo.tryExtractValue_some present,
        DecimalText.stoi_beyond isThreshold beyond, Except.map, bind, Except.bind, Bool.false_eq_true, if_false]
    rw [unread]
    exact .unread beyond

/-! ## Runs with one meta-info -/

inductive AttemptInput where
  | request (requestData : Bytes) (cancellationHandler : CancellationHandler)
  | expire
  deriving DecidableEq, Repr

structure Attempts where
  service : SecurityAccess
  failed : ℕ
  terminated : Bool

namespace Attempts
variable {state : Attempts} {metaInfo : MetaInfo} {threshold : ℕ} {delay : ℤ}

def make : Attempts := ⟨.make, 0, false⟩

def step (metaInfo : MetaInfo) (state : Attempts) :
    AttemptInput → Except Unit (Option Answer × Attempts)
  | .request requestData cancellationHandler =>
    if state.terminated then .ok (none, state)
    else
      let request := ⟨requestData, metaInfo, cancellationHandler⟩
      let (answer, service) := state.service.handleMessage request
      let failed :=
        if state.service.failsKey request = false then state.failed
        else if service.delayTimer.isActive then 0
        else state.failed + 1
      .ok (answer, ⟨service, failed, answer = .terminated⟩)
  | .expire =>
    if state.terminated then .ok (none, state) else .ok (none, { state with service := state.service.expire })

/-- The process runs on, no more wrong keys than one above the threshold were compared without the delay
having started, and it is the configured one. -/
structure LocksOut (threshold : ℕ) (delay : ℤ) (state : Attempts) : Prop where
  running : state.terminated = false
  bounded : state.failed ≤ threshold
  configured : ∀ duration ∈ state.service.delayTimer.delay, duration = delay

/-- With a threshold that is reached no wrong key starts the delay a second time; with another one the wrong
keys are no more than the threshold. -/
def Tolerable (metaInfo : MetaInfo) (threshold : ℕ) (state : Attempts) : AttemptInput → Prop
  | .request requestData cancellationHandler =>
    state.service.failsKey ⟨requestData, metaInfo, cancellationHandler⟩ = true →
      if Reachable threshold then
        ¬ (state.service.delayTimer.joinable = true ∧
          state.service.failedUnlockAttempt.toNat = threshold % 256)
      else state.failed < threshold
  | .expire => True

instance (metaInfo : MetaInfo) (threshold : ℕ) (state : Attempts) (input : AttemptInput) :
    Decidable (Tolerable metaInfo threshold state input) := by
  unfold Tolerable
  split <;> infer_instance

/-- With a threshold that is reached the counter counts the wrong keys, and does not go beyond it. -/
structure Sound (threshold : ℕ) (delay : ℤ) (state : Attempts) : Prop extends LocksOut threshold delay state where
  counted : Reachable threshold → state.service.failedUnlockAttempt.toNat = state.failed
  below : Reachable threshold → state.failed ≤ threshold % 256

theorem sound_make (threshold : ℕ) (delay : ℤ) : Sound threshold delay make where
  running := rfl
  bounded := Nat.zero_le _
  configured := fun _ there => by cases there
  counted := fun _ => rfl
  below := fun _ => Nat.zero_le _

/-- Where the step leads. -/
def Decided (metaInfo : MetaInfo) (threshold : ℕ) (delay : ℤ) (state : Attempts) (input : AttemptInput)
    (state' : Attempts) : Prop :=
  (Tolerable metaInfo threshold state input → Sound threshold delay state') ∧
    (¬ Tolerable metaInfo threshold state input → ¬ LocksOut threshold delay state')

theorem decided_expire (h : Sound threshold delay state) :
    ∃ answer state', step metaInfo state .expire = .ok (answer, state') ∧
      Decided metaInfo threshold delay state .expire state' := by
  refine ⟨_, _, if_neg (by simp [h.running]), fun _ => ?_, fun not => absurd trivial not⟩
  exact ⟨⟨h.running, h.bounded, fun _ there => by cases there⟩, h.counted, h.below⟩

section Requests
variable {requestData : Bytes} {cancellationHandler : CancellationHandler}

theorem step_request (running : state.terminated = false) {answer : Answer} {after : SecurityAccess}
    (handled : state.service.handleMessage ⟨requestData, metaInfo, cancellationHandler⟩ = (answer, after)) :
    step metaInfo state (.request requestData cancellationHandler) =
      .ok (some answer, ⟨after,
        if state.service.failsKey ⟨requestData, metaInfo, cancellationHandler⟩ = false then state.failed
        else if after.delayTimer.isActive then 0
        else state.failed + 1,
        answer = .terminated⟩) := by
  simp only [step, running, handled, Bool.false_eq_true, if_false]

theorem decided_quiet (h : Sound threshold delay state)
    (quiet : state.service.failsKey ⟨requestData, metaInfo, cancellationHandler⟩ = false) :
    ∃ answer state', step metaInfo state (.request requestData cancellationHandler) = .ok (answer, state') ∧
      Decided metaInfo threshold delay state (.request requestData cancellationHandler) state' := by
  obtain ⟨timer, counter, alive⟩ := SecurityAccess.handleMessage_quiet quiet
  have tolerable : Tolerable metaInfo threshold state (.request requestData cancellationHandler) := by
    intro failing
    cases quiet.symm.trans failing
  rcases handled : state.service.handleMessage ⟨requestData, metaInfo, cancellationHandler⟩
    with ⟨answer, after⟩
  rw [handled] at timer counter alive
  have taken := step_request h.running handled
  rw [if_pos quiet, decide_eq_false alive] at taken
  refine ⟨_, _, taken, fun _ => ⟨⟨rfl, h.bounded, ?_⟩, ?_, h.below⟩, fun not => absurd tolerable not⟩
  · rw [timer]
    exact h.configured
  · rw [counter]
    exact h.counted

/-- Without a start of the delay one more wrong key was compared. -/
theorem decided_uncounted (h : Sound threshold delay state) {answer : Answer} {after : SecurityAccess}
    (failing : state.service.failsKey ⟨requestData, metaInfo, cancellationHandler⟩ = true)
    (handled : state.service.handleMessage ⟨requestData, metaInfo, cancellationHandler⟩ = (answer, after))
    (alive : answer ≠ .terminated) (inactive : after.delayTimer.delay = none)
    (unreached : ¬ Reachable threshold) :
    ∃ answer state', step metaInfo state (.request requestData cancellationHandler) = .ok (answer, state') ∧
      Decided metaInfo threshold delay state (.request requestData cancellationHandler) state' := by
  have taken := step_request h.running handled
  rw [if_neg (by simp [failing]), if_neg (by simp [DelayTimer.isActive, inactive]), decide_eq_false alive]
    at taken
  have tolerable_iff : Tolerable metaInfo threshold state (.request requestData cancellationHandler) ↔
      state.failed < threshold := by
    simp only [Tolerable, failing, forall_const, unreached, if_false]
  refine ⟨_, _, taken, fun tolerable => ?_, fun intolerable locksOut => ?_⟩
  · refine ⟨⟨rfl, tolerable_iff.mp tolerable, ?_⟩, fun reached => absurd reached unreached,
      fun reached => absurd reached unreached⟩
    intro duration there
    rw [inactive] at there
    cases there
  · exact intolerable (tolerable_iff.mpr locksOut.bounded)

/-- The counter stands at the threshold, and this wrong key is to start the delay. -/
theorem decided_exceeding (h : Sound threshold delay state)
    (failing : state.service.failsKey ⟨requestData, metaInfo, cancellationHandler⟩ = true)
    (inactive : state.service.delayTimer.isActive = false) (reached : Reachable threshold)
    (above : threshold % 256 < (state.service.failedUnlockAttempt + 1).toNat)
    (ends : (state.service.delayTimer.start delay = none ∧
        state.service.handleMessage ⟨requestData, metaInfo, cancellationHandler⟩ =
          (.terminated, state.service)) ∨
      ∃ nrc delayTimer, state.service.delayTimer.start delay = some delayTimer ∧
        state.service.handleMessage ⟨requestData, metaInfo, cancellationHandler⟩ =
          (.refused SecurityAccess.cSid nrc,
            { state.service with delayTimer, failedUnlockAttempt := 0 })) :
    ∃ answer state', step metaInfo state (.request requestData cancellationHandler) = .ok (answer, state') ∧
      Decided metaInfo threshold delay state (.request requestData cancellationHandler) state' := by
  have counted := h.counted reached
  have below := h.below reached
  have isTop : state.service.failedUnlockAttempt.toNat = threshold % 256 := by
    rw [UInt8.toNat_add] at above
    have one : (1 : UInt8).toNat = 1 := rfl
    omega
  have tolerable_iff : Tolerable metaInfo threshold state (.request requestData cancellationHandler) ↔
      state.service.delayTimer.joinable = false := by
    simp only [Tolerable, failing, forall_const, reached, if_true, isTop, and_true, Bool.not_eq_true]
  rcases ends with ⟨ended, handled⟩ | ⟨nrc, delayTimer, started, handled⟩
  · have taken := step_request h.running handled
    refine ⟨_, _, taken, fun tolerable => ?_, fun _ locksOut => ?_⟩
    · have free := tolerable_iff.mp tolerable
      simp [DelayTimer.start, inactive, free] at ended
    · cases locksOut.running
  · have free : state.service.delayTimer.joinable = false := by
      cases joinable : state.service.delayTimer.joinable with
      | false => rfl
      | true => simp [DelayTimer.start, inactive, joinable] at started
    have isStarted : delayTimer = ⟨some delay, true⟩ := by
      simpa [DelayTimer.start, inactive, free, eq_comm] using started
    have taken := step_request h.running handled
    rw [if_neg (by simp [failing]), if_pos (by rw [isStarted]; rfl)] at taken
    refine ⟨_, _, taken, fun _ => ?_, fun not => absurd (tolerable_iff.mpr free) not⟩
    refine ⟨⟨rfl, Nat.zero_le _, ?_⟩, fun _ => rfl, fun _ => Nat.zero_le _⟩
    intro duration there
    rw [isStarted] at there
    exact (Option.some.inj there).symm

theorem decided_failing (configured : Configured metaInfo threshold delay) (h : Sound threshold delay state)
    (failing : state.service.failsKey ⟨requestData, metaInfo, cancellationHandler⟩ = true) :
    ∃ answer state', step metaInfo state (.request requestData cancellationHandler) = .ok (answer, state') ∧
      Decided metaInfo threshold delay state (.request requestData cancellationHandler) state' := by
  obtain ⟨inactive, handled⟩ := SecurityAccess.handleMessage_failing failing
  have idle : state.service.delayTimer.delay = none := Option.isNone_iff_eq_none.mp (by
    simpa [DelayTimer.isActive, Option.isNone_iff_eq_none] using inactive)
  have attempted := attempt configured inactive
  simp only at handled
  generalize state.service.handleFailedAttempt metaInfo = ended at handled attempted
  cases attempted with
  | unread beyond =>
    have unreached : ¬ Reachable threshold := fun reached => absurd reached.1 (not_le.mpr beyond)
    rcases handled with ⟨e, -, handled⟩ | ⟨impossible, -⟩ | ⟨nrc, next, impossible, -⟩
    · exact decided_uncounted h failing handled (fun same => by cases same) idle unreached
    · cases impossible
    · cases impossible
  | exceeds read above =>
    have reached : Reachable threshold := by
      refine ⟨read, fun full => ?_⟩
      rw [full] at above
      exact absurd above (not_lt.mpr (Nat.le_of_lt_succ (state.service.failedUnlockAttempt + 1).toNat_lt))
    apply decided_exceeding h failing inactive reached above
    rcases handled with ⟨e, impossible, -⟩ | ⟨ended, handled⟩ | ⟨nrc, next, started, handled⟩
    · cases impossible
    · exact .inl ⟨Option.map_eq_none_iff.mp (Except.ok.inj ended), handled⟩
    · obtain ⟨delayTimer, isStarted, rfl⟩ := Option.map_eq_some_iff.mp (Except.ok.inj started)
      exact .inr ⟨nrc, delayTimer, isStarted, handled⟩
  | counts read below =>
    rcases handled with ⟨e, impossible, -⟩ | ⟨impossible, -⟩ | ⟨nrc, next, counted, handled⟩
    · cases impossible
    · cases impossible
    · cases counted
      by_cases reached : Reachable threshold
      · have counted := h.counted reached
        have limit := h.below reached
        have room : (state.service.failedUnlockAttempt + 1).toNat = state.failed + 1 := by
          have other := reached.2
          rw [UInt8.toNat_add] at below ⊢
          have one : (1 : UInt8).toNat = 1 := rfl
          omega
        have taken := step_request h.running handled
        rw [if_neg (by simp [failing]), if_neg (by simp [DelayTimer.isActive, idle])] at taken
        have tolerable : Tolerable metaInfo threshold state (.request requestData cancellationHandler) := by
          simp only [Tolerable, failing, forall_const, reached, if_true]
          omega
        refine ⟨_, _, taken, fun _ => ?_, fun not => absurd tolerable not⟩
        refine ⟨⟨rfl, ?_, h.configured⟩, fun _ => room, fun _ => ?_⟩
        · have small : threshold % 256 ≤ threshold := Nat.mod_le _ _
          show state.failed + 1 ≤ threshold
          omega
        · show state.failed + 1 ≤ threshold % 256
          omega
      · exact decided_uncounted h failing handled (fun same => by cases same) idle reached

end Requests

theorem decided_step (configured : Configured metaInfo threshold delay) (h : Sound threshold delay state)
    (input : AttemptInput) :
    ∃ answer state', step metaInfo state input = .ok (answer, state') ∧
      Decided metaInfo threshold delay state input state' := by
  cases input with
  | expire => exact decided_expire h
  | request requestData cancellationHandler =>
    cases failing : state.service.failsKey ⟨requestData, metaInfo, cancellationHandler⟩ with
    | false => exact decided_quiet h failing
    | true => exact decided_failing configured h failing

/-- For every threshold and every sequence of requests with it: one more wrong key than the threshold starts
the delay, without an end of the process, exactly when every step is tolerable; and while the delay is active
every request is refused and leaves the service as it is. -/
theorem locksOut_iff_tolerable (configured : Configured metaInfo threshold delay)
    {trace : List (Taken Attempts AttemptInput (Option Answer))} (run : Run (step metaInfo) make trace state) :
    (Run.Throughout (LocksOut threshold delay) trace state ↔ Run.Every (Tolerable metaInfo threshold) trace) ∧
      ∀ (service : SecurityAccess), service.delayTimer.isActive = true → ∀ request,
        ∃ nrc, service.handleMessage request = (.refused SecurityAccess.cSid nrc, service) :=
  ⟨Run.throughout_iff_decided (fun _ sound => sound.toLocksOut) (sound_make threshold delay)
      (fun _ input sound => decided_step configured sound input) run,
    fun _ active request => SecurityAccess.handleMessage_active active request⟩

def lockoutMetaInfo (threshold : String) : MetaInfo :=
  ⟨[("Encryptor", "4660"), ("AttemptThreshold", threshold), ("ExceededAttemptDelay", "3600")]⟩

def attemptRequest (requestData : Bytes) : AttemptInput := .request (0x27 :: requestData) ⟨false⟩

theorem lockoutMetaInfo_configured {threshold : String} {number : ℕ}
    (isNumber : DecimalText.value threshold = some (number : ℤ)) :
    Configured (lockoutMetaInfo threshold) number 3600 :=
  ⟨⟨threshold, rfl, isNumber⟩, rfl⟩

theorem locksOut_iff_tolerable_once : ∃ trace state,
    Run.play (step (lockoutMetaInfo "1")) [] make [attemptRequest [1], attemptRequest [2, 0, 0],
        attemptRequest [2, 0, 0], attemptRequest [2, 0x12, 0x35]] = .ok (trace, state) ∧
      Run.Throughout (LocksOut 1 3600) trace state ∧ state.service.delayTimer.delay = some 3600 := by
  obtain ⟨trace, state, played, every, active⟩ : ∃ trace state,
      Run.play (step (lockoutMetaInfo "1")) [] make [attemptRequest [1], attemptRequest [2, 0, 0],
          attemptRequest [2, 0, 0], attemptRequest [2, 0x12, 0x35]] = .ok (trace, state) ∧
        Run.Every (Tolerable (lockoutMetaInfo "1") 1) trace ∧
        state.service.delayTimer.delay = some 3600 := ⟨_, _, rfl, by decide, rfl⟩
  have configured : Configured (lockoutMetaInfo "1") 1 3600 := lockoutMetaInfo_configured (by decide)
  have run := Run.of_play .start played
  exact ⟨trace, state, played, (locksOut_iff_tolerable configured run).1.mpr every, active⟩

set_option maxRecDepth 4000 in
/-- With the threshold 255 no number of wrong keys starts the delay, and with 0 the second lockout is the end
of the process. -/
theorem not_always_locksOut :
    (∃ trace state, Run.play (step (lockoutMetaInfo "255")) [] make
          (attemptRequest [1] :: List.replicate 256 (attemptRequest [2, 0, 0])) = .ok (trace, state) ∧
        state.service.delayTimer = .make ∧ ¬ Run.Throughout (LocksOut 255 3600) trace state) ∧
      ∃ trace state, Run.play (step (lockoutMetaInfo "0")) [] make
          [attemptRequest [1], attemptRequest [2, 0, 0], .expire, attemptRequest [2, 0, 0]] =
            .ok (trace, state) ∧
        state.terminated = true ∧ ¬ Run.Throughout (LocksOut 0 3600) trace state := by
  constructor
  · refine ⟨_, _, rfl, rfl, ?_⟩
    rintro ⟨locksOut, -⟩
    exact absurd locksOut.bounded (by decide)
  · refine ⟨_, _, rfl, rfl, ?_⟩
    rintro ⟨locksOut, -⟩
    cases locksOut.running

end Attempts
end AdaptiveAutosar.Diag
