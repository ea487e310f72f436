import Mathlib.Data.Bool.Basic
import AdaptiveAutosar.Diag.Freezing
import AdaptiveAutosar.Foundations.Cursor

/-! # What a counter-based debouncer keeps

Over any sequence of operations the counter stays between the thresholds and the verdicts called alternate.
A step that comes to a threshold sets the status; a jump that lands on it leaves the status as it is.
-/

namespace AdaptiveAutosar.Diag
open Foundations
set_option autoImplicit false

/-- Thresholds on the two sides of zero, with the jumps between them. -/
structure CounterBased.Proper (values : CounterBased) : Prop where
  passed : values.passedThreshold.toInt < 0
  failed : 0 < values.failedThreshold.toInt
  passedJump_ge : values.passedThreshold.toInt ≤ values.passedJumpValue.toInt
  passedJump_le : values.passedJumpValue.toInt ≤ values.failedThreshold.toInt
  failedJump_ge : values.passedThreshold.toInt ≤ values.failedJumpValue.toInt
  failedJump_le : values.failedJumpValue.toInt ≤ values.failedThreshold.toInt

inductive DebouncerOperation where
  | prepassed
  | prefailed
  | passed
  | failed
  | freeze
  | reset
  deriving DecidableEq, Repr

namespace CounterBasedDebouncer

def perform (values : CounterBased) (debouncer : CounterBasedDebouncer) :
    DebouncerOperation → CounterBasedDebouncer × Option Bool
  | .prepassed => debouncer.reportPrepassed values
  | .prefailed => debouncer.reportPrefailed values
  | .passed => debouncer.reportPassed values
  | .failed => debouncer.reportFailed values
  | .freeze => debouncer.freeze
  | .reset => debouncer.reset

/-- What the callback is called with, and the debouncer. -/
def step (values : CounterBased) (debouncer : CounterBasedDebouncer) (operation : DebouncerOperation) :
    Outcome (Option Bool × CounterBasedDebouncer) :=
  let performed := debouncer.perform values operation
  .ok (performed.2, performed.1)

structure InRange (values : CounterBased) (debouncer : CounterBasedDebouncer) : Prop where
  passed_le : values.passedThreshold.toInt ≤ debouncer.fdc.toInt
  le_failed : debouncer.fdc.toInt ≤ values.failedThreshold.toInt

/-- At a threshold the status is its verdict. -/
structure Settled (values : CounterBased) (debouncer : CounterBasedDebouncer) : Prop where
  failed : debouncer.fdc = values.failedThreshold → debouncer.eventStatus = .failed
  passed : debouncer.fdc = values.passedThreshold → debouncer.eventStatus = .passed

/-- The counter behind an operation in the arithmetic of the integers. -/
def exactFdc (values : CounterBased) (debouncer : CounterBasedDebouncer) : DebouncerOperation → ℤ
  | .prepassed =>
    let lower := debouncer.fdc.toInt - values.passedStepsize.toNat
    if lower ≤ values.passedThreshold.toInt then values.passedThreshold.toInt
    else if values.useJumpToPassed = true ∧ values.passedJumpValue.toInt < debouncer.fdc.toInt then
      values.passedJumpValue.toInt
    else lower
  | .prefailed =>
    let higher := debouncer.fdc.toInt + values.failedStepsize.toNat
    if values.failedThreshold.toInt ≤ higher then values.failedThreshold.toInt
    else if values.useJumpToFailed = true ∧ debouncer.fdc.toInt < values.failedJumpValue.toInt then
      values.failedJumpValue.toInt
    else higher
  | .passed => values.passedThreshold.toInt
  | .failed => values.failedThreshold.toInt
  | .freeze | .reset => 0

/-- The counter that a step leaves is the exact one. -/
def Fits (values : CounterBased) (debouncer : CounterBasedDebouncer) (operation : DebouncerOperation) :
    Prop := (debouncer.perform values operation).1.fdc.toInt = debouncer.exactFdc values operation

/-- Between two consecutive calls with one verdict there is a freeze or a reset. -/
def Alternates (trace : List (Taken CounterBasedDebouncer DebouncerOperation (Option Bool))) : Prop :=
  ∀ newer later between earlier older verdict, trace = newer ++ later :: (between ++ earlier :: older) →
    later.output = some verdict → earlier.output = some verdict →
    (∀ taken ∈ between, taken.output = none) →
    ∃ taken ∈ between, taken.input = .freeze ∨ taken.input = .reset

/-- The pre-report does not reach the threshold, and its jump lands on it without the verdict. -/
def JumpsSilently (values : CounterBased) (debouncer : CounterBasedDebouncer) (passing : Bool) : Prop :=
  ¬ (countingOf values passing).threshold ≤ debouncer.valueOf passing + (countingOf values passing).step ∧
    (countingOf values passing).jump = some (countingOf values passing).threshold ∧
    debouncer.eventStatus ≠ verdictOf passing

/-- No jump lands on a threshold without its verdict. -/
def Announced (values : CounterBased) (debouncer : CounterBasedDebouncer) : DebouncerOperation → Prop
  | .prepassed => ¬ debouncer.JumpsSilently values true
  | .prefailed => ¬ debouncer.JumpsSilently values false
  | .passed | .failed | .freeze | .reset => True

instance (values : CounterBased) (debouncer : CounterBasedDebouncer) (passing : Bool) :
    Decidable (debouncer.JumpsSilently values passing) :=
  @instDecidableAnd _ _ _ instDecidableAnd

instance (values : CounterBased) (debouncer : CounterBasedDebouncer) :
    (operation : DebouncerOperation) → Decidable (debouncer.Announced values operation)
  | .prepassed | .prefailed => instDecidableNot
  | .passed | .failed | .freeze | .reset => isTrue trivial

variable {values : CounterBased} {debouncer : CounterBasedDebouncer}

/-! ## The two directions -/

theorem inRange_iff :
    debouncer.InRange values ↔ ∀ passing, debouncer.valueOf passing ≤ (countingOf values passing).threshold := by
  rw [Bool.forall_bool]
  simp only [valueOf, countingOf, if_true, if_false, Bool.false_eq_true]
  constructor
  · rintro ⟨low, high⟩
    exact ⟨high, by omega⟩
  · rintro ⟨high, low⟩
    exact ⟨by omega, high⟩

theorem settled_iff :
    debouncer.Settled values ↔ ∀ passing, debouncer.valueOf passing = (countingOf values passing).threshold →
      debouncer.eventStatus = verdictOf passing := by
  have at_passed : debouncer.fdc = values.passedThreshold ↔
      -debouncer.fdc.toInt = -values.passedThreshold.toInt := by
    rw [← Int16.toInt_inj]
    omega
  rw [Bool.forall_bool]
  simp only [valueOf, countingOf, verdictOf, if_true, if_false, Bool.false_eq_true, Int16.toInt_inj,
    ← at_passed]
  exact ⟨fun settled => ⟨settled.failed, settled.passed⟩, fun both => ⟨both.1, both.2⟩⟩

theorem valueOf_not (debouncer : CounterBasedDebouncer) (passing : Bool) :
    debouncer.valueOf (!passing) = -debouncer.valueOf passing := by
  cases passing with
  | true => exact (Int.neg_neg _).symm
  | false => rfl

theorem proper_jump (proper : values.Proper) {passing : Bool} {jump : ℤ}
    (jumps : (countingOf values passing).jump = some jump) :
    jump ≤ (countingOf values passing).threshold ∧ -jump ≤ (countingOf values !passing).threshold := by
  obtain ⟨-, -, passed_ge, passed_le, failed_ge, failed_le⟩ := proper
  cases passing with
  | true =>
    simp only [countingOf, if_true] at jumps
    split_ifs at jumps
    cases jumps
    simp only [countingOf, if_true, Bool.not_true, if_false, Bool.false_eq_true]
    omega
  | false =>
    simp only [countingOf, if_false, Bool.false_eq_true] at jumps
    split_ifs at jumps
    cases jumps
    simp only [countingOf, if_true, Bool.not_false, if_false, Bool.false_eq_true]
    omega

theorem proper_threshold (proper : values.Proper) (passing : Bool) :
    0 < (countingOf values passing).threshold := by
  cases passing with
  | true =>
    have negative := proper.passed
    simp only [countingOf, if_true]
    omega
  | false => exact proper.failed

/-- Below the threshold a report jumps up, or adds its step. -/
theorem next_cases (counting : Counting) (value : ℤ) :
    (∃ jump, counting.jump = some jump ∧ value < jump ∧ counting.next value = jump) ∨
      (counting.next value = value + counting.step ∧ ∀ jump, counting.jump = some jump → jump ≤ value) := by
  unfold Counting.next
  cases counting.jump with
  | none => exact .inr ⟨rfl, by simp⟩
  | some jump =>
    by_cases higher : value < jump
    · exact .inl ⟨jump, rfl, higher, if_pos higher⟩
    · refine .inr ⟨if_neg higher, ?_⟩
      intro other same
      cases same
      omega

/-! ## What an operation keeps -/

theorem settle_inRange (proper : values.Proper) (passing : Bool) :
    ((debouncer.settle (thresholdOf values passing) (verdictOf passing)).1).InRange values := by
  have own := proper_threshold proper passing
  have other := proper_threshold proper (!passing)
  rw [settle_fst, inRange_iff]
  intro direction
  rcases Bool.eq_or_eq_not direction passing with rfl | rfl
  · exact Int.le_of_eq valueOf_threshold
  · rw [valueOf_not, valueOf_threshold]
    omega

theorem settle_settled (proper : values.Proper) (passing : Bool) :
    ((debouncer.settle (thresholdOf values passing) (verdictOf passing)).1).Settled values := by
  have own := proper_threshold proper passing
  have other := proper_threshold proper (!passing)
  rw [settle_fst, settled_iff]
  intro direction there
  rcases Bool.eq_or_eq_not direction passing with rfl | rfl
  · rfl
  · rw [valueOf_not, valueOf_threshold] at there
    omega

theorem reportPre_inRange (proper : values.Proper) (inRange : debouncer.InRange values) (passing : Bool) :
    ((debouncer.reportPre values passing).1).InRange values := by
  rcases reportPre_cases values passing debouncer with ⟨-, settled⟩ | ⟨below, -, -, value⟩
  · rw [settled]
    exact settle_inRange proper passing
  · rw [inRange_iff] at inRange ⊢
    have own := inRange passing
    have other := inRange (!passing)
    rw [valueOf_not] at other
    intro direction
    rcases Bool.eq_or_eq_not direction passing with rfl | rfl
    · rw [value]
      rcases next_cases (countingOf values direction) (debouncer.valueOf direction) with
        ⟨jump, jumps, -, next⟩ | ⟨next, -⟩
      · rw [next]
        exact (proper_jump proper jumps).1
      · omega
    · rw [valueOf_not, value]
      rcases next_cases (countingOf values passing) (debouncer.valueOf passing) with
        ⟨jump, jumps, -, next⟩ | ⟨next, -⟩
      · rw [next]
        exact (proper_jump proper jumps).2
      · omega

/-- A pre-report keeps the status at the thresholds unless its jump lands on one silently. -/
theorem reportPre_settled_iff (proper : values.Proper) (inRange : debouncer.InRange values)
    (settled : debouncer.Settled values) (passing : Bool) :
    ((debouncer.reportPre values passing).1).Settled values ↔ ¬ debouncer.JumpsSilently values passing := by
  rw [inRange_iff] at inRange
  rcases reportPre_cases values passing debouncer with ⟨reaches, settles⟩ | ⟨below, -, status, value⟩
  · rw [settles]
    exact iff_of_true (settle_settled proper passing) fun silent => silent.1 reaches
  · have own := inRange passing
    have other := inRange (!passing)
    rw [valueOf_not] at other
    rw [settled_iff, status]
    constructor
    · rintro all ⟨-, jump, verdict⟩
      -- the jump is the threshold, and the counter is below it
      have lands : (countingOf values passing).next (debouncer.valueOf passing) =
          (countingOf values passing).threshold := by
        rcases next_cases (countingOf values passing) (debouncer.valueOf passing) with
          ⟨other_jump, jumps, -, next⟩ | ⟨-, low⟩
        · rw [next]
          exact Option.some.inj (jumps.symm.trans jump)
        · have low := low _ jump
          omega
      exact verdict (all passing (value.trans lands))
    · intro announced direction there
      rw [settled_iff] at settled
      rcases next_cases (countingOf values passing) (debouncer.valueOf passing) with
        ⟨jump, jumps, higher, next⟩ | ⟨next, -⟩
      · rcases Bool.eq_or_eq_not direction passing with rfl | rfl
        · by_contra verdict
          have lands : jump = (countingOf values direction).threshold := by omega
          exact announced ⟨below, lands ▸ jumps, verdict⟩
        · rw [valueOf_not] at there
          omega
      · rcases Bool.eq_or_eq_not direction passing with rfl | rfl
        · omega
        · -- with a step of zero the counter stays at the other threshold
          apply settled
          rw [valueOf_not] at there ⊢
          omega

theorem perform_inRange (proper : values.Proper) (inRange : debouncer.InRange values)
    (operation : DebouncerOperation) : ((debouncer.perform values operation).1).InRange values := by
  have zero : (⟨.pending, 0⟩ : CounterBasedDebouncer).InRange values := by
    constructor
    · exact Int.le_of_lt proper.passed
    · exact Int.le_of_lt proper.failed
  cases operation with
  | prepassed => exact reportPre_inRange proper inRange true
  | prefailed => exact reportPre_inRange proper inRange false
  | passed => exact settle_inRange proper true
  | failed => exact settle_inRange proper false
  | freeze | reset =>
    show ((debouncer.settle 0 .pending).1).InRange values
    rw [settle_fst]
    exact zero

theorem settled_make (proper : values.Proper) : (⟨.pending, 0⟩ : CounterBasedDebouncer).Settled values := by
  have passed := proper.passed
  have failed := proper.failed
  constructor
  · intro zero
    rw [← zero] at failed
    simp at failed
  · intro zero
    rw [← zero] at passed
    simp at passed

theorem perform_settled_iff (proper : values.Proper) (inRange : debouncer.InRange values)
    (settled : debouncer.Settled values) (operation : DebouncerOperation) :
    ((debouncer.perform values operation).1).Settled values ↔ debouncer.Announced values operation := by
  cases operation with
  | prepassed => exact reportPre_settled_iff proper inRange settled true
  | prefailed => exact reportPre_settled_iff proper inRange settled false
  | passed => exact iff_of_true (settle_settled proper true) trivial
  | failed => exact iff_of_true (settle_settled proper false) trivial
  | freeze | reset =>
    refine iff_of_true ?_ trivial
    show ((debouncer.settle 0 .pending).1).Settled values
    rw [settle_fst]
    exact settled_make proper

/-- No operation stores a counter that is beyond sixteen bits. -/
theorem perform_fits (values : CounterBased) (debouncer : CounterBasedDebouncer)
    (operation : DebouncerOperation) : debouncer.Fits values operation := by
  have low := debouncer.fdc.le_toInt
  have high := debouncer.fdc.toInt_lt
  have passed_ge := values.passedThreshold.le_toInt
  have failed_lt := values.failedThreshold.toInt_lt
  unfold Fits
  cases operation with
  | prepassed =>
    simp only [perform, reportPrepassed, exactFdc]
    split_ifs with beyond jumps
    · rw [settle_fst]
    · rfl
    · exact Int16.toInt_ofInt_of_le (by omega) (by omega)
  | prefailed =>
    simp only [perform, reportPrefailed, exactFdc]
    split_ifs with beyond jumps
    · rw [settle_fst]
    · rfl
    · exact Int16.toInt_ofInt_of_le (by omega) (by omega)
  | passed | failed =>
    simp only [perform, reportPassed, reportFailed, settle_fst, exactFdc]
  | freeze | reset =>
    simp only [perform, freeze, reset, settle_fst, exactFdc]
    rfl

/-! ## The calls -/

theorem perform_calls (values : CounterBased) (debouncer : CounterBasedDebouncer)
    (operation : DebouncerOperation) : Calls debouncer.eventStatus
      (debouncer.perform values operation).1.eventStatus (debouncer.perform values operation).2 := by
  cases operation with
  | prepassed => exact reportPrepassed_calls debouncer values
  | prefailed => exact reportPrefailed_calls debouncer values
  | passed | failed | freeze | reset => exact settle_calls _ _ _

/-- An operation that calls nothing leaves the status alone, unless it resets it. -/
theorem perform_quiet {operation : DebouncerOperation} (freeze : operation ≠ .freeze)
    (reset : operation ≠ .reset) (quiet : (debouncer.perform values operation).2 = none) :
    (debouncer.perform values operation).1.eventStatus = debouncer.eventStatus := by
  have settles : ∀ passing, (debouncer.settle (thresholdOf values passing) (verdictOf passing)).2 = none →
      (debouncer.settle (thresholdOf values passing) (verdictOf passing)).1.eventStatus =
        debouncer.eventStatus := by
    intro passing quiet
    have calls := settle_calls debouncer (thresholdOf values passing) (verdictOf passing)
    rw [settle_fst] at calls ⊢
    rcases calls with ⟨same, -⟩ | ⟨-, -, called⟩ | ⟨-, -, called⟩ | ⟨pending, -⟩
    · exact same.symm
    · rw [quiet] at called
      cases called
    · rw [quiet] at called
      cases called
    · cases passing <;> cases pending
  have pre : ∀ passing, (debouncer.reportPre values passing).2 = none →
      (debouncer.reportPre values passing).1.eventStatus = debouncer.eventStatus := by
    intro passing quiet
    rcases reportPre_cases values passing debouncer with ⟨-, settled⟩ | ⟨-, -, status, -⟩
    · rw [settled] at quiet ⊢
      exact settles passing quiet
    · exact status
  cases operation with
  | prepassed => exact pre true quiet
  | prefailed => exact pre false quiet
  | passed => exact settles true quiet
  | failed => exact settles false quiet
  | freeze => exact absurd rfl freeze
  | reset => exact absurd rfl reset

theorem Calls.verdict {before after : EventStatus} {verdict : Bool} (calls : Calls before after (some verdict)) :
    before ≠ verdictOf verdict ∧ after = verdictOf verdict := by
  rcases calls with ⟨-, called⟩ | ⟨other, same, called⟩ | ⟨other, same, called⟩ | ⟨-, called⟩
  · cases called
  · cases called
    exact ⟨other, same⟩
  · cases called
    exact ⟨other, same⟩
  · cases called

variable {trace : List (Taken CounterBasedDebouncer DebouncerOperation (Option Bool))}

/-- Behind a call the status is its verdict, as long as nothing is called or reset. -/
theorem status_since {init : CounterBasedDebouncer}
    {between older : List (Taken CounterBasedDebouncer DebouncerOperation (Option Bool))}
    {earlier : Taken CounterBasedDebouncer DebouncerOperation (Option Bool)} {verdict : Bool}
    (run : Run (step values) init (between ++ earlier :: older) debouncer)
    (called : earlier.output = some verdict) (quiet : ∀ taken ∈ between, taken.output = none)
    (kept : ∀ taken ∈ between, ¬ (taken.input = .freeze ∨ taken.input = .reset)) :
    debouncer.eventStatus = verdictOf verdict := by
  induction between generalizing debouncer with
  | nil =>
    cases run with
    | @next _ before _ operation _ _ taken =>
      have calls := perform_calls values before operation
      cases taken
      dsimp only at called
      rw [called] at calls
      exact calls.verdict.2
  | cons last rest ih =>
    cases run with
    | next run taken =>
      obtain ⟨quiet_here, quiet_before⟩ := List.forall_mem_cons.mp quiet
      obtain ⟨kept_here, kept_before⟩ := List.forall_mem_cons.mp kept
      obtain ⟨freeze, reset⟩ := not_or.mp kept_here
      cases taken
      rw [perform_quiet freeze reset quiet_here]
      exact ih run quiet_before kept_before

theorem run_alternates {init : CounterBasedDebouncer} (run : Run (step values) init trace debouncer) :
    Alternates trace := by
  intro newer later between earlier older verdict split later_called earlier_called quiet
  by_contra none_resets
  push Not at none_resets
  subst split
  have status := status_since run.before earlier_called quiet
    fun taken there resets => by
      obtain ⟨freeze, reset⟩ := none_resets taken there
      exact resets.elim freeze reset
  obtain ⟨after, taken⟩ := run.taken_step (List.mem_append_right newer List.mem_cons_self)
  have calls := perform_calls values later.before later.input
  unfold step at taken
  injection taken with result
  injection result with output _
  rw [output, later_called] at calls
  exact calls.verdict.1 status

/-- In every run the counter stays between the thresholds, no stored counter overflows and the verdicts
called alternate; and the status is the verdict wherever the counter is at a threshold, exactly when no jump
lands on one silently. -/
theorem debounces_iff (proper : values.Proper) (run : Run (step values) make trace debouncer) :
    (Run.Throughout (fun debouncer => debouncer.InRange values ∧ debouncer.Settled values) trace debouncer ∧
        (∀ taken ∈ trace, taken.before.Fits values taken.input) ∧ Alternates trace) ↔
      Run.Every (Announced values) trace := by
  have start : make.InRange values ∧ make.Settled values := by
    refine ⟨⟨?_, ?_⟩, settled_make proper⟩
    · exact Int.le_of_lt proper.passed
    · exact Int.le_of_lt proper.failed
  have both : Run.Throughout (fun debouncer => debouncer.InRange values ∧ debouncer.Settled values) trace
      debouncer ↔ Run.Every (Announced values) trace := by
    apply Run.stays_iff_every start.1 start ?_ ?_ run
    · intro before operation output after inRange taken
      cases taken
      exact perform_inRange proper inRange operation
    · intro before operation output after inRange good taken
      cases taken
      rw [and_iff_right (perform_inRange proper inRange operation)]
      exact perform_settled_iff proper inRange good.2 operation
  rw [both, and_iff_left]
  exact ⟨fun taken _ => perform_fits values taken.before taken.input, run_alternates run⟩

/-- The jump to a failure lands on the threshold. -/
def jumpingValues : CounterBased := ⟨10, -10, 5, 5, 10, 0, true, false⟩

theorem jumpingValues_proper : jumpingValues.Proper :=
  ⟨by decide, by decide, by decide, by decide, by decide, by decide⟩

theorem debounces_iff_failed : ∃ trace debouncer,
    Run.play (step jumpingValues) [] make [.failed, .prefailed, .prepassed, .reset] = .ok (trace, debouncer) ∧
      Run.Throughout (fun debouncer => debouncer.InRange jumpingValues ∧ debouncer.Settled jumpingValues)
        trace debouncer := by
  obtain ⟨trace, debouncer, played, announced⟩ : ∃ trace debouncer,
      Run.play (step jumpingValues) [] make [.failed, .prefailed, .prepassed, .reset] =
          .ok (trace, debouncer) ∧
        Run.Every (Announced jumpingValues) trace := ⟨_, _, rfl, by decide⟩
  have debounces := (debounces_iff jumpingValues_proper (Run.of_play .start played)).mpr announced
  exact ⟨trace, debouncer, played, debounces.1⟩

theorem not_always_debounces : jumpingValues.Proper ∧ ∃ trace debouncer,
    Run.play (step jumpingValues) [] make [.prefailed] = .ok (trace, debouncer) ∧
      debouncer.fdc = jumpingValues.failedThreshold ∧ debouncer.eventStatus = .pending ∧
      ¬ Run.Throughout (fun debouncer => debouncer.InRange jumpingValues ∧ debouncer.Settled jumpingValues)
        trace debouncer := by
  refine ⟨jumpingValues_proper, _, _, rfl, by decide, by decide, ?_⟩
  rintro ⟨⟨-, settled⟩, -⟩
  have failed := settled.failed (by decide)
  cases failed

end CounterBasedDebouncer
end AdaptiveAutosar.Diag
