import Mathlib.Data.Nat.Find
import AdaptiveAutosar.Diag.TimerFreezing
import AdaptiveAutosar.Foundations.Transition

/-! # Debouncing across freezes

The counter-based debouncer resets its counter at `Freeze`, so that every phase of pre-reports begins from
zero. The verdicts of a run are compared with those of the same reports without `Freeze`.
-/

namespace AdaptiveAutosar.Diag
open Foundations
set_option autoImplicit false

/-! ## The counter -/

/-- The counter in the direction of the reports: it counts up to the threshold by steps, and may jump up. -/
structure Counting where
  threshold : ℤ
  step : ℕ
  jump : Option ℤ

namespace Counting

/-- What the next report makes of the counter below the threshold. -/
def next (counting : Counting) (value : ℤ) : ℤ :=
  match counting.jump with
  | some jump => if value < jump then jump else value + counting.step
  | none => value + counting.step

/-- The counter after some reports from zero, if none reaches the threshold. -/
def after (counting : Counting) : ℕ → ℤ
  | 0 => 0
  | reports + 1 => counting.next 0 + reports * counting.step

theorem succ_mul_step (counting : Counting) (reports : ℕ) :
    ((reports + 1 : ℕ) : ℤ) * counting.step = reports * counting.step + counting.step := by
  rw [Int.natCast_succ, Int.add_mul, Int.one_mul]

theorem steps_nonneg (counting : Counting) (reports : ℕ) : 0 ≤ (reports : ℤ) * counting.step :=
  Int.mul_nonneg (Int.natCast_nonneg _) (Int.natCast_nonneg _)

/-- So many reports, from a counter of zero, come to the threshold. -/
def Attains (counting : Counting) (reports : ℕ) : Prop :=
  0 < reports ∧ (counting.threshold ≤ counting.step ∨
    1 < reports ∧ counting.threshold ≤ counting.next 0 + (reports - 1 : ℕ) * counting.step)

instance (counting : Counting) (reports : ℕ) : Decidable (counting.Attains reports) :=
  @instDecidableAnd _ _ _ (@instDecidableOr _ _ _ instDecidableAnd)

theorem next_after (counting : Counting) (reports : ℕ) :
    counting.next (counting.after reports) = counting.after (reports + 1) := by
  cases reports with
  | zero => simp [after]
  | succ reports =>
    have grown := counting.steps_nonneg reports
    simp only [after, succ_mul_step]
    generalize (reports : ℤ) * counting.step = steps at grown ⊢
    unfold next
    cases counting.jump with
    | none =>
      dsimp only
      omega
    | some jump =>
      dsimp only
      split_ifs <;> omega

theorem attains_succ_iff (counting : Counting) {reports : ℕ} (below : ¬ counting.Attains reports) :
    counting.Attains (reports + 1) ↔ counting.threshold ≤ counting.after reports + counting.step := by
  unfold Attains at *
  cases reports with
  | zero => simp [after]
  | succ reports =>
    simp only [after, Nat.add_sub_cancel, succ_mul_step] at *
    generalize (reports : ℤ) * counting.step = steps at *
    omega

theorem attains_mono (counting : Counting) {reports more : ℕ} (attains : counting.Attains reports)
    (le : reports ≤ more) : counting.Attains more := by
  obtain ⟨some, once | ⟨several, reaches⟩⟩ := attains
  · exact ⟨by omega, .inl once⟩
  · refine ⟨by omega, .inr ⟨by omega, ?_⟩⟩
    have further : ((reports - 1 : ℕ) : ℤ) * counting.step ≤ (more - 1 : ℕ) * counting.step :=
      Int.mul_le_mul_of_nonneg_right (by omega) (Int.natCast_nonneg _)
    omega

end Counting

namespace CounterBasedDebouncer
variable (values : CounterBased) (passing : Bool)

def reportPre (debouncer : CounterBasedDebouncer) : CounterBasedDebouncer × Option Bool :=
  if passing then debouncer.reportPrepassed values else debouncer.reportPrefailed values

/-- The counter counts down to a pass and up to a failure. -/
def countingOf : Counting :=
  if passing then
    ⟨-values.passedThreshold.toInt, values.passedStepsize.toNat,
      if values.useJumpToPassed then some (-values.passedJumpValue.toInt) else none⟩
  else
    ⟨values.failedThreshold.toInt, values.failedStepsize.toNat,
      if values.useJumpToFailed then some values.failedJumpValue.toInt else none⟩

def valueOf (debouncer : CounterBasedDebouncer) : ℤ :=
  if passing then -debouncer.fdc.toInt else debouncer.fdc.toInt

def verdictOf : EventStatus := if passing then .passed else .failed

def thresholdOf : Int16 := if passing then values.passedThreshold else values.failedThreshold

/-- Some reports one after the other, with what each calls. -/
def reports (debouncer : CounterBasedDebouncer) : ℕ → CounterBasedDebouncer × List (Option Bool)
  | 0 => (debouncer, [])
  | n + 1 =>
    let before := reports debouncer n
    let report := before.1.reportPre values passing
    (report.1, before.2 ++ [report.2])

/-- Phases of reports from a new debouncer, with `Freeze` after each. -/
def withFreezes (phases : List ℕ) : CounterBasedDebouncer × List (Option Bool) :=
  phases.foldl
    (fun run count =>
      let reported := run.1.reports values passing count
      (reported.1.freeze.1, run.2 ++ reported.2))
    (make, [])

variable {values : CounterBased} {passing : Bool}

theorem freeze_fst (debouncer : CounterBasedDebouncer) : debouncer.freeze.1 = make :=
  settle_fst debouncer 0 .pending

theorem reportPre_cases (values : CounterBased) (passing : Bool) (debouncer : CounterBasedDebouncer) :
    ((countingOf values passing).threshold ≤ debouncer.valueOf passing + (countingOf values passing).step ∧
        debouncer.reportPre values passing =
          debouncer.settle (thresholdOf values passing) (verdictOf passing)) ∨
      (¬ (countingOf values passing).threshold ≤
          debouncer.valueOf passing + (countingOf values passing).step ∧
        (debouncer.reportPre values passing).2 = none ∧
        (debouncer.reportPre values passing).1.eventStatus = debouncer.eventStatus ∧
        (debouncer.reportPre values passing).1.valueOf passing =
          (countingOf values passing).next (debouncer.valueOf passing)) := by
  have low := debouncer.fdc.le_toInt
  have high := debouncer.fdc.toInt_lt
  cases passing with
  | true =>
    have bound := values.passedThreshold.le_toInt
    simp only [countingOf, valueOf, reportPre, reportPrepassed, thresholdOf, verdictOf, if_true]
    by_cases beyond : debouncer.fdc.toInt - values.passedStepsize.toNat ≤ values.passedThreshold.toInt
    · exact .inl ⟨by omega, if_pos beyond⟩
    · refine .inr ⟨by omega, ?_⟩
      have fits := Int16.toInt_ofInt_of_le (n := debouncer.fdc.toInt - values.passedStepsize.toNat)
        (by omega) (by omega)
      rw [Int16.toInt_ofInt] at fits
      rw [if_neg beyond]
      unfold Counting.next
      cases values.useJumpToPassed with
      | false => simp [fits]; omega
      | true =>
        by_cases jumps : values.passedJumpValue.toInt < debouncer.fdc.toInt
        · simp [jumps]
        · simp [jumps, fits]; omega
  | false =>
    have bound := values.failedThreshold.toInt_lt
    simp only [countingOf, valueOf, reportPre, reportPrefailed, thresholdOf, verdictOf, if_false,
      Bool.false_eq_true]
    by_cases beyond : values.failedThreshold.toInt ≤ debouncer.fdc.toInt + values.failedStepsize.toNat
    · exact .inl ⟨beyond, if_pos beyond⟩
    · refine .inr ⟨beyond, ?_⟩
      have fits := Int16.toInt_ofInt_of_le (n := debouncer.fdc.toInt + values.failedStepsize.toNat)
        (by omega) (by omega)
      rw [Int16.toInt_ofInt] at fits
      rw [if_neg beyond]
      unfold Counting.next
      cases values.useJumpToFailed with
      | false => simp [fits]
      | true =>
        by_cases jumps : debouncer.fdc.toInt < values.failedJumpValue.toInt
        · simp [jumps]
        · simp [jumps, fits]

/-- What the report behind some others calls: the verdict when it is the one that attains it. -/
def callOf (values : CounterBased) (passing : Bool) (before : ℕ) : Option Bool :=
  if ¬ (countingOf values passing).Attains before ∧ (countingOf values passing).Attains (before + 1) then
    some passing
  else none

theorem valueOf_threshold :
    (⟨verdictOf passing, thresholdOf values passing⟩ : CounterBasedDebouncer).valueOf passing =
      (countingOf values passing).threshold := by
  cases passing <;> rfl

theorem settle_reached : (⟨verdictOf passing, thresholdOf values passing⟩ : CounterBasedDebouncer).settle
    (thresholdOf values passing) (verdictOf passing) =
      (⟨verdictOf passing, thresholdOf values passing⟩, none) := by
  simp [settle, setEventStatus]

theorem settle_pending {debouncer : CounterBasedDebouncer} (pending : debouncer.eventStatus = .pending) :
    debouncer.settle (thresholdOf values passing) (verdictOf passing) =
      (⟨verdictOf passing, thresholdOf values passing⟩, some passing) := by
  unfold settle
  rw [pending]
  cases passing <;> rfl

/-- The reports from a new debouncer: their calls, and where the counter is. -/
theorem reports_make (values : CounterBased) (passing : Bool) (count : ℕ) :
    (reports values passing make count).2 = (List.range count).map (callOf values passing) ∧
      ((countingOf values passing).Attains count →
        (reports values passing make count).1 = ⟨verdictOf passing, thresholdOf values passing⟩) ∧
      (¬ (countingOf values passing).Attains count →
        (reports values passing make count).1.eventStatus = .pending ∧
          (reports values passing make count).1.valueOf passing =
            (countingOf values passing).after count) := by
  induction count with
  | zero =>
    refine ⟨rfl, fun attains => absurd attains.1 (Nat.lt_irrefl 0), fun _ => ⟨rfl, ?_⟩⟩
    cases passing <;> rfl
  | succ count ih =>
    obtain ⟨calls, done, going⟩ := ih
    rw [List.range_succ, List.map_append, List.map_singleton]
    unfold reports
    dsimp only
    rw [calls]
    unfold callOf
    by_cases attains : (countingOf values passing).Attains count
    · have later := (countingOf values passing).attains_mono attains (Nat.le_succ count)
      rw [done attains, if_neg (fun fires => fires.1 attains)]
      rcases reportPre_cases values passing
        ⟨verdictOf passing, thresholdOf values passing⟩ with ⟨_, settles⟩ | ⟨under, _⟩
      · rw [settles, settle_reached]
        exact ⟨rfl, fun _ => rfl, fun before => absurd later before⟩
      · rw [valueOf_threshold] at under
        exact absurd (by omega) under
    · obtain ⟨pending, value⟩ := going attains
      have reaches := (countingOf values passing).attains_succ_iff attains
      rcases reportPre_cases values passing (reports values passing make count).1
        with ⟨beyond, settles⟩ | ⟨under, silent, status, counts⟩
      · have now := reaches.mpr (value ▸ beyond)
        rw [settles, settle_pending pending, if_pos ⟨attains, now⟩]
        exact ⟨rfl, fun _ => rfl, fun before => absurd now before⟩
      · have notYet : ¬ (countingOf values passing).Attains (count + 1) := fun now =>
          under (value ▸ reaches.mp now)
        rw [silent, if_neg (fun fires => notYet fires.2)]
        refine ⟨rfl, fun now => absurd now notYet, fun _ => ⟨status.trans pending, ?_⟩⟩
        rw [counts, value, Counting.next_after]

theorem withFreezes_append (older : List ℕ) (next : ℕ) :
    withFreezes values passing (older ++ [next]) =
      (make, (withFreezes values passing older).2 ++ (List.range next).map (callOf values passing)) := by
  have starts : (withFreezes values passing older).1 = make := by
    induction older using List.reverseRecOn with
    | nil => rfl
    | append_singleton older last _ =>
      unfold withFreezes
      rw [List.foldl_append]
      exact freeze_fst _
  have calls := (reports_make values passing next).1
  unfold withFreezes at starts ⊢
  rw [List.foldl_append, List.foldl_cons, List.foldl_nil]
  dsimp only
  rw [starts, calls, freeze_fst]

/-- Behind any reports a phase fires like a first one: it does not come to the threshold again when it is
reached, and it alone comes there when it is not. -/
theorem fires_shift_iff {attains : ℕ → Prop} (start : ¬ attains 0)
    (mono : ∀ {few many}, attains few → few ≤ many → attains many) (past next : ℕ) :
    (∀ i < next, (¬ attains i ∧ attains (i + 1) ↔ ¬ attains (past + i) ∧ attains (past + i + 1))) ↔
      (attains past → ¬ attains next) ∧ (¬ attains past → attains (past + next) → past = 0) := by
  classical
  by_cases ever : ∃ count, attains count
  · -- from the least count that attains, all is arithmetic
    obtain ⟨needed, reached, least⟩ : ∃ needed, attains needed ∧ ∀ count < needed, ¬ attains count :=
      ⟨Nat.find ever, Nat.find_spec ever, fun _ less => Nat.find_min ever less⟩
    have exact : ∀ count, attains count ↔ needed ≤ count := by
      intro count
      constructor
      · intro attained
        by_contra less
        exact least count (Nat.lt_of_not_le less) attained
      · intro enough
        exact mono reached enough
    have positive : ¬ needed ≤ 0 := fun zero => start ((exact 0).mpr zero)
    simp only [exact]
    constructor
    · intro same
      constructor
      · intro before again
        have := same (needed - 1) (by omega)
        omega
      · intro before now
        by_contra later
        have := same (needed - 1 - past) (by omega)
        omega
    · intro only i inside
      omega
  · have never : ∀ count, ¬ attains count := fun count attained => ever ⟨count, attained⟩
    simp [never]

/-- The phases with `Freeze` between them call what the same reports without it call. -/
def Exact (values : CounterBased) (passing : Bool) (phases : List ℕ) : Prop :=
  (withFreezes values passing phases).2 = (reports values passing make phases.sum).2

/-- The threshold is attained by the first reports of all or not at all, and by no later phase alone. -/
def Continues (values : CounterBased) (passing : Bool) (older : List ℕ) (next : ℕ) : Prop :=
  ((countingOf values passing).Attains older.sum → ¬ (countingOf values passing).Attains next) ∧
    (¬ (countingOf values passing).Attains older.sum →
      (countingOf values passing).Attains (older.sum + next) → older.sum = 0)

theorem exact_append_iff {older : List ℕ} (next : ℕ) (exact : Exact values passing older) :
    Exact values passing (older ++ [next]) ↔ Continues values passing older next := by
  unfold Exact at exact ⊢
  rw [withFreezes_append, exact, (reports_make values passing _).1, (reports_make values passing _).1,
    List.sum_append, List.sum_singleton, List.range_add, List.map_append, List.append_cancel_left_eq, List.map_map,
    List.map_inj_left]
  unfold Continues
  rw [← fires_shift_iff (fun attains => absurd attains.1 (Nat.lt_irrefl 0))
    (fun attains le => (countingOf values passing).attains_mono attains le)]
  have same : ∀ i, callOf values passing i = callOf values passing (older.sum + i) ↔
      (¬ (countingOf values passing).Attains i ∧ (countingOf values passing).Attains (i + 1) ↔
        ¬ (countingOf values passing).Attains (older.sum + i) ∧
          (countingOf values passing).Attains (older.sum + i + 1)) := by
    intro i
    unfold callOf
    split_ifs with here there there
    · exact iff_of_true rfl ⟨fun _ => there, fun _ => here⟩
    · exact iff_of_false (fun h => by cases h) (fun both => there (both.mp here))
    · exact iff_of_false (fun h => by cases h) (fun both => here (both.mpr there))
    · exact iff_of_true rfl ⟨fun h => absurd h here, fun h => absurd h there⟩
  simp only [List.mem_range, Function.comp_apply, same]

theorem exact_nil : Exact values passing [] := rfl

end CounterBasedDebouncer

/-! ## Both mechanisms -/

/-- For every direction, every phases of the timer and every phases of the counter: freezes never move a
verdict exactly when no phase of the timer comes to the threshold behind more than one phase that lasted, and
the counter attains its threshold in the first reports of all, and in no later phase alone. -/
theorem survivesFreezes_iff (times : TimeBased) (values : CounterBased) (passing isPassing : Bool)
    (phases : List TimerPhase) (counts : List ℕ) :
    ((∀ older, older <+: phases → TimerRun.Exact times passing isPassing older) ∧
        ∀ older, older <+: counts → CounterBasedDebouncer.Exact values passing older) ↔
      (∀ older next, older ++ [next] <+: phases → TimerRun.Continues times passing older next) ∧
        ∀ older next, older ++ [next] <+: counts → CounterBasedDebouncer.Continues values passing older next := by
  apply and_congr
  · apply prefixes_iff (TimerRun.exact_nil isPassing)
    intro older next exact
    exact TimerRun.exact_append_iff isPassing next exact
  · apply prefixes_iff CounterBasedDebouncer.exact_nil
    intro older next exact
    exact CounterBasedDebouncer.exact_append_iff next exact

/-- Three phases of 20 ms come to the threshold of 50 ms, and two reports with steps of 64 to 127. -/
theorem not_always_survivesFreezes :
    ¬ TimerRun.Exact ⟨50, 50⟩ true false [⟨20, []⟩, ⟨20, []⟩, ⟨20, []⟩] ∧
      ¬ CounterBasedDebouncer.Exact ⟨127, -128, 64, 64, 0, 0, false, false⟩ false [1, 1] := by
  constructor
  · intro exact
    cases exact.2
  · intro exact
    cases exact

end AdaptiveAutosar.Diag
