import Mathlib.Algebra.Ring.Nat
import Mathlib.Data.List.Induction
import AdaptiveAutosar.Diag.TimerDebouncing

/-! # Timer-based debouncing across freezes

Phases of pre-reports in one direction, each followed by `Freeze`. The debouncer keeps what the last phase
lasted in place of what all of them have lasted.
-/

namespace AdaptiveAutosar.Diag
set_option autoImplicit false

namespace TimerBasedDebouncer
variable (values : TimeBased) (passing : Bool)

def frozen (last : ℕ) : TimerBasedDebouncer := ⟨.pending, UInt32.ofNat last, passing, none⟩

def waiting (last waited : ℕ) : TimerBasedDebouncer :=
  ⟨.pending, UInt32.ofNat last, passing,
    some ⟨thresholdOf values passing - UInt32.ofNat last, passing, waited⟩⟩

def reached : TimerBasedDebouncer := ⟨verdictOf passing, thresholdOf values passing, passing, none⟩

variable {values : TimeBased} {passing : Bool} {last waited : ℕ}

theorem ofNat_toNat_of_lt (inside : last < (thresholdOf values passing).toNat) :
    (UInt32.ofNat last).toNat = last := by
  have bound : last < UInt32.size := Nat.lt_trans inside (thresholdOf values passing).toNat_lt
  exact UInt32.toNat_ofNat_of_lt' bound

theorem duration_toNat (inside : last < (thresholdOf values passing).toNat) :
    (thresholdOf values passing - UInt32.ofNat last).toNat = (thresholdOf values passing).toNat - last := by
  have exact := ofNat_toNat_of_lt inside
  rw [UInt32.toNat_sub_of_le _ _ (by rw [UInt32.le_iff_toNat_le]; omega), exact]

/-- The first report turns a new debouncer to its direction. -/
theorem reportPre_make (isPassing : Bool) :
    (make isPassing).reportPre values passing = (frozen passing 0).reportPre values passing := by
  by_cases same : isPassing = passing
  · rw [same]
    rfl
  · simp [reportPre, make, frozen, freeze, same]

theorem reportPre_frozen (inside : last < (thresholdOf values passing).toNat) :
    (frozen passing last).reportPre values passing = waiting values passing last 0 := by
  have duration := duration_toNat inside
  simp only [reportPre, frozen, start, ne_eq, not_true, if_false]
  rw [if_pos ⟨trivial, by omega⟩]
  rfl

theorem reportPre_waiting :
    (waiting values passing last waited).reportPre values passing = waiting values passing last waited := by
  simp [reportPre, waiting, start]

theorem reportPre_reached :
    (reached values passing).reportPre values passing = reached values passing := by
  simp [reportPre, reached, start]

theorem elapse_waiting (inside : last < (thresholdOf values passing).toNat) (ms : ℕ) :
    (waiting values passing last waited).elapse values ms =
      if (thresholdOf values passing).toNat - last ≤ waited + ms then
        (reached values passing, some ((thresholdOf values passing).toNat - last - waited, passing))
      else (waiting values passing last (waited + ms), none) := by
  simp only [elapse, waiting, duration_toNat inside]
  split_ifs
  · cases passing <;> rfl
  · rfl

end TimerBasedDebouncer

/-- A phase lasts for some times, with a report before each of them. -/
structure TimerPhase where
  first : ℕ
  later : List ℕ

def TimerPhase.duration (phase : TimerPhase) : ℕ := phase.first + phase.later.sum

/-- `active`: how long the phases have lasted. A verdict is kept with that time. `wrapped`: a remaining time
was computed from more milliseconds than the threshold has. -/
structure TimerRun where
  debouncer : TimerBasedDebouncer
  active : ℕ
  verdicts : List (ℕ × Bool)
  wrapped : Bool
  deriving DecidableEq, Repr

namespace TimerRun
open TimerBasedDebouncer
variable (values : TimeBased) (passing : Bool)

/-- A report, and some time after it. -/
def report (run : TimerRun) (ms : ℕ) : TimerRun :=
  let reported := run.debouncer.reportPre values passing
  let elapsed := reported.elapse values ms
  { debouncer := elapsed.1
    active := run.active + ms
    verdicts := run.verdicts ++ (elapsed.2.map fun verdict => (run.active + verdict.1, verdict.2)).toList
    wrapped := run.wrapped || decide (thresholdOf values passing < reported.elapsedMs) }

def phase (run : TimerRun) (phase : TimerPhase) : TimerRun :=
  let reported := (phase.first :: phase.later).foldl (report values passing) run
  { reported with debouncer := reported.debouncer.freeze }

/-- The phases from a new debouncer. -/
def ofPhases (isPassing : Bool) (phases : List TimerPhase) : TimerRun :=
  phases.foldl (phase values passing) ⟨make isPassing, 0, [], false⟩

variable {values : TimeBased} {passing : Bool} {last waited active : ℕ}

theorem report_waiting (inside : last < (thresholdOf values passing).toNat) (ms : ℕ) :
    report values passing ⟨waiting values passing last waited, active, [], false⟩ ms =
      if (thresholdOf values passing).toNat - last ≤ waited + ms then
        ⟨reached values passing, active + ms,
          [(active + ((thresholdOf values passing).toNat - last - waited), passing)], false⟩
      else ⟨waiting values passing last (waited + ms), active + ms, [], false⟩ := by
  have kept : ¬ thresholdOf values passing < UInt32.ofNat last := by
    rw [UInt32.lt_iff_toNat_lt, ofNat_toNat_of_lt inside]
    omega
  unfold report
  dsimp only
  rw [reportPre_waiting, elapse_waiting inside]
  split_ifs
  · simp [waiting, kept]
  · simp [waiting, kept]

theorem report_reached (verdicts : List (ℕ × Bool)) (ms : ℕ) :
    report values passing ⟨reached values passing, active, verdicts, false⟩ ms =
      ⟨reached values passing, active + ms, verdicts, false⟩ := by
  unfold report
  dsimp only
  rw [reportPre_reached]
  simp [reached, elapse]

theorem reports_reached (verdicts : List (ℕ × Bool)) (times : List ℕ) :
    times.foldl (report values passing) ⟨reached values passing, active, verdicts, false⟩ =
      ⟨reached values passing, active + times.sum, verdicts, false⟩ := by
  induction times generalizing active with
  | nil => rfl
  | cons ms rest ih => rw [List.foldl_cons, report_reached, ih, List.sum_cons, Nat.add_assoc]

/-- The wait ends with the verdict when the times that it lasts come to what was left at its start. -/
theorem reports_waiting (active : ℕ) (inside : last < (thresholdOf values passing).toNat)
    (begun : waited < (thresholdOf values passing).toNat - last) (times : List ℕ) :
    times.foldl (report values passing) ⟨waiting values passing last waited, active, [], false⟩ =
      if (thresholdOf values passing).toNat - last ≤ waited + times.sum then
        ⟨reached values passing, active + times.sum,
          [(active + ((thresholdOf values passing).toNat - last - waited), passing)], false⟩
      else ⟨waiting values passing last (waited + times.sum), active + times.sum, [], false⟩ := by
  induction times generalizing active waited with
  | nil => rw [if_neg (by simp; omega)]; rfl
  | cons ms rest ih =>
    rw [List.foldl_cons, report_waiting inside, List.sum_cons]
    by_cases beyond : (thresholdOf values passing).toNat - last ≤ waited + ms
    · rw [if_pos beyond, if_pos (by omega), reports_reached, Nat.add_assoc]
    · rw [if_neg beyond, ih (active + ms) (by omega)]
      have regroup : waited + ms + rest.sum = waited + (ms + rest.sum) := Nat.add_assoc _ _ _
      have time : active + ms + ((thresholdOf values passing).toNat - last - (waited + ms)) =
          active + ((thresholdOf values passing).toNat - last - waited) := by omega
      rw [regroup, time, Nat.add_assoc]

theorem phase_frozen (inside : last < (thresholdOf values passing).toNat) (next : TimerPhase) :
    phase values passing ⟨frozen passing last, active, [], false⟩ next =
      if (thresholdOf values passing).toNat - last ≤ next.duration then
        ⟨reached values passing, active + next.duration,
          [(active + ((thresholdOf values passing).toNat - last), passing)], false⟩
      else ⟨frozen passing next.duration, active + next.duration, [], false⟩ := by
  have begins : report values passing ⟨frozen passing last, active, [], false⟩ next.first =
      report values passing ⟨waiting values passing last 0, active, [], false⟩ next.first := by
    unfold report
    dsimp only
    rw [reportPre_frozen inside, reportPre_waiting]
  have left : 0 < (thresholdOf values passing).toNat - last := by omega
  have lasts := reports_waiting active inside left (next.first :: next.later)
  rw [List.foldl_cons, ← begins, ← List.foldl_cons, List.sum_cons, Nat.zero_add, Nat.sub_zero] at lasts
  unfold phase TimerPhase.duration
  rw [lasts]
  split_ifs
  · rfl
  · rfl

theorem phase_reached (verdicts : List (ℕ × Bool)) (next : TimerPhase) :
    phase values passing ⟨reached values passing, active, verdicts, false⟩ next =
      ⟨reached values passing, active + next.duration, verdicts, false⟩ := by
  unfold phase TimerPhase.duration
  rw [reports_reached, List.sum_cons]
  rfl

/-- With a threshold of zero there is nothing to wait for. -/
theorem phase_zero (zero : (thresholdOf values passing).toNat = 0) (next : TimerPhase) :
    phase values passing ⟨frozen passing 0, active, [], false⟩ next =
      ⟨frozen passing 0, active + next.duration, [], false⟩ := by
  have none_left : thresholdOf values passing = 0 := UInt32.toNat_inj.mp zero
  have idle : ∀ active ms, report values passing ⟨frozen passing 0, active, [], false⟩ ms =
      ⟨frozen passing 0, active + ms, [], false⟩ := by
    intro active ms
    simp [report, TimerBasedDebouncer.reportPre, frozen, start, elapse, none_left]
  have idles : ∀ (times : List ℕ) (active : ℕ),
      times.foldl (report values passing) ⟨frozen passing 0, active, [], false⟩ =
        ⟨frozen passing 0, active + times.sum, [], false⟩ := by
    intro times
    induction times with
    | nil => intro active; rfl
    | cons ms rest ih =>
      intro active
      rw [List.foldl_cons, idle, ih, List.sum_cons, Nat.add_assoc]
  unfold phase TimerPhase.duration
  rw [idles, List.sum_cons]
  rfl

/-! ## All phases -/

def totalOf (phases : List TimerPhase) : ℕ := (phases.map TimerPhase.duration).sum

/-- How long the last phase was. -/
def lastOf (phases : List TimerPhase) : ℕ := ((phases.map TimerPhase.duration).getLast?).getD 0

theorem totalOf_append (older : List TimerPhase) (next : TimerPhase) :
    totalOf (older ++ [next]) = totalOf older + next.duration := by
  simp [totalOf]

theorem lastOf_append (older : List TimerPhase) (next : TimerPhase) :
    lastOf (older ++ [next]) = next.duration := by
  simp [lastOf]

theorem lastOf_le_totalOf (phases : List TimerPhase) : lastOf phases ≤ totalOf phases := by
  induction phases using List.reverseRecOn with
  | nil => exact Nat.le_refl 0
  | append_singleton older next ih =>
    rw [lastOf_append, totalOf_append]
    omega

theorem ofPhases_append (isPassing : Bool) (older : List TimerPhase) (next : TimerPhase) :
    ofPhases values passing isPassing (older ++ [next]) =
      phase values passing (ofPhases values passing isPassing older) next := by
  unfold ofPhases
  rw [List.foldl_append]
  rfl

/-- No verdict yet, and the next phase goes on from the milliseconds of the last one. -/
structure Pending (values : TimeBased) (passing : Bool) (last active : ℕ) (run : TimerRun) : Prop where
  verdicts : run.verdicts = []
  wrapped : run.wrapped = false
  next : ∀ next, phase values passing run next =
    phase values passing ⟨frozen passing last, active, [], false⟩ next

theorem pending_frozen (last active : ℕ) :
    Pending values passing last active ⟨frozen passing last, active, [], false⟩ :=
  ⟨rfl, rfl, fun _ => rfl⟩

theorem pending_start (isPassing : Bool) :
    Pending values passing 0 0 (ofPhases values passing isPassing []) := by
  refine ⟨rfl, rfl, fun next => ?_⟩
  have begins : report values passing ⟨make isPassing, 0, [], false⟩ next.first =
      report values passing ⟨frozen passing 0, 0, [], false⟩ next.first := by
    unfold report
    dsimp only
    rw [reportPre_make]
  unfold phase ofPhases
  rw [List.foldl_nil, List.foldl_cons, begins, ← List.foldl_cons]

/-- The phases end before the verdict, or it came when the last phases lasted the threshold. -/
theorem ofPhases_cases (positive : 0 < (thresholdOf values passing).toNat) (isPassing : Bool)
    (phases : List TimerPhase) :
    (Pending values passing (lastOf phases) (totalOf phases) (ofPhases values passing isPassing phases) ∧
        lastOf phases < (thresholdOf values passing).toNat) ∨
      ∃ time, (thresholdOf values passing).toNat ≤ time ∧ time ≤ totalOf phases ∧
        ofPhases values passing isPassing phases =
          ⟨reached values passing, totalOf phases, [(time, passing)], false⟩ := by
  induction phases using List.reverseRecOn with
  | nil => exact .inl ⟨pending_start isPassing, positive⟩
  | append_singleton older next ih =>
    rw [ofPhases_append, lastOf_append, totalOf_append]
    rcases ih with ⟨pending, inside⟩ | ⟨time, late, soon, reached⟩
    · rw [pending.next, phase_frozen inside]
      have atMost := lastOf_le_totalOf older
      split_ifs with beyond
      · exact .inr ⟨_, by omega, by omega, rfl⟩
      · exact .inl ⟨pending_frozen _ _, by omega⟩
    · rw [reached, phase_reached]
      exact .inr ⟨time, late, by omega, rfl⟩

theorem ofPhases_zero (zero : (thresholdOf values passing).toNat = 0) (isPassing : Bool)
    (phases : List TimerPhase) :
    Pending values passing 0 (totalOf phases) (ofPhases values passing isPassing phases) := by
  induction phases using List.reverseRecOn with
  | nil => exact pending_start isPassing
  | append_singleton older next ih =>
    rw [ofPhases_append, totalOf_append, ih.next, phase_zero zero]
    exact pending_frozen _ _

/-- The verdict comes when the phases have lasted the threshold, and no remaining time wraps. -/
def Exact (values : TimeBased) (passing isPassing : Bool) (phases : List TimerPhase) : Prop :=
  (ofPhases values passing isPassing phases).wrapped = false ∧
    (ofPhases values passing isPassing phases).verdicts =
      if phases ≠ [] ∧ (thresholdOf values passing).toNat ≤ totalOf phases then
        [((thresholdOf values passing).toNat, passing)]
      else []

/-- There is a time to wait for, and when a phase comes to the threshold, only the one right before it has
lasted any time. -/
def Continues (values : TimeBased) (passing : Bool) (older : List TimerPhase) (next : TimerPhase) : Prop :=
  0 < (thresholdOf values passing).toNat ∧
    (totalOf older < (thresholdOf values passing).toNat →
      (thresholdOf values passing).toNat ≤ totalOf older + next.duration → totalOf older = lastOf older)

/-- Without a verdict the phases have not lasted the threshold. -/
theorem Exact.below {isPassing : Bool} {phases : List TimerPhase} (exact : Exact values passing isPassing phases)
    (positive : 0 < (thresholdOf values passing).toNat)
    (pending : Pending values passing last active (ofPhases values passing isPassing phases)) :
    totalOf phases < (thresholdOf values passing).toNat := by
  by_contra reaches
  have nonempty : phases ≠ [] := by
    rintro rfl
    exact reaches positive
  have silent := exact.2
  rw [pending.verdicts, if_pos ⟨nonempty, Nat.le_of_not_lt reaches⟩] at silent
  cases silent

theorem exact_append_iff (isPassing : Bool) {older : List TimerPhase} (next : TimerPhase)
    (exact : Exact values passing isPassing older) :
    Exact values passing isPassing (older ++ [next]) ↔ Continues values passing older next := by
  have nonempty : older ++ [next] ≠ [] := by simp
  rcases Nat.eq_zero_or_pos (thresholdOf values passing).toNat with zero | positive
  · refine iff_of_false ?_ fun continues => ?_
    · intro after
      have silent := (ofPhases_zero zero isPassing (older ++ [next])).verdicts
      rw [after.2, if_pos ⟨nonempty, by omega⟩] at silent
      cases silent
    · exact absurd continues.1 (by omega)
  · unfold Exact Continues
    rw [ofPhases_append, totalOf_append]
    simp only [positive, true_and, nonempty, ne_eq, not_false_eq_true]
    have atMost := lastOf_le_totalOf older
    rcases ofPhases_cases positive isPassing older with ⟨pending, inside⟩ | ⟨time, late, soon, reached⟩
    · have below := exact.below positive pending
      rw [pending.next, phase_frozen inside]
      by_cases reaches : (thresholdOf values passing).toNat ≤ totalOf older + next.duration
      · rw [if_pos reaches]
        by_cases beyond : (thresholdOf values passing).toNat - lastOf older ≤ next.duration
        · rw [if_pos beyond]
          simp only [List.cons.injEq, Prod.mk.injEq, and_true, true_and]
          constructor
          · intro onTime _ _
            omega
          · intro continues
            have := continues below reaches
            omega
        · rw [if_neg beyond]
          refine iff_of_false (fun silent => by cases silent.2) fun continues => ?_
          have := continues below reaches
          omega
      · rw [if_neg reaches, if_neg (by omega)]
        exact iff_of_true ⟨rfl, rfl⟩ fun _ now => absurd now reaches
    · have onTime : time = (thresholdOf values passing).toNat := by
        have same := exact.2
        rw [reached] at same
        split_ifs at same
        exact congrArg Prod.fst (List.cons.inj same).1
      rw [reached, phase_reached, if_pos (by omega), onTime]
      exact iff_of_true ⟨rfl, rfl⟩ fun below => absurd below (by omega)

theorem exact_nil (isPassing : Bool) : Exact values passing isPassing [] := ⟨rfl, rfl⟩

end TimerRun

end AdaptiveAutosar.Diag
