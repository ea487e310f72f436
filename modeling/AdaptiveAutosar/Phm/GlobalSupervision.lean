import Mathlib.Data.List.MinMax
import Mathlib.Logic.Function.Basic
import Mathlib.Order.Bounds.Defs
import AdaptiveAutosar.Foundations.Cursor
import AdaptiveAutosar.Foundations.Transition
import AdaptiveAutosar.Phm.ElementarySupervision

/-! # Global supervision

`ara::phm::supervisors::GlobalSupervision` with the elementary supervisions that it points to. Its own
callback is set.
-/

namespace AdaptiveAutosar.Phm
open Foundations
set_option autoImplicit false

structure SupervisionUpdate where
  status : SupervisionStatus
  type : TypeOfSupervision
  deriving DecidableEq, Repr

/-- `supervisors` point into all elementary supervisions; theirs are the callbacks that are set. -/
structure GlobalSupervision where
  elementary : ℕ → ElementarySupervision
  supervisors : List ℕ
  status : SupervisionStatus

structure StatusReport where
  supervisor : ℕ
  status : SupervisionStatus
  deriving DecidableEq, Repr

/-- What the elementary supervision says of the global status. -/
def ElementarySupervision.update (supervision : ElementarySupervision) : SupervisionUpdate :=
  ⟨supervision.status, supervision.supervisionType⟩

namespace GlobalSupervision

/-- The loop body of `getGlobalUpdate`. -/
def dominate (result : SupervisionUpdate) (supervision : ElementarySupervision) : SupervisionUpdate :=
  if result.status < supervision.status then supervision.update else result

/-- `mSupervisors[0]` is not checked. -/
def getGlobalUpdate : List ElementarySupervision → Outcome SupervisionUpdate
  | [] => .error .undefined
  | first :: rest => .ok (rest.foldl dominate first.update)

/-- The elementary supervisions that `mSupervisors` points to. -/
def supervised (supervision : GlobalSupervision) : List ElementarySupervision :=
  supervision.supervisors.map supervision.elementary

/-- The constructor. -/
def make (elementary : ℕ → ElementarySupervision) (supervisors : List ℕ) : Outcome GlobalSupervision :=
  if 0 < supervisors.length then do
    let update ← getGlobalUpdate (supervisors.map elementary)
    .ok ⟨elementary, supervisors, update.status⟩
  else .ok ⟨elementary, supervisors, .deactivated⟩

/-- With what it calls the callback with. -/
def onElementaryStatusChanged (supervision : GlobalSupervision) :
    Outcome (Option SupervisionUpdate × GlobalSupervision) := do
  let update ← getGlobalUpdate supervision.supervised
  if update.status ≠ supervision.status then .ok (some update, { supervision with status := update.status })
  else .ok (none, supervision)

/-- An elementary supervision behind its report. -/
def reporting (supervision : GlobalSupervision) (report : StatusReport) : GlobalSupervision :=
  { supervision with
    elementary := Function.update supervision.elementary report.supervisor
      ((supervision.elementary report.supervisor).report report.status).1 }

/-- An elementary supervision reports its status, and calls the callback that is set for it. -/
def step (supervision : GlobalSupervision) (report : StatusReport) :
    Outcome (Option SupervisionUpdate × GlobalSupervision) :=
  let changed := ((supervision.elementary report.supervisor).report report.status).2
  if changed.isSome ∧ report.supervisor ∈ supervision.supervisors then
    (supervision.reporting report).onElementaryStatusChanged
  else .ok (none, supervision.reporting report)

/-! ## The maximum -/

/-- The first elementary supervision whose status is the greatest. -/
def dominant? (supervision : GlobalSupervision) : Option ElementarySupervision :=
  supervision.supervised.argmax ElementarySupervision.status

/-- The loop keeps the update of the first greatest status so far. -/
theorem foldl_dominate (rest : List ElementarySupervision) (first : ElementarySupervision) :
    ∃ dominant, (first :: rest).argmax ElementarySupervision.status = some dominant ∧
      rest.foldl dominate first.update = dominant.update := by
  induction rest using List.reverseRecOn with
  | nil => exact ⟨first, rfl, rfl⟩
  | append_singleton rest next ih =>
    obtain ⟨dominant, isDominant, folded⟩ := ih
    rw [← List.cons_append, List.argmax_concat, isDominant, List.foldl_append, folded]
    by_cases greater : dominant.status < next.status
    · refine ⟨next, if_pos greater, ?_⟩
      simp only [List.foldl_cons, List.foldl_nil, dominate]
      exact if_pos greater
    · refine ⟨dominant, if_neg greater, ?_⟩
      simp only [List.foldl_cons, List.foldl_nil, dominate]
      exact if_neg greater

theorem getGlobalUpdate_eq (supervisions : List ElementarySupervision) (some_there : supervisions ≠ []) :
    ∃ dominant, supervisions.argmax ElementarySupervision.status = some dominant ∧
      getGlobalUpdate supervisions = .ok dominant.update := by
  cases supervisions with
  | nil => exact absurd rfl some_there
  | cons first rest =>
    obtain ⟨dominant, isDominant, folded⟩ := foldl_dominate rest first
    exact ⟨dominant, isDominant, congrArg Except.ok folded⟩

/-! ## What the global supervision should do -/

def statuses (supervision : GlobalSupervision) : Set SupervisionStatus :=
  {status | ∃ supervisor ∈ supervision.supervisors, (supervision.elementary supervisor).status = status}

/-- The callback is called when the global status changes, with the new one and the type of the first
elementary supervision that has it; an expired status stays until it is deactivated. -/
structure Follows (before : GlobalSupervision) (report : StatusReport) (output : Option SupervisionUpdate)
    (after : GlobalSupervision) : Prop where
  calls : after.status ≠ before.status →
    ∃ dominant, after.dominant? = some dominant ∧ output = some ⟨after.status, dominant.supervisionType⟩
  silent : after.status = before.status → output = none
  sticky : ∀ supervisor, (before.elementary supervisor).status = .expired → report ≠ ⟨supervisor, .deactivated⟩ →
    (after.elementary supervisor).status = .expired

def FollowingStep (taken : Taken GlobalSupervision StatusReport (Option SupervisionUpdate)) : Prop :=
  ∀ after, taken.before.step taken.input = .ok (taken.output, after) →
    taken.before.Follows taken.input taken.output after

/-! ## What holds before every step -/

/-- The global status is that of the first greatest elementary one. -/
def Sound (supervision : GlobalSupervision) : Prop :=
  supervision.dominant?.map ElementarySupervision.status = some supervision.status

variable {supervision supervision' : GlobalSupervision}

theorem Sound.isGreatest (sound : supervision.Sound) : IsGreatest supervision.statuses supervision.status := by
  obtain ⟨dominant, isDominant, status⟩ := Option.map_eq_some_iff.mp sound
  rw [← status]
  constructor
  · obtain ⟨supervisor, there, isSupervisor⟩ := List.mem_map.mp (List.argmax_mem isDominant)
    exact ⟨supervisor, there, congrArg ElementarySupervision.status isSupervisor⟩
  · intro other there
    obtain ⟨supervisor, owned, isStatus⟩ := there
    rw [← isStatus]
    exact List.le_of_mem_argmax (List.mem_map_of_mem owned) isDominant

theorem make_sound {elementary : ℕ → ElementarySupervision} {supervisors : List ℕ} (some_there : supervisors ≠ [])
    (made : make elementary supervisors = .ok supervision) : supervision.Sound := by
  obtain ⟨dominant, isDominant, update⟩ := getGlobalUpdate_eq (supervisors.map elementary)
    (by simpa using some_there)
  unfold make at made
  rw [if_pos (List.length_pos_iff.mpr some_there), update] at made
  cases made
  unfold Sound dominant? supervised
  rw [isDominant]
  rfl

/-- The callback of an elementary supervision brings the global status to the maximum. -/
theorem onElementaryStatusChanged_eq (supervision : GlobalSupervision)
    (some_there : supervision.supervisors ≠ []) :
    ∃ dominant, supervision.dominant? = some dominant ∧ supervision.onElementaryStatusChanged =
      .ok (if dominant.status ≠ supervision.status then some dominant.update else none,
        { supervision with status := dominant.status }) := by
  obtain ⟨dominant, isDominant, update⟩ := getGlobalUpdate_eq supervision.supervised
    (by unfold supervised; simpa using some_there)
  refine ⟨dominant, isDominant, ?_⟩
  unfold onElementaryStatusChanged
  rw [update]
  dsimp only [bind, Except.bind, ElementarySupervision.update]
  by_cases same : dominant.status = supervision.status
  · rw [if_neg (not_not.mpr same), if_neg (not_not.mpr same), same]
  · rw [if_pos same, if_pos same]

/-- Without a call of the global supervision the elementary ones that it owns are what they were. -/
theorem reporting_supervised {report : StatusReport}
    (uncalled : ¬ (((supervision.elementary report.supervisor).report report.status).2.isSome ∧
      report.supervisor ∈ supervision.supervisors)) :
    (supervision.reporting report).supervised = supervision.supervised := by
  unfold supervised reporting
  apply List.map_congr_left
  intro supervisor owned
  dsimp only
  by_cases here : supervisor = report.supervisor
  · rw [← here] at uncalled ⊢
    rw [Function.update_self]
    rw [ElementarySupervision.report_eq] at uncalled ⊢
    have same : ElementarySupervision.reported (supervision.elementary supervisor).status report.status =
        (supervision.elementary supervisor).status := by
      by_contra differs
      exact uncalled ⟨by simp [differs], owned⟩
    rw [same]
  · exact Function.update_of_ne here _ _

/-- Only a report of `kDeactivated` takes an expired supervision out of that status. -/
theorem reporting_expired {report : StatusReport} {supervisor : ℕ}
    (expired : (supervision.elementary supervisor).status = .expired)
    (active : report ≠ ⟨supervisor, .deactivated⟩) :
    ((supervision.reporting report).elementary supervisor).status = .expired := by
  unfold reporting
  dsimp only
  by_cases here : supervisor = report.supervisor
  · have no_reset : report.status ≠ .deactivated := by
      intro reset
      apply active
      rw [here, ← reset]
    rw [here, Function.update_self, ElementarySupervision.report_eq]
    exact if_pos ⟨here ▸ expired, no_reset⟩
  · rw [Function.update_of_ne here]
    exact expired

theorem Sound.stepped (sound : supervision.Sound) (report : StatusReport) :
    ∃ output supervision', supervision.step report = .ok (output, supervision') ∧ supervision'.Sound ∧
      supervision.Follows report output supervision' := by
  have owned_any : supervision.supervisors ≠ [] := by
    intro none_there
    unfold Sound dominant? supervised at sound
    rw [none_there] at sound
    cases sound
  unfold step
  dsimp only
  by_cases called : ((supervision.elementary report.supervisor).report report.status).2.isSome ∧
      report.supervisor ∈ supervision.supervisors
  · obtain ⟨dominant, isDominant, changed⟩ := onElementaryStatusChanged_eq (supervision.reporting report) owned_any
    rw [if_pos called, changed]
    refine ⟨_, _, rfl, congrArg (Option.map ElementarySupervision.status) isDominant, ?_, ?_, ?_⟩
    · intro differs
      exact ⟨dominant, isDominant, if_pos differs⟩
    · intro same
      exact if_neg (not_not.mpr same)
    · intro supervisor expired active
      exact reporting_expired expired active
  · have same := reporting_supervised called
    rw [if_neg called]
    refine ⟨_, _, rfl, ?_, fun differs => absurd rfl differs, fun _ => rfl, ?_⟩
    · unfold Sound dominant? at sound ⊢
      rw [same]
      exact sound
    · intro supervisor expired active
      exact reporting_expired expired active

/-- For any elementary supervisions, one at least, with any statuses, and every run of their reports: the
global status is the maximum of theirs, every step follows them, and every report is taken. -/
theorem global_isGreatest {elementary : ℕ → ElementarySupervision} {supervisors : List ℕ}
    (some_there : supervisors ≠ []) {init : GlobalSupervision} (made : make elementary supervisors = .ok init)
    {trace : List (Taken GlobalSupervision StatusReport (Option SupervisionUpdate))} {last : GlobalSupervision}
    (run : Run step init trace last) :
    IsGreatest last.statuses last.status ∧ (∀ taken ∈ trace, FollowingStep taken) ∧
      ∀ report, ∃ result, last.step report = .ok result := by
  have history : last.Sound ∧ ∀ taken ∈ trace, FollowingStep taken := by
    apply Run.reached_all (make_sound some_there made) ?_ run
    intro supervision report output supervision' sound taken
    obtain ⟨output', after, taken', kept, follows⟩ := sound.stepped report
    cases taken.symm.trans taken'
    exact ⟨kept, (Run.forall_after_iff taken).mpr follows⟩
  obtain ⟨sound, follows⟩ := history
  refine ⟨sound.isGreatest, follows, fun report => ?_⟩
  obtain ⟨output, after, taken, -⟩ := sound.stepped report
  exact ⟨_, taken⟩

/-- An alive and a deadline supervision, of which the second expires and is deactivated. -/
theorem global_isGreatest_sample : ∃ init trace last,
    make (fun supervisor => .make (if supervisor = 0 then .aliveSupervision else .deadlineSupervision)) [0, 1] =
        .ok init ∧
      Run.play step [] init [⟨0, .ok⟩, ⟨1, .failed⟩, ⟨0, .failed⟩, ⟨1, .expired⟩, ⟨1, .ok⟩, ⟨1, .deactivated⟩] =
        .ok (trace, last) ∧
      trace.map Taken.output = [some ⟨.failed, .aliveSupervision⟩, none, some ⟨.expired, .deadlineSupervision⟩,
        none, some ⟨.failed, .deadlineSupervision⟩, some ⟨.ok, .aliveSupervision⟩] ∧
      IsGreatest last.statuses .failed := by
  obtain ⟨init, trace, last, made, played, outputs, status⟩ : ∃ init trace last,
      make (fun supervisor => .make (if supervisor = 0 then .aliveSupervision else .deadlineSupervision)) [0, 1] =
          .ok init ∧
        Run.play step [] init [⟨0, .ok⟩, ⟨1, .failed⟩, ⟨0, .failed⟩, ⟨1, .expired⟩, ⟨1, .ok⟩, ⟨1, .deactivated⟩] =
          .ok (trace, last) ∧
        trace.map Taken.output = [some ⟨.failed, .aliveSupervision⟩, none, some ⟨.expired, .deadlineSupervision⟩,
          none, some ⟨.failed, .deadlineSupervision⟩, some ⟨.ok, .aliveSupervision⟩] ∧ last.status = .failed :=
    ⟨_, _, _, rfl, rfl, by decide, by decide⟩
  have greatest := (global_isGreatest (by decide) made (Run.of_play .start played)).1
  rw [status] at greatest
  exact ⟨init, trace, last, made, played, outputs, greatest⟩

end GlobalSupervision
end AdaptiveAutosar.Phm
