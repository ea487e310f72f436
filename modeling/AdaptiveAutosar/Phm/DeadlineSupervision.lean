import AdaptiveAutosar.Foundations.Cursor
import AdaptiveAutosar.Foundations.Transition
import AdaptiveAutosar.Phm.ElementarySupervision

/-! # Deadline supervision

`ara::phm::supervisors::DeadlineSupervision`, with the time as an input. The deadlines are in milliseconds
and the clock is in nanoseconds. The worker is at its wait as soon as it is started, and wakes only when it is
notified or at the maximum deadline.
-/

namespace AdaptiveAutosar.Phm
open Foundations
set_option autoImplicit false

/-- The worker at its wait, with the time at which that began, or behind its end. -/
inductive DeadlineWorker where
  | waiting (start : ℕ)
  | finished
  deriving DecidableEq, Repr

/-- `thread` is `mDeadlineThread`, while it is joinable. -/
structure DeadlineSupervision where
  elementary : ElementarySupervision
  minDeadline : ℤ
  maxDeadline : ℤ
  thread : Option DeadlineWorker
  targetIsReached : Bool
  timeReference : ℕ
  now : ℕ
  deriving DecidableEq, Repr

inductive DeadlineEvent where
  | source
  | target
  | elapse (nanoseconds : ℕ)
  deriving DecidableEq, Repr

namespace DeadlineSupervision

/-- The constructor leaves `mTargetIsReached` as it finds it. -/
def make (minDeadline maxDeadline : ℤ) (targetIsReached : Bool) : Outcome DeadlineSupervision :=
  if ¬ minDeadline < maxDeadline then
    .error (.thrown (.invalidArgument "Maximum deadline should be greater than the minimum deadline."))
  else if ¬ 0 < maxDeadline then
    .error (.thrown (.invalidArgument "Maximum deadline should be greater than zero."))
  else .ok ⟨.make .deadlineSupervision, minDeadline, maxDeadline, none, targetIsReached, 0, 0⟩

/-- The nanoseconds of the maximum deadline. -/
def patience (supervision : DeadlineSupervision) : ℕ := supervision.maxDeadline.toNat * 1000000

/-- What `deadlineWorker` reports behind its wait. -/
def verdict (supervision : DeadlineSupervision) (timeout : Bool) : SupervisionStatus :=
  if timeout = true ∨ supervision.targetIsReached = false then .expired
  else
    let timeDelta := (supervision.now - supervision.timeReference) / 1000000
    if timeDelta < supervision.minDeadline then .expired else .ok

/-- `deadlineWorker` behind its wait, with what it reports. -/
def deadlineWorker (supervision : DeadlineSupervision) (timeout : Bool) :
    DeadlineSupervision × Option SupervisionStatus :=
  let status := supervision.verdict timeout
  ({ supervision with elementary := (supervision.elementary.report status).1, thread := some .finished },
    some status)

/-- `notify_one`. -/
def notifyOne (supervision : DeadlineSupervision) : DeadlineSupervision × Option SupervisionStatus :=
  match supervision.thread with
  | some (.waiting _) => supervision.deadlineWorker false
  | _ => (supervision, none)

def reportSourceCheckpoint (supervision : DeadlineSupervision) :
    DeadlineSupervision × Option SupervisionStatus :=
  let referred := { supervision with timeReference := supervision.now, targetIsReached := false }
  -- the thread stays joinable behind the end of its worker
  if referred.thread.isSome then referred.notifyOne
  else ({ referred with thread := some (.waiting referred.now) }, none)

def reportTargetCheckpoint (supervision : DeadlineSupervision) :
    DeadlineSupervision × Option SupervisionStatus :=
  { supervision with targetIsReached := true }.notifyOne

/-- Time passes. -/
def elapse (supervision : DeadlineSupervision) (nanoseconds : ℕ) :
    DeadlineSupervision × Option SupervisionStatus :=
  match supervision.thread with
  | some (.waiting start) =>
    if start + supervision.patience ≤ supervision.now + nanoseconds then
      let (expired, status) :=
        { supervision with now := start + supervision.patience }.deadlineWorker true
      ({ expired with now := supervision.now + nanoseconds }, status)
    else ({ supervision with now := supervision.now + nanoseconds }, none)
  | _ => ({ supervision with now := supervision.now + nanoseconds }, none)

def step (supervision : DeadlineSupervision) :
    DeadlineEvent → Except Unit (Option SupervisionStatus × DeadlineSupervision)
  | .source => .ok (supervision.reportSourceCheckpoint.2, supervision.reportSourceCheckpoint.1)
  | .target => .ok (supervision.reportTargetCheckpoint.2, supervision.reportTargetCheckpoint.1)
  | .elapse nanoseconds => .ok ((supervision.elapse nanoseconds).2, (supervision.elapse nanoseconds).1)

/-- How long the round that is running has lasted. -/
def round (supervision : DeadlineSupervision) : Option ℕ :=
  match supervision.thread with
  | some (.waiting start) => some (supervision.now - start)
  | _ => none

/-! ## How rounds should be judged -/

/-- The round that should run after an event, with the verdict that should be reported: a source starts a
round; it ends with the target, with another source or at the maximum deadline. -/
def judged (minDeadline maxDeadline : ℤ) (round : Option ℕ) (event : DeadlineEvent) :
    Option ℕ × Option SupervisionStatus :=
  match round, event with
  | none, .source => (some 0, none)
  | none, .target => (none, none)
  | none, .elapse _ => (none, none)
  | some _, .source => (none, some .expired)
  | some waited, .target => (none, some (if minDeadline * 1000000 ≤ waited then .ok else .expired))
  | some waited, .elapse nanoseconds =>
    if maxDeadline * 1000000 ≤ waited + nanoseconds then (none, some .expired)
    else (some (waited + nanoseconds), none)

/-- The round and the verdicts, the newest first, that the events of a run should have led to. -/
def supervised (minDeadline maxDeadline : ℤ) :
    List (Taken DeadlineSupervision DeadlineEvent (Option SupervisionStatus)) →
      Option ℕ × List (Option SupervisionStatus)
  | [] => (none, [])
  | taken :: older =>
    let (round, verdicts) := supervised minDeadline maxDeadline older
    let (round', verdict) := judged minDeadline maxDeadline round taken.input
    (round', verdict :: verdicts)

/-- The round that runs and all verdicts are those that should be. -/
def Supervises (minDeadline maxDeadline : ℤ)
    (trace : List (Taken DeadlineSupervision DeadlineEvent (Option SupervisionStatus)))
    (supervision : DeadlineSupervision) : Prop :=
  (supervision.round, trace.map Taken.output) = supervised minDeadline maxDeadline trace

/-- A source that arrives while no round is running is the first one of all. -/
def OneRound (supervision : DeadlineSupervision) (event : DeadlineEvent) : Prop :=
  event = .source → supervision.thread ≠ some .finished

instance (supervision : DeadlineSupervision) (event : DeadlineEvent) : Decidable (supervision.OneRound event) :=
  @instDecidableForall _ _ (instDecidableEqDeadlineEvent _ _) instDecidableNot

/-! ## What holds before every step -/

/-- While a round is running, no target was reached in it and the maximum deadline has not passed. -/
structure Sound (minDeadline maxDeadline : ℤ) (supervision : DeadlineSupervision) : Prop where
  min : supervision.minDeadline = minDeadline
  max : supervision.maxDeadline = maxDeadline
  positive : 0 < maxDeadline
  running : ∀ start, supervision.thread = some (.waiting start) → supervision.targetIsReached = false ∧
    supervision.timeReference = start ∧ start ≤ supervision.now ∧
    supervision.now < start + supervision.patience

variable {minDeadline maxDeadline : ℤ} {supervision : DeadlineSupervision}

theorem make_sound {targetIsReached : Bool}
    (made : make minDeadline maxDeadline targetIsReached = .ok supervision) :
    Sound minDeadline maxDeadline supervision ∧ supervision.thread = none := by
  unfold make at made
  split_ifs at made with ordered positive
  cases made
  exact ⟨⟨rfl, rfl, positive, fun _ waits => by cases waits⟩, rfl⟩

/-- Behind the end of the worker nothing is reported any more, and no worker is started. -/
theorem Sound.finished (sound : Sound minDeadline maxDeadline supervision)
    (ended : supervision.thread = some .finished) (event : DeadlineEvent) :
    ∃ supervision', supervision.step event = .ok (none, supervision') ∧
      Sound minDeadline maxDeadline supervision' ∧ supervision'.thread = some .finished := by
  obtain ⟨elementary, min, max, thread, targetIsReached, timeReference, now⟩ := supervision
  cases ended
  obtain ⟨rfl, rfl, positive, running⟩ := sound
  cases event with
  | source => exact ⟨_, rfl, ⟨rfl, rfl, positive, fun _ waits => by cases waits⟩, rfl⟩
  | target => exact ⟨_, rfl, ⟨rfl, rfl, positive, fun _ waits => by cases waits⟩, rfl⟩
  | elapse nanoseconds => exact ⟨_, rfl, ⟨rfl, rfl, positive, fun _ waits => by cases waits⟩, rfl⟩

/-- Before the worker is started, a source starts a round and nothing else does anything. -/
theorem Sound.unstarted (sound : Sound minDeadline maxDeadline supervision)
    (unstarted : supervision.thread = none) (event : DeadlineEvent) :
    ∃ output supervision', supervision.step event = .ok (output, supervision') ∧
      Sound minDeadline maxDeadline supervision' ∧
      (supervision'.round, output) = judged minDeadline maxDeadline none event := by
  obtain ⟨elementary, min, max, thread, targetIsReached, timeReference, now⟩ := supervision
  cases unstarted
  obtain ⟨rfl, rfl, positive, running⟩ := sound
  cases event with
  | source =>
    refine ⟨_, _, rfl, ⟨rfl, rfl, positive, ?_⟩, ?_⟩
    · intro start waits
      cases waits
      refine ⟨rfl, rfl, Nat.le_refl _, ?_⟩
      show now < now + max.toNat * 1000000
      dsimp only at positive
      omega
    · simp [round, reportSourceCheckpoint, judged]
  | target => exact ⟨_, _, rfl, ⟨rfl, rfl, positive, fun _ waits => by cases waits⟩, rfl⟩
  | elapse nanoseconds => exact ⟨_, _, rfl, ⟨rfl, rfl, positive, fun _ waits => by cases waits⟩, rfl⟩

theorem elapse_waiting {start : ℕ} (waits : supervision.thread = some (.waiting start))
    (unreached : supervision.targetIsReached = false) (nanoseconds : ℕ) :
    supervision.elapse nanoseconds =
      if start + supervision.patience ≤ supervision.now + nanoseconds then
        ({ supervision with
            elementary := (supervision.elementary.report .expired).1
            thread := some .finished
            now := supervision.now + nanoseconds }, some .expired)
      else ({ supervision with now := supervision.now + nanoseconds }, none) := by
  obtain ⟨elementary, min, max, thread, targetIsReached, timeReference, now⟩ := supervision
  cases waits
  cases unreached
  unfold elapse
  dsimp only
  split_ifs
  · simp [deadlineWorker, verdict]
  · rfl

/-- A round ends with the target, with another source or at the maximum deadline, as it should. -/
theorem Sound.waiting (sound : Sound minDeadline maxDeadline supervision) {start : ℕ}
    (waits : supervision.thread = some (.waiting start)) (event : DeadlineEvent) :
    ∃ output supervision', supervision.step event = .ok (output, supervision') ∧
      Sound minDeadline maxDeadline supervision' ∧
      (supervision'.round, output) = judged minDeadline maxDeadline supervision.round event := by
  obtain ⟨elementary, min, max, thread, targetIsReached, timeReference, now⟩ := supervision
  cases waits
  obtain ⟨rfl, rfl, positive, running⟩ := sound
  obtain ⟨unreached, same, begun, early⟩ := running start rfl
  dsimp only at unreached same begun
  subst unreached same
  replace early : now < timeReference + max.toNat * 1000000 := early
  dsimp only at positive
  cases event with
  | source => exact ⟨_, _, rfl, ⟨rfl, rfl, positive, fun _ waits => by cases waits⟩, rfl⟩
  | target =>
    refine ⟨_, _, rfl, ⟨rfl, rfl, positive, fun _ waits => by cases waits⟩, ?_⟩
    have late_enough : ((((now - timeReference) / 1000000 : ℕ) : ℤ) < min) ↔
        ¬ min * 1000000 ≤ ((now - timeReference : ℕ) : ℤ) := by
      omega
    simp only [reportTargetCheckpoint, notifyOne, deadlineWorker, verdict, round, judged, late_enough]
    by_cases inside : min * 1000000 ≤ ((now - timeReference : ℕ) : ℤ)
    · simp [inside]
    · simp [inside]
  | elapse nanoseconds =>
    have beyond : (max * 1000000 ≤ ((now - timeReference : ℕ) : ℤ) + (nanoseconds : ℤ)) ↔
        timeReference + max.toNat * 1000000 ≤ now + nanoseconds := by
      omega
    have elapses := @elapse_waiting ⟨elementary, min, max, some (.waiting timeReference), false, timeReference, now⟩
      timeReference rfl rfl nanoseconds
    unfold patience at elapses
    by_cases passes : timeReference + max.toNat * 1000000 ≤ now + nanoseconds
    · rw [if_pos passes] at elapses
      refine ⟨_, _, rfl, ?_, ?_⟩
      · rw [elapses]
        exact ⟨rfl, rfl, positive, fun _ waits => by cases waits⟩
      · rw [elapses]
        simp [round, judged, beyond, passes]
    · rw [if_neg passes] at elapses
      refine ⟨_, _, rfl, ?_, ?_⟩
      · rw [elapses]
        refine ⟨rfl, rfl, positive, fun start waits => ?_⟩
        cases waits
        exact ⟨rfl, rfl, by dsimp only; omega, Nat.lt_of_not_le passes⟩
      · rw [elapses]
        simp only [round, judged, beyond, if_neg passes]
        rw [Nat.sub_add_comm begun]

/-- What every step does: an allowed one does what it should; any other leaves a round out, for good. -/
theorem Sound.stepped (sound : Sound minDeadline maxDeadline supervision) (event : DeadlineEvent) :
    ∃ output supervision', supervision.step event = .ok (output, supervision') ∧
      Sound minDeadline maxDeadline supervision' ∧
      (supervision.OneRound event → (supervision'.round, output) =
        judged minDeadline maxDeadline supervision.round event) ∧
      (supervision.thread = some .finished → output = none ∧ supervision'.thread = some .finished) := by
  rcases at_work : supervision.thread with _ | start | _
  · obtain ⟨output, supervision', taken, kept, judges⟩ := sound.unstarted at_work event
    refine ⟨output, supervision', taken, kept, fun _ => ?_, fun ended => by cases ended⟩
    unfold round at judges ⊢
    rw [at_work]
    exact judges
  · obtain ⟨output, supervision', taken, kept, judges⟩ := sound.waiting at_work event
    exact ⟨output, supervision', taken, kept, fun _ => judges, fun ended => by cases ended⟩
  · obtain ⟨supervision', taken, kept, ended⟩ := sound.finished at_work event
    refine ⟨none, supervision', taken, kept, fun first => ?_, fun _ => ⟨rfl, ended⟩⟩
    unfold round
    rw [at_work, ended]
    cases event with
    | source => exact absurd at_work (first rfl)
    | target => rfl
    | elapse nanoseconds => rfl

/-! ## Whole runs -/

theorem judged_running (minDeadline maxDeadline : ℤ) (waited : ℕ) (event : DeadlineEvent) :
    (judged minDeadline maxDeadline (some waited) event).1 ≠ none ∨
      (judged minDeadline maxDeadline (some waited) event).2 ≠ none := by
  cases event with
  | source => exact .inr fun none_given => by cases none_given
  | target => exact .inr fun none_given => by cases none_given
  | elapse nanoseconds =>
    unfold judged
    dsimp only
    split_ifs
    · exact .inr fun none_given => by cases none_given
    · exact .inl fun none_given => by cases none_given

/-- The worker has ended, and a verdict is missing or will be. -/
def LeftOut (minDeadline maxDeadline : ℤ)
    (trace : List (Taken DeadlineSupervision DeadlineEvent (Option SupervisionStatus)))
    (supervision : DeadlineSupervision) : Prop :=
  supervision.thread = some .finished ∧ (trace.map Taken.output ≠ (supervised minDeadline maxDeadline trace).2 ∨
    (supervised minDeadline maxDeadline trace).1 ≠ none)

variable {trace : List (Taken DeadlineSupervision DeadlineEvent (Option SupervisionStatus))}
  {supervision' : DeadlineSupervision} {output : Option SupervisionStatus}

theorem LeftOut.not_supervises (missing : LeftOut minDeadline maxDeadline trace supervision) :
    ¬ Supervises minDeadline maxDeadline trace supervision := by
  obtain ⟨ended, wrong⟩ := missing
  intro supervises
  unfold Supervises at supervises
  rcases wrong with verdicts | rounds
  · exact verdicts (congrArg Prod.snd supervises)
  · apply rounds
    rw [← supervises]
    unfold round
    rw [ended]

theorem LeftOut.kept (missing : LeftOut minDeadline maxDeadline trace supervision) (event : DeadlineEvent)
    (ended : supervision'.thread = some .finished) :
    LeftOut minDeadline maxDeadline (⟨supervision, event, none⟩ :: trace) supervision' := by
  refine ⟨ended, ?_⟩
  unfold supervised
  dsimp only
  rw [List.map_cons]
  rcases missing.2 with verdicts | rounds
  · exact .inl fun same => verdicts (List.cons.inj same).2
  · obtain ⟨waited, runs⟩ := Option.ne_none_iff_exists'.mp rounds
    rw [runs]
    rcases judged_running minDeadline maxDeadline waited event with goes_on | ends
    · exact .inr goes_on
    · exact .inl fun same => ends (List.cons.inj same).1.symm

theorem Supervises.kept (supervises : Supervises minDeadline maxDeadline trace supervision) {event : DeadlineEvent}
    (judges : (supervision'.round, output) = judged minDeadline maxDeadline supervision.round event) :
    Supervises minDeadline maxDeadline (⟨supervision, event, output⟩ :: trace) supervision' := by
  unfold Supervises at supervises ⊢
  unfold supervised
  rw [← supervises]
  dsimp only
  rw [← judges]
  rfl

/-- The first source that finds the worker ended starts no round. -/
theorem Supervises.leftOut (supervises : Supervises minDeadline maxDeadline trace supervision)
    (ended : supervision.thread = some .finished) (ended' : supervision'.thread = some .finished) :
    LeftOut minDeadline maxDeadline (⟨supervision, .source, output⟩ :: trace) supervision' := by
  refine ⟨ended', .inr ?_⟩
  have idle : supervision.round = none := by
    unfold round
    rw [ended]
  unfold Supervises at supervises
  unfold supervised
  dsimp only
  rw [← supervises, idle]
  exact fun none_given => by cases none_given

theorem Sound.history {init : DeadlineSupervision} (sound : Sound minDeadline maxDeadline init)
    (unstarted : init.thread = none) (run : Run step init trace supervision) :
    Sound minDeadline maxDeadline supervision ∧
      (Run.Every OneRound trace → Supervises minDeadline maxDeadline trace supervision) ∧
      (¬ Run.Every OneRound trace → LeftOut minDeadline maxDeadline trace supervision) := by
  induction run with
  | start =>
    refine ⟨sound, fun _ => ?_, fun other => absurd (Run.every_nil _) other⟩
    unfold Supervises round
    rw [unstarted]
    rfl
  | @next trace before after event output _ taken ih =>
    obtain ⟨before_sound, supervises, missing⟩ := ih
    obtain ⟨output', after', taken', kept, judges, silent⟩ := before_sound.stepped event
    cases taken.symm.trans taken'
    refine ⟨kept, ?_, ?_⟩
    · intro every
      obtain ⟨first, earlier⟩ := Run.every_cons.mp every
      exact (supervises earlier).kept (judges first)
    · intro other
      by_cases earlier : Run.Every OneRound trace
      · -- this source is the first one that finds the worker ended
        have late : ¬ before.OneRound event := fun first => other (Run.every_cons.mpr ⟨first, earlier⟩)
        unfold OneRound at late
        push Not at late
        obtain ⟨rfl, ended⟩ := late
        exact (supervises earlier).leftOut ended (silent ended).2
      · have already := missing earlier
        obtain ⟨rfl, ended'⟩ := silent already.1
        exact already.kept event ended'

/-- For every run of reports and times: the rounds and their verdicts are those that should be exactly when no
source arrives behind the end of the first round. -/
theorem supervises_iff {init : DeadlineSupervision} {targetIsReached : Bool}
    (made : make minDeadline maxDeadline targetIsReached = .ok init) (run : Run step init trace supervision) :
    Supervises minDeadline maxDeadline trace supervision ↔ Run.Every OneRound trace := by
  obtain ⟨sound, unstarted⟩ := make_sound made
  obtain ⟨-, supervises, missing⟩ := sound.history unstarted run
  constructor
  · intro right
    by_contra other
    exact (missing other).not_supervises right
  · exact supervises

/-- A target arrives 3 ms behind the source. -/
theorem supervises_sample : ∃ init trace supervision,
    make 2 5 true = .ok init ∧
      Run.play step [] init [.target, .elapse 7, .source, .elapse 3000000, .target, .elapse 9000000, .target] =
        .ok (trace, supervision) ∧
      Supervises 2 5 trace supervision ∧ supervision.elementary.status = .ok := by
  obtain ⟨init, trace, supervision, made, played, every, status⟩ : ∃ init trace supervision,
      make 2 5 true = .ok init ∧
        Run.play step [] init [.target, .elapse 7, .source, .elapse 3000000, .target, .elapse 9000000, .target] =
          .ok (trace, supervision) ∧
        Run.Every OneRound trace ∧ supervision.elementary.status = .ok :=
    ⟨_, _, _, rfl, rfl, by decide, by decide⟩
  exact ⟨init, trace, supervision, made, played, (supervises_iff made (Run.of_play .start played)).mpr every, status⟩

/-- The round of a second source, behind a first round that was right, runs to no verdict. -/
theorem not_always_supervises : ∃ init trace supervision,
    make 2 5 false = .ok init ∧
      Run.play step [] init [.source, .elapse 3000000, .target, .source, .elapse 9000000] =
        .ok (trace, supervision) ∧
      trace.map Taken.output = [none, none, some .ok, none, none] ∧
      (supervised 2 5 trace).2 = [some .expired, none, some .ok, none, none] ∧
      ¬ Supervises 2 5 trace supervision := by
  refine ⟨_, _, _, rfl, rfl, by decide, by decide, fun right => ?_⟩
  have verdicts := congrArg Prod.snd right
  revert verdicts
  decide

end DeadlineSupervision
end AdaptiveAutosar.Phm
