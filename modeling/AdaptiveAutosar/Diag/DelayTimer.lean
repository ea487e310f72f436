import AdaptiveAutosar.Diag.Lockout

/-! # The thread of the delay timer

`DelayTimer` step by step: `Start` checks the lock, assigns a new thread and spins until that thread has the
lock, the thread waits under it, and `Dispose` joins the thread. The thread stays joinable when its function
has returned. Time passes in seconds.
-/

namespace AdaptiveAutosar.Diag
open Foundations
set_option autoImplicit false

/-- `mThread`: none, or one whose function has begun, waits under the lock, or has returned. -/
inductive TimerThread where
  | none
  | begun (duration : ℤ)
  | waiting
  | returned
  deriving DecidableEq, Repr

/-- Where the owner of the timer is. -/
inductive TimerOwner where
  | outside
  | spinning
  | joining (destroys : Bool)
  | destroyed
  | terminated
  deriving DecidableEq, Repr

/-- `remaining` are the seconds of the delay that have not passed. -/
structure TimerMachine where
  thread : TimerThread
  owner : TimerOwner
  remaining : ℤ
  deriving DecidableEq, Repr

/-- `start` and `dispose` call `Start` and `Dispose`; `check` and `join` are the next steps in them; `lock` is
the first step of the thread and `wake` the end of its wait. The destructor calls `Dispose`. -/
inductive TimerInput where
  | start (delayDuration : ℤ)
  | check
  | lock
  | second
  | wake
  | dispose (destroys : Bool)
  | join
  deriving DecidableEq, Repr

namespace TimerMachine

def make : TimerMachine := ⟨.none, .outside, 0⟩

def isActive (machine : TimerMachine) : Bool := machine.thread = .waiting

def joinable (machine : TimerMachine) : Bool := machine.thread ≠ .none

def start (machine : TimerMachine) (delayDuration : ℤ) : TimerMachine :=
  if machine.isActive then machine
  else if machine.joinable then { machine with owner := .terminated }
  else { machine with thread := .begun delayDuration, owner := .spinning }

/-- Behind `Dispose` the owner is outside, or the timer is gone. -/
def leave (destroys : Bool) : TimerOwner := if destroys then .destroyed else .outside

/-- Who disposes of the timer gives up the rest of the delay. -/
def dispose (machine : TimerMachine) (destroys : Bool) : TimerMachine :=
  if machine.joinable then { machine with owner := .joining destroys, remaining := 0 }
  else { machine with owner := leave destroys }

def step (machine : TimerMachine) : TimerInput → Outcome (Unit × TimerMachine)
  | .start delayDuration =>
    match machine.owner with
    | .outside => .ok ((), machine.start delayDuration)
    | _ => .ok ((), machine)
  | .check =>
    match machine.owner with
    | .spinning => .ok ((), if machine.isActive then { machine with owner := .outside } else machine)
    | _ => .ok ((), machine)
  | .lock =>
    match machine.thread with
    | .begun duration => .ok ((), { machine with thread := .waiting, remaining := duration })
    | _ => .ok ((), machine)
  | .second => .ok ((), { machine with remaining := machine.remaining - 1 })
  | .wake =>
    match machine.thread with
    | .waiting => .ok ((), { machine with thread := .returned })
    | _ => .ok ((), machine)
  | .dispose destroys =>
    match machine.owner with
    | .outside => .ok ((), machine.dispose destroys)
    | _ => .ok ((), machine)
  | .join =>
    match machine.owner, machine.thread with
    | .joining destroys, .returned => .ok ((), { machine with thread := .none, owner := leave destroys })
    | _, _ => .ok ((), machine)

/-- No assignment has ended the process, the timer is active until its delay has passed, and who has destroyed
it has joined its thread. -/
structure Keeps (machine : TimerMachine) : Prop where
  running : machine.owner ≠ .terminated
  active : 0 < machine.remaining → machine.isActive = true
  joined : machine.owner = .destroyed → machine.joinable = false

/-- A `Start` finds the timer active or without a thread, and no wait ends before the delay has passed. -/
def Restartable (machine : TimerMachine) : TimerInput → Prop
  | .start _ => machine.owner = .outside → machine.isActive = true ∨ machine.joinable = false
  | .wake => machine.isActive = true → machine.remaining ≤ 0
  | .check | .lock | .second | .dispose _ | .join => True

instance (machine : TimerMachine) (input : TimerInput) : Decidable (machine.Restartable input) := by
  unfold Restartable
  split <;> infer_instance

variable {machine : TimerMachine}

theorem keeps_make : Keeps make where
  running := TimerOwner.noConfusion
  active := fun left => absurd left (lt_irrefl 0)
  joined := fun gone => by cases gone

/-! ## One step -/

/-- What a step does, with what it needs for that; another one is ignored. -/
inductive Stepped (machine : TimerMachine) : TimerInput → TimerMachine → Prop
  | started (delayDuration : ℤ) (outside : machine.owner = .outside) :
    Stepped machine (.start delayDuration) (machine.start delayDuration)
  | checked (active : machine.isActive = true) : Stepped machine .check { machine with owner := .outside }
  | locked (duration : ℤ) (begun : machine.thread = .begun duration) :
    Stepped machine .lock { machine with thread := .waiting, remaining := duration }
  | passed : Stepped machine .second { machine with remaining := machine.remaining - 1 }
  | woken (waiting : machine.thread = .waiting) : Stepped machine .wake { machine with thread := .returned }
  | disposed (destroys : Bool) (outside : machine.owner = .outside) :
    Stepped machine (.dispose destroys) (machine.dispose destroys)
  | joined (destroys : Bool) (returned : machine.thread = .returned) :
    Stepped machine .join { machine with thread := .none, owner := leave destroys }
  | ignored (input : TimerInput) (allowed : machine.Restartable input) : Stepped machine input machine

theorem stepped {input : TimerInput} {machine' : TimerMachine} (taken : machine.step input = .ok ((), machine')) :
    Stepped machine input machine' := by
  cases input with
  | start delayDuration =>
    cases owner : machine.owner with
    | outside =>
      simp only [step, owner] at taken
      cases taken
      exact .started delayDuration owner
    | spinning | joining _ | destroyed | terminated =>
      simp only [step, owner] at taken
      cases taken
      refine .ignored _ fun outside => ?_
      rw [owner] at outside
      cases outside
  | check =>
    cases owner : machine.owner with
    | spinning =>
      simp only [step, owner] at taken
      cases taken
      split_ifs with active
      · exact .checked active
      · exact .ignored _ trivial
    | outside | joining _ | destroyed | terminated =>
      simp only [step, owner] at taken
      cases taken
      exact .ignored _ trivial
  | lock =>
    cases thread : machine.thread with
    | begun duration =>
      simp only [step, thread] at taken
      cases taken
      exact .locked duration thread
    | none | waiting | returned =>
      simp only [step, thread] at taken
      cases taken
      exact .ignored _ trivial
  | second =>
    cases taken
    exact .passed
  | wake =>
    cases thread : machine.thread with
    | waiting =>
      simp only [step, thread] at taken
      cases taken
      exact .woken thread
    | none | begun _ | returned =>
      simp only [step, thread] at taken
      cases taken
      refine .ignored _ fun active => ?_
      simp [isActive, thread] at active
  | dispose destroys =>
    cases owner : machine.owner with
    | outside =>
      simp only [step, owner] at taken
      cases taken
      exact .disposed destroys owner
    | spinning | joining _ | destroyed | terminated =>
      simp only [step, owner] at taken
      cases taken
      exact .ignored _ trivial
  | join =>
    cases owner : machine.owner with
    | joining destroys =>
      cases thread : machine.thread with
      | returned =>
        simp only [step, owner, thread] at taken
        cases taken
        exact .joined destroys thread
      | none | begun _ | waiting =>
        simp only [step, owner, thread] at taken
        cases taken
        exact .ignored _ trivial
    | outside | spinning | destroyed | terminated =>
      simp only [step, owner] at taken
      cases taken
      exact .ignored _ trivial

theorem start_keeps_iff (keeps : machine.Keeps) (outside : machine.owner = .outside) (delayDuration : ℤ) :
    (machine.start delayDuration).Keeps ↔ machine.Restartable (.start delayDuration) := by
  unfold start
  by_cases active : machine.isActive = true
  · rw [if_pos active]
    exact iff_of_true keeps fun _ => .inl active
  · rw [if_neg active]
    have passed : ¬ 0 < machine.remaining := fun left => active (keeps.active left)
    by_cases joinable : machine.joinable = true
    · rw [if_pos joinable]
      refine iff_of_false (fun after => after.running rfl) fun restartable => ?_
      rcases restartable outside with here | free
      · exact active here
      · rw [free] at joinable
        cases joinable
    · rw [if_neg joinable]
      refine iff_of_true ⟨TimerOwner.noConfusion, fun left => absurd left passed, ?_⟩ ?_
      · exact fun gone => by cases gone
      · exact fun _ => .inr (Bool.eq_false_of_not_eq_true joinable)

theorem dispose_keeps (keeps : machine.Keeps) (destroys : Bool) : (machine.dispose destroys).Keeps := by
  unfold dispose
  by_cases joinable : machine.joinable = true
  · rw [if_pos joinable]
    refine ⟨TimerOwner.noConfusion, fun left => absurd left (lt_irrefl 0), fun gone => by cases gone⟩
  · rw [if_neg joinable]
    refine ⟨?_, keeps.active, fun _ => Bool.eq_false_of_not_eq_true joinable⟩
    cases destroys <;> exact TimerOwner.noConfusion

theorem step_keeps_iff (keeps : machine.Keeps) {input : TimerInput} {machine' : TimerMachine}
    (taken : machine.step input = .ok ((), machine')) : machine'.Keeps ↔ machine.Restartable input := by
  cases stepped taken with
  | started delayDuration outside => exact start_keeps_iff keeps outside delayDuration
  | checked active =>
    exact iff_of_true ⟨TimerOwner.noConfusion, fun _ => active, fun gone => by cases gone⟩ trivial
  | locked duration begun =>
    refine iff_of_true ⟨keeps.running, fun _ => rfl, fun gone => ?_⟩ trivial
    -- a destroyed timer has no thread that could begin
    have joined := keeps.joined gone
    simp [joinable, begun] at joined
  | passed =>
    refine iff_of_true ⟨keeps.running, fun left => ?_, keeps.joined⟩ trivial
    have before : 0 < machine.remaining := by
      simp only at left
      omega
    exact keeps.active before
  | woken waiting =>
    have active : machine.isActive = true := decide_eq_true waiting
    constructor
    · intro after _
      by_contra left
      have still := after.active (not_le.mp left)
      simp [isActive] at still
    · intro restartable
      refine ⟨keeps.running, fun left => absurd left (not_lt.mpr (restartable active)), fun gone => ?_⟩
      have joined := keeps.joined gone
      simp [joinable, waiting] at joined
  | disposed destroys outside => exact iff_of_true (dispose_keeps keeps destroys) trivial
  | joined destroys returned =>
    refine iff_of_true ⟨?_, fun left => ?_, fun _ => rfl⟩ trivial
    · cases destroys <;> exact TimerOwner.noConfusion
    · have active := keeps.active left
      simp [isActive, returned] at active
  | ignored input allowed => exact iff_of_true keeps allowed

/-! ## Joining -/

/-- Only a `Start` that spins has a thread without the lock, and who joins has a thread to join. -/
structure Joins (machine : TimerMachine) : Prop where
  spins : ∀ duration, machine.thread = .begun duration → machine.owner ≠ .outside ∧
    ∀ destroys, machine.owner ≠ .joining destroys
  joinable : ∀ destroys, machine.owner = .joining destroys → machine.thread ≠ .none

theorem joins_make : Joins make where
  spins := fun _ begun => by cases begun
  joinable := fun _ joining => by cases joining

theorem joins_step (joins : machine.Joins) {input : TimerInput} {machine' : TimerMachine}
    (taken : machine.step input = .ok ((), machine')) : machine'.Joins := by
  cases stepped taken with
  | started delayDuration outside =>
    unfold start
    split_ifs
    · exact joins
    · exact ⟨fun _ _ => ⟨TimerOwner.noConfusion, fun _ => TimerOwner.noConfusion⟩,
        fun _ joining => by cases joining⟩
    · exact ⟨fun _ _ => ⟨TimerOwner.noConfusion, fun _ => TimerOwner.noConfusion⟩,
        fun _ joining => by cases joining⟩
  | checked active =>
    refine ⟨fun duration begun => ?_, fun _ joining => by cases joining⟩
    have waiting := of_decide_eq_true active
    dsimp only at begun
    rw [waiting] at begun
    cases begun
  | locked duration begun => exact ⟨fun _ begun => (by cases begun), fun _ _ => TimerThread.noConfusion⟩
  | passed => exact ⟨joins.spins, joins.joinable⟩
  | woken waiting => exact ⟨fun _ begun => (by cases begun), fun _ _ => TimerThread.noConfusion⟩
  | disposed destroys outside =>
    have locked (duration : ℤ) : machine.thread ≠ .begun duration := fun begun =>
      (joins.spins duration begun).1 outside
    unfold dispose
    split_ifs with joinable
    · exact ⟨fun duration begun => absurd begun (locked duration), fun _ _ => of_decide_eq_true joinable⟩
    · refine ⟨fun duration begun => absurd begun (locked duration), fun _ joining => ?_⟩
      cases destroys <;> cases joining
  | joined destroys returned =>
    refine ⟨fun _ begun => (by cases begun), fun _ joining => ?_⟩
    cases destroys <;> cases joining
  | ignored input allowed => exact joins

theorem Joins.completes (joins : machine.Joins) {destroys : Bool} (joining : machine.owner = .joining destroys)
    (trace : List (Taken TimerMachine TimerInput Unit)) :
    ∃ trace' machine', Run.play step trace machine [.wake, .join] = .ok (trace', machine') ∧
      machine'.owner = leave destroys ∧ machine'.joinable = false := by
  obtain ⟨thread, owner, remaining⟩ := machine
  cases joining
  cases thread with
  | none => exact absurd rfl (joins.joinable destroys rfl)
  | begun duration => exact absurd rfl ((joins.spins duration rfl).2 destroys)
  | waiting => exact ⟨_, _, rfl, rfl, rfl⟩
  | returned => exact ⟨_, _, rfl, rfl, rfl⟩

/-! ## The timer of the service -/

/-- The timer as the service sees it between its calls. -/
structure Shows (machine : TimerMachine) (timer : DelayTimer) : Prop where
  outside : machine.owner = .outside
  active : timer.isActive = machine.isActive
  joinable : timer.joinable = machine.joinable

/-- A call of `Start` whose thread gets the lock before the owner checks again. -/
theorem Shows.start {timer : DelayTimer} (shows : machine.Shows timer) (delayDuration : ℤ)
    (trace : List (Taken TimerMachine TimerInput Unit)) :
    ∃ trace' machine',
      Run.play step trace machine [.start delayDuration, .lock, .check] = .ok (trace', machine') ∧
        match timer.start delayDuration with
        | some timer' => machine'.Shows timer'
        | none => machine'.owner = .terminated := by
  obtain ⟨outside, active, joinable⟩ := shows
  obtain ⟨thread, owner, remaining⟩ := machine
  obtain ⟨delay, isJoinable⟩ := timer
  cases outside
  cases joinable
  cases thread with
  | none =>
    cases delay with
    | some _ => cases active
    | none => exact ⟨_, _, rfl, rfl, rfl, rfl⟩
  | waiting =>
    cases delay with
    | some _ => exact ⟨_, _, rfl, rfl, rfl, rfl⟩
    | none => cases active
  | begun _ =>
    cases delay with
    | some _ => cases active
    | none => exact ⟨_, _, rfl, rfl⟩
  | returned =>
    cases delay with
    | some _ => cases active
    | none => exact ⟨_, _, rfl, rfl⟩

theorem Shows.expire {timer : DelayTimer} (shows : machine.Shows timer) (active : machine.isActive = true) :
    ∃ machine', machine.step .wake = .ok ((), machine') ∧ machine'.Shows timer.expire := by
  obtain ⟨outside, -, joinable⟩ := shows
  obtain ⟨thread, owner, remaining⟩ := machine
  obtain ⟨delay, isJoinable⟩ := timer
  cases outside
  cases of_decide_eq_true active
  cases joinable
  exact ⟨_, rfl, rfl, rfl, rfl⟩

/-! ## Runs -/

/-- In every run of calls, of steps of the thread and of seconds: no `Start` assigns to a joinable thread, the
timer is active until its delay has passed and a destroyed timer has joined its thread, exactly when every
`Start` finds the timer active or without a thread and no wait ends early. Who joins is let go. -/
theorem restarts_iff {trace : List (Taken TimerMachine TimerInput Unit)} (run : Run step make trace machine) :
    (Run.Throughout Keeps trace machine ↔ Run.Every Restartable trace) ∧
      ∀ destroys, machine.owner = .joining destroys → ∃ trace' machine',
        Run.play step trace machine [.wake, .join] = .ok (trace', machine') ∧
          machine'.owner = leave destroys ∧ machine'.joinable = false := by
  have joins : machine.Joins := Run.reached joins_make (fun _ _ _ _ h taken => joins_step h taken) run
  refine ⟨?_, fun destroys joining => joins.completes joining trace⟩
  let anywhere (_ : TimerMachine) : Prop := True
  have start : anywhere make := trivial
  apply Run.stays_iff_every start keeps_make (fun _ _ _ _ _ _ => trivial) ?_ run
  intro machine input output machine' _ keeps taken
  exact step_keeps_iff keeps taken

/-- A delay of one second passes and the timer is destroyed. -/
def oneDelay : List TimerInput := [.start 1, .lock, .check, .second, .wake, .dispose true, .join]

theorem restarts_iff_oneDelay : ∃ trace machine, Run.play step [] make oneDelay = .ok (trace, machine) ∧
    Run.Throughout Keeps trace machine ∧ machine.owner = .destroyed := by
  obtain ⟨trace, machine, played, every, gone⟩ : ∃ trace machine,
      Run.play step [] make oneDelay = .ok (trace, machine) ∧ Run.Every Restartable trace ∧
        machine.owner = .destroyed := ⟨_, _, rfl, by decide, rfl⟩
  exact ⟨trace, machine, played, (restarts_iff (Run.of_play .start played)).1.mpr every, gone⟩

/-- The second `Start` of a timer is the end of the process, as the second lockout is; and a wait that ends
for no reason ends the delay. -/
theorem not_always_restarts :
    (∃ trace machine, Run.play step [] make [.start 1, .lock, .check, .second, .wake, .start 1] =
          .ok (trace, machine) ∧
        machine.owner = .terminated ∧ ¬ Run.Throughout Keeps trace machine) ∧
      (∃ trace state, Run.play (Attempts.step (Attempts.lockoutMetaInfo "0")) [] Attempts.make
          [Attempts.attemptRequest [1], Attempts.attemptRequest [2, 0, 0], .expire, Attempts.attemptRequest [2, 0, 0]] =
            .ok (trace, state) ∧
        state.terminated = true) ∧
      ∃ trace machine, Run.play step [] make [.start 1, .lock, .check, .wake] = .ok (trace, machine) ∧
        machine.remaining = 1 ∧ ¬ Run.Throughout Keeps trace machine := by
  refine ⟨⟨_, _, rfl, rfl, ?_⟩, ⟨_, _, rfl, rfl⟩, _, _, rfl, rfl, ?_⟩
  · rintro ⟨keeps, -⟩
    exact keeps.running rfl
  · rintro ⟨keeps, -⟩
    have active := keeps.active (by decide)
    cases active

end TimerMachine
end AdaptiveAutosar.Diag
