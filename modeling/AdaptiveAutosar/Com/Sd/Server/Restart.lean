import AdaptiveAutosar.Com.Sd.Server.Machine

/-! # Starting the service discovery server again

What a server is to do is said by a machine without flags, which every `Start` begins from the same
state. The server follows it as long as no flag is left over in a phase that it enters.
-/

namespace AdaptiveAutosar.Com
open Foundations
set_option autoImplicit false

/-- The server as its users see it. -/
structure ServerAgent where
  state : SdServerState
  place : ServerPlace
  finds : ℕ
  offers : ℕ
  stopOffers : ℕ
  deriving DecidableEq, Repr

namespace ServerAgent

def make : ServerAgent := ⟨.notReady, .idle, 0, 0, 0⟩

/-- The repetition from a round on. -/
def round (repetitions : Repetitions) (i : ℕ) : ServerPlace :=
  if i < repetitions.repetitionsMax.toNat then .asleep .repetition i
  else .transit .repetitionPhase .mainPhase

/-- The beginning of a state. -/
def entered (repetitions : Repetitions) : SdServerState → ServerPlace
  | .notReady => .idle
  | .initialWaitPhase => .asleep .initialWait 0
  | .repetitionPhase => round repetitions 0
  | .mainPhase => .asleep .main 0

/-- Behind a sleep. -/
def slept (repetitions : Repetitions) : ServerPhase → ℕ → ServerPlace
  | .initialWait, _ => .transit .initialWaitPhase .repetitionPhase
  | .repetition, i => round repetitions (i + 1)
  | .main, _ => .asleep .main 0

/-- The initial wait, the repetition and the main phase follow each other from every start on, with
offers behind every sleep; a stop ends them with one StopOffer. -/
def step (repetitions : Repetitions) (agent : ServerAgent) : ServerStep → ServerAgent
  | .start =>
    if agent.place = .idle then { agent with place := .transit .notReady .initialWaitPhase } else agent
  | .proceed =>
    match agent.place with
    | .idle | .returned | .undefined => agent
    | .transit _ next => { agent with state := next, place := entered repetitions next }
    | .asleep phase i =>
      { agent with
        place := slept repetitions phase i
        finds := 0
        offers := agent.offers + agent.finds }
  | .stop =>
    if agent.place = .idle then agent
    else { agent with state := .notReady, place := .idle, stopOffers := agent.stopOffers + 1 }
  | .join => agent
  | .find => { agent with finds := agent.finds + 1 }

end ServerAgent

/-- The server, what it is to be, and where the last `Stop` fell. -/
structure Restarting where
  server : SdServer
  agent : ServerAgent
  lastStop : Option ServerPlace

namespace Restarting

def make : Restarting := ⟨.make, .make, none⟩

def step (repetitions : Repetitions) (state : Restarting) (input : ServerStep) :
    Outcome (Option String × Restarting) := do
  let (threw, server) ← state.server.step repetitions input
  pure (threw, {
    server
    agent := state.agent.step repetitions input
    lastStop := if input = .stop then some state.agent.place else state.lastStop })

/-- The server is in the state and at the place it is to be, and has sent as many Offers and StopOffers
as it is to send. -/
structure Follows (state : Restarting) : Prop where
  currentState : state.server.stateMachine.currentState = state.agent.state
  place : state.server.place = state.agent.place
  finds : state.server.finds = state.agent.finds
  offers : state.server.offers = state.agent.offers
  stopOffers : state.server.stopOffers = state.agent.stopOffers

/-- What the last `Stop` has left in the flag of a phase: it falls in one phase, which clears its own. -/
def leftOver (lastStop : Option ServerPlace) (phase : ServerPhase) : Bool :=
  match lastStop with
  | none => false
  | some (.asleep stopped _) => stopped ≠ phase
  | some _ => true

/-- A phase is entered when there was no `Stop` yet or the last one fell in this phase, with a delay
that fits. `Stop` falls in a sleep or finds no thread, and `Join` finds none. -/
def Undisturbed (repetitions : Repetitions) (state : Restarting) : ServerStep → Prop
  | .start | .find => True
  | .proceed =>
    match state.agent.place with
    | .idle | .returned | .undefined => True
    | .transit _ next =>
      match SdServer.phaseOf next with
      | none => True
      | some phase => leftOver state.lastStop phase = false ∧
        (phase = .repetition → 0 < repetitions.repetitionsMax.toNat → repetitions.Fits 0)
    | .asleep phase i =>
      phase = .repetition → i + 1 < repetitions.repetitionsMax.toNat → repetitions.Fits (i + 1)
  | .stop =>
    match state.agent.place with
    | .transit _ _ => False
    | .idle | .returned | .undefined | .asleep _ _ => True
  | .join => state.agent.place = .idle

instance (repetitions : Repetitions) (state : Restarting) (input : ServerStep) :
    Decidable (state.Undisturbed repetitions input) := by
  unfold Undisturbed
  split
  · infer_instance
  · infer_instance
  · split
    · infer_instance
    · infer_instance
    · infer_instance
    · split <;> infer_instance
    · infer_instance
  · split <;> infer_instance
  · infer_instance

/-! ## The server while it follows -/

/-- The server that follows, with the flags left over. -/
def replica (agent : ServerAgent) (lastStop : Option ServerPlace) : SdServer where
  timerSet phase := ⟨.notReady, phase.following, leftOver lastStop phase, false⟩
  stateMachine := ⟨agent.state⟩
  future := agent.place ≠ .idle
  place := agent.place
  finds := agent.finds
  offers := agent.offers
  stopOffers := agent.stopOffers

/-- The places of the thread, with the flags that are clear there. -/
inductive Steady (lastStop : Option ServerPlace) : SdServerState → ServerPlace → Prop where
  | idle : Steady lastStop .notReady .idle
  | launched : Steady lastStop .notReady (.transit .notReady .initialWaitPhase)
  | asleep {phase : ServerPhase} {i : ℕ} (clear : leftOver lastStop phase = false) :
      Steady lastStop phase.state (.asleep phase i)
  | waited (clear : leftOver lastStop .initialWait = false) :
      Steady lastStop .initialWaitPhase (.transit .initialWaitPhase .repetitionPhase)
  | repeated (clear : leftOver lastStop .repetition = false) :
      Steady lastStop .repetitionPhase (.transit .repetitionPhase .mainPhase)

theorem Steady.inPhase {lastStop : Option ServerPlace} (phase : ServerPhase) {i : ℕ}
    (clear : leftOver lastStop phase = false) : Steady lastStop phase.state (.asleep phase i) :=
  .asleep clear

structure Sound (state : Restarting) : Prop where
  server : state.server = replica state.agent state.lastStop
  steady : Steady state.lastStop state.agent.state state.agent.place

theorem sound_make : make.Sound := ⟨rfl, .idle⟩

theorem Sound.follows {state : Restarting} (h : state.Sound) : state.Follows := by
  constructor <;> rw [h.server] <;> rfl

variable {repetitions : Repetitions} {agent : ServerAgent} {lastStop : Option ServerPlace}

theorem deactivate_replica {state : SdServerState}
    (clear : ∀ phase, SdServer.phaseOf state = some phase → leftOver lastStop phase = false) :
    (replica agent lastStop).deactivate state = replica agent lastStop := by
  unfold SdServer.deactivate
  cases timed : SdServer.phaseOf state with
  | none => rfl
  | some phase =>
    have same : ((replica agent lastStop).timerSet phase).deactivate =
        (replica agent lastStop).timerSet phase := by
      simp [replica, TimerSetState.deactivate, clear phase timed]
    simp only [SdServer.setTimerSet, same, Function.update_eq_self]

/-- The repetition goes on in its next round, when its delay fits. -/
theorem repeatFrom_replica {i : ℕ} (clear : leftOver lastStop .repetition = false) (place : agent.place ≠ .idle)
    (fits : i < repetitions.repetitionsMax.toNat → repetitions.Fits i) :
    (replica agent lastStop).repeatFrom repetitions i =
      replica { agent with place := ServerAgent.round repetitions i } lastStop := by
  unfold SdServer.repeatFrom ServerAgent.round
  split_ifs with more here
  · simp [SdServer.goto, replica, place]
  · exact absurd (fits more) here
  · simp [SdServer.setTimerBase, SdServer.goto, replica, place, TimerSetState.target, clear,
      ServerPhase.state, ServerPhase.following]

/-- The state is entered, unless a flag is left over or the first delay of the repetition does not
fit. -/
theorem proceed_transit {source next : SdServerState} {phase : ServerPhase}
    (place : agent.place = .transit source next) (current : agent.state = source)
    (clear : ∀ phase, SdServer.phaseOf source = some phase → leftOver lastStop phase = false)
    (timed : SdServer.phaseOf next = some phase) :
    (replica agent lastStop).proceed repetitions =
      if leftOver lastStop phase then
        (replica { agent with state := next } lastStop).goto .returned
      else (replica { agent with state := next } lastStop).setTimer repetitions phase := by
  have here : (replica agent lastStop).place = .transit source next := place
  have moves : (replica agent lastStop).stateMachine.transit source next = some ⟨next⟩ := by
    simp [replica, FiniteStateMachine.transit, current]
  unfold SdServer.proceed
  simp only [here, deactivate_replica clear, moves, SdServer.activate, timed]
  rfl

theorem setTimer_replica {phase : ServerPhase} (clear : leftOver lastStop phase = false)
    (place : agent.place ≠ .idle)
    (fits : phase = .repetition → 0 < repetitions.repetitionsMax.toNat → repetitions.Fits 0) :
    (replica agent lastStop).setTimer repetitions phase =
      replica { agent with place := ServerAgent.entered repetitions phase.state } lastStop := by
  cases phase with
  | initialWait => simp [SdServer.setTimer, SdServer.goto, replica, place, ServerAgent.entered,
      ServerPhase.state]
  | repetition => exact repeatFrom_replica clear place (fits rfl)
  | main => simp [SdServer.setTimer, SdServer.goto, replica, place, ServerAgent.entered,
      ServerPhase.state]

theorem proceed_asleep {phase : ServerPhase} {i : ℕ} (place : agent.place = .asleep phase i)
    (clear : leftOver lastStop phase = false)
    (fits : phase = .repetition → i + 1 < repetitions.repetitionsMax.toNat → repetitions.Fits (i + 1)) :
    (replica agent lastStop).proceed repetitions = replica (agent.step repetitions .proceed) lastStop := by
  have here : (replica agent lastStop).place = .asleep phase i := place
  have quiet : ((replica agent lastStop).timerSet phase).waitFor = false := by
    simp [replica, TimerSetState.waitFor, clear]
  have sent : (replica agent lastStop).sendOffer =
      replica { agent with finds := 0, offers := agent.offers + agent.finds } lastStop := rfl
  unfold SdServer.proceed
  simp only [here, quiet, Bool.false_eq_true, if_false, sent, ServerAgent.step, place]
  cases phase with
  | initialWait =>
    simp [SdServer.expire, SdServer.setTimerBase, SdServer.goto, replica, ServerAgent.slept,
      TimerSetState.target, clear, ServerPhase.state, ServerPhase.following]
  | repetition => exact repeatFrom_replica clear (by simp) (fits rfl)
  | main => simp [SdServer.expire, SdServer.goto, replica, ServerAgent.slept]

theorem Steady.ready {state : SdServerState} (h : Steady lastStop state .idle) : state = .notReady := by
  cases h
  rfl

theorem Steady.shown {state : SdServerState} {place : ServerPlace} (h : Steady lastStop state place) :
    place ≠ .returned ∧ place ≠ .undefined := by
  cases h <;> simp

theorem phaseOf_eq_some {state : SdServerState} {phase : ServerPhase} :
    SdServer.phaseOf state = some phase ↔ state = phase.state := by
  cases state <;> cases phase <;> simp [SdServer.phaseOf, ServerPhase.state]

/-! ## One step -/

variable {state state' : Restarting} {input : ServerStep} {threw : Option String}

theorem step_eq_ok (taken : state.step repetitions input = .ok (threw, state')) :
    ∃ server, state.server.step repetitions input = .ok (threw, server) ∧
      state' = ⟨server, state.agent.step repetitions input,
        if input = .stop then some state.agent.place else state.lastStop⟩ := by
  obtain ⟨⟨text, server⟩, stepped, rest⟩ := bind_eq_ok.mp taken
  cases rest
  exact ⟨server, stepped, rfl⟩

/-- Every step either keeps the server on its way or is disturbed and takes it off. -/
def Decided (repetitions : Repetitions) (state : Restarting) (input : ServerStep) (state' : Restarting) :
    Prop :=
  (state.Undisturbed repetitions input → state'.Sound) ∧
    (¬ state.Undisturbed repetitions input → ¬ state'.Follows)

theorem decided_start (h : state.Sound)
    (taken : state.step repetitions .start = .ok (threw, state')) :
    Decided repetitions state .start state' := by
  obtain ⟨server, stepped, rfl⟩ := step_eq_ok taken
  refine ⟨fun _ => ?_, fun disturbed => absurd trivial disturbed⟩
  have steady := h.steady
  rw [h.server] at stepped
  by_cases idle : state.agent.place = .idle
  · rw [idle] at steady
    have ready := steady.ready
    simp only [SdServer.step, replica, idle, ready, ne_eq, not_true, decide_false, Bool.false_eq_true,
      if_false, if_true] at stepped
    cases stepped
    constructor
    · simp [ServerAgent.step, idle, replica, ready]
    · simp only [ServerAgent.step, idle, if_true, ready]
      exact .launched
  · simp only [SdServer.step, replica, idle, ne_eq, not_false_iff, decide_true, if_true] at stepped
    cases stepped
    have same : state.agent.step repetitions .start = state.agent := by
      simp only [ServerAgent.step, if_neg idle]
    rw [same]
    exact ⟨by simp [replica, idle], h.steady⟩

theorem decided_find (h : state.Sound)
    (taken : state.step repetitions .find = .ok (threw, state')) :
    Decided repetitions state .find state' := by
  obtain ⟨server, stepped, rfl⟩ := step_eq_ok taken
  refine ⟨fun _ => ?_, fun disturbed => absurd trivial disturbed⟩
  rw [h.server] at stepped
  cases stepped
  exact ⟨rfl, h.steady⟩

/-- `Join` returns only where there is no thread any more. -/
theorem decided_join (h : state.Sound)
    (taken : state.step repetitions .join = .ok (threw, state')) :
    Decided repetitions state .join state' := by
  obtain ⟨server, stepped, rfl⟩ := step_eq_ok taken
  obtain ⟨joined, done, rest⟩ := bind_eq_ok.mp stepped
  cases rest
  rw [h.server] at done
  unfold SdServer.join at done
  by_cases idle : state.agent.place = .idle
  · refine ⟨fun _ => ?_, fun disturbed => absurd idle disturbed⟩
    simp only [replica, idle, ne_eq, not_true, decide_false, Bool.false_eq_true, if_false] at done
    cases done
    exact ⟨by simp [replica, ServerAgent.step, idle], h.steady⟩
  · refine ⟨fun undisturbed => absurd undisturbed idle, fun _ follows => ?_⟩
    simp only [replica, idle, ne_eq, not_false_iff, decide_true, if_true] at done
    obtain ⟨finished, -, rest⟩ := bind_eq_ok.mp done
    cases rest
    exact idle follows.place.symm

/-- A round is steady when the flag of its phase is clear. -/
theorem steady_round (clear : leftOver state.lastStop .repetition = false) (i : ℕ) :
    Steady state.lastStop .repetitionPhase (ServerAgent.round repetitions i) := by
  unfold ServerAgent.round
  split_ifs
  · exact .inPhase .repetition clear
  · exact .repeated clear

theorem entered_awake {next : SdServerState} {phase : ServerPhase} (named : next = phase.state) :
    ServerAgent.entered repetitions next ≠ .returned ∧ ServerAgent.entered repetitions next ≠ .undefined := by
  subst named
  cases phase with
  | initialWait | main => simp [ServerAgent.entered, ServerPhase.state]
  | repetition =>
    simp only [ServerAgent.entered, ServerPhase.state, ServerAgent.round]
    split_ifs <;> simp

/-- A transition into a phase from a source whose flag is clear. -/
theorem decided_enter {source next : SdServerState} (phase : ServerPhase)
    (place : state.agent.place = .transit source next) (current : state.agent.state = source)
    (clear : ∀ phase, SdServer.phaseOf source = some phase → leftOver state.lastStop phase = false)
    (timed : SdServer.phaseOf next = some phase)
    (steadily : leftOver state.lastStop phase = false →
      Steady state.lastStop next (ServerAgent.entered repetitions next)) :
    Decided repetitions state .proceed
      ⟨(replica state.agent state.lastStop).proceed repetitions,
        state.agent.step repetitions .proceed, state.lastStop⟩ := by
  have stepped : state.agent.step repetitions .proceed =
      { state.agent with state := next, place := ServerAgent.entered repetitions next } := by
    simp only [ServerAgent.step, place]
  have named := phaseOf_eq_some.mp timed
  obtain ⟨living, defined⟩ : ServerAgent.entered repetitions next ≠ .returned ∧
      ServerAgent.entered repetitions next ≠ .undefined := entered_awake named
  rw [Decided, stepped, proceed_transit place current clear timed]
  unfold Undisturbed
  simp only [place, timed]
  cases left : leftOver state.lastStop phase with
  | true =>
    refine ⟨fun undisturbed => by simp at undisturbed, fun _ follows => ?_⟩
    exact living follows.place.symm
  | false =>
    simp only [Bool.false_eq_true, if_false, true_and]
    constructor
    · intro fits
      refine ⟨?_, steadily left⟩
      rw [setTimer_replica left (by simp) fits, named]
    · intro overflows follows
      simp only [Classical.not_imp] at overflows
      obtain ⟨rfl, more, overflows⟩ := overflows
      have crashed := follows.place
      simp only [SdServer.setTimer, SdServer.repeatFrom, more, overflows, if_true, if_false,
        SdServer.goto] at crashed
      exact defined crashed.symm

/-- The end of a sleep in a phase whose flag is clear. -/
theorem decided_wake {phase : ServerPhase} {i : ℕ} (place : state.agent.place = .asleep phase i)
    (clear : leftOver state.lastStop phase = false)
    (steadily : Steady state.lastStop state.agent.state (ServerAgent.slept repetitions phase i)) :
    Decided repetitions state .proceed
      ⟨(replica state.agent state.lastStop).proceed repetitions,
        state.agent.step repetitions .proceed, state.lastStop⟩ := by
  unfold Decided Undisturbed
  simp only [place]
  constructor
  · intro fits
    refine ⟨proceed_asleep place clear fits, ?_⟩
    simpa only [ServerAgent.step, place] using steadily
  · intro overflows follows
    simp only [Classical.not_imp] at overflows
    obtain ⟨rfl, more, overflows⟩ := overflows
    have crashed := follows.place
    have quiet : ((replica state.agent state.lastStop).timerSet .repetition).waitFor = false := by
      simp [replica, TimerSetState.waitFor, clear]
    have here : (replica state.agent state.lastStop).place = .asleep .repetition i := place
    simp [SdServer.proceed, here, quiet, SdServer.expire, SdServer.repeatFrom, more, overflows,
      SdServer.goto, ServerAgent.step, place, ServerAgent.slept, ServerAgent.round] at crashed

/-- Without a thread nothing proceeds. -/
theorem decided_rest (h : state.Sound) (place : state.agent.place = .idle) :
    Decided repetitions state .proceed
      ⟨(replica state.agent state.lastStop).proceed repetitions,
        state.agent.step repetitions .proceed, state.lastStop⟩ := by
  refine ⟨fun _ => ?_, fun disturbed => absurd (by simp [Undisturbed, place]) disturbed⟩
  have same : state.agent.step repetitions .proceed = state.agent := by
    simp only [ServerAgent.step, place]
  have still : (replica state.agent state.lastStop).proceed repetitions =
      replica state.agent state.lastStop := by
    have here : (replica state.agent state.lastStop).place = .idle := place
    simp only [SdServer.proceed, here]
  exact ⟨by simp [same, still], by simpa [same] using h.steady⟩

theorem decided_proceed (h : state.Sound)
    (taken : state.step repetitions .proceed = .ok (threw, state')) :
    Decided repetitions state .proceed state' := by
  obtain ⟨server, stepped, rfl⟩ := step_eq_ok taken
  have steady := h.steady
  rw [h.server] at stepped
  simp only [SdServer.step] at stepped
  cases stepped
  generalize current : state.agent.state = now at steady
  cases place : state.agent.place with
  | returned | undefined =>
    have shown := steady.shown
    simp [place] at shown
  | idle => exact decided_rest h place
  | transit source next =>
    rw [place] at steady
    cases steady with
    | launched =>
      exact decided_enter .initialWait place current (by simp [SdServer.phaseOf]) rfl fun clear =>
        .inPhase .initialWait clear
    | waited clear =>
      refine decided_enter .repetition place current ?_ rfl fun clear => steady_round clear 0
      intro phase named
      cases named
      exact clear
    | repeated clear =>
      refine decided_enter .main place current ?_ rfl fun clear => .inPhase .main clear
      intro phase named
      cases named
      exact clear
  | asleep phase i =>
    rw [place] at steady
    cases steady with
    | asleep clear =>
      refine decided_wake place clear ?_
      rw [current]
      cases phase with
      | initialWait => exact .waited clear
      | main => exact .inPhase .main clear
      | repetition => exact steady_round clear (i + 1)

/-! ## `Stop` -/

/-- With the flags of all three timed states set. -/
def flagged (server : SdServer) : SdServer :=
  { server with timerSet := fun phase => ⟨.notReady, phase.following, true, false⟩ }

theorem stopAgent_replica : (replica agent lastStop).stopAgent repetitions =
    (flagged (replica agent lastStop)).join repetitions := by
  have all : (((replica agent lastStop).serviceStopped .initialWait).serviceStopped
      .repetition).serviceStopped .main = flagged (replica agent lastStop) := by
    simp only [SdServer.serviceStopped, SdServer.setTimerSet, replica, flagged]
    congr 1
    funext phase
    cases phase <;> simp [Function.update]
  unfold SdServer.stopAgent
  rw [all]

theorem finish_of_returned {server : SdServer} (returned : server.place = .returned) (rounds : ℕ) :
    server.finish repetitions rounds = .ok server := by
  cases rounds <;> simp only [SdServer.finish, returned]

theorem finish_succ {server : SdServer}
    (busy : (∃ phase i, server.place = .asleep phase i) ∨ ∃ source next, server.place = .transit source next)
    (rounds : ℕ) : server.finish repetitions (rounds + 1) =
      (server.proceed repetitions).finish repetitions rounds := by
  rcases busy with ⟨phase, i, place⟩ | ⟨source, next, place⟩ <;> simp only [SdServer.finish, place]

theorem deactivate_flagged (server : SdServer) (phase : ServerPhase) :
    (flagged server).deactivate phase.state =
      { server with
        timerSet := fun other => ⟨.notReady, other.following, leftOver (some (.asleep phase 0)) other, false⟩ } := by
  have timed : SdServer.phaseOf phase.state = some phase := phaseOf_eq_some.mpr rfl
  simp only [SdServer.deactivate, timed, SdServer.setTimerSet, flagged]
  congr 1
  funext other
  by_cases same : other = phase
  · subst same
    simp [TimerSetState.deactivate, leftOver]
  · simp [same, leftOver, Ne.symm same]

/-- A sleep that `Stop` falls in ends the run with one StopOffer. -/
theorem stop_asleep {phase : ServerPhase} {i : ℕ} (place : agent.place = .asleep phase i)
    (current : agent.state = phase.state) :
    (replica agent lastStop).stopAgent repetitions =
      .ok (replica (agent.step repetitions .stop) (some agent.place)) := by
  have asleep : (flagged (replica agent lastStop)).place = .asleep phase i := place
  have awake : (flagged (replica agent lastStop)).proceed repetitions =
      flagged ((replica agent lastStop).goto (.transit phase.state .notReady)) := by
    simp only [SdServer.proceed, asleep]
    rfl
  have timed : phase.state ≠ .notReady := by cases phase <;> simp [ServerPhase.state]
  have gone : (flagged ((replica agent lastStop).goto (.transit phase.state .notReady))).proceed
      repetitions = { replica { agent with state := .notReady, stopOffers := agent.stopOffers + 1 }
        (some (.asleep phase 0)) with future := true, place := .returned } := by
    have here : (flagged ((replica agent lastStop).goto (.transit phase.state .notReady))).place =
        .transit phase.state .notReady := rfl
    simp only [SdServer.proceed, here, deactivate_flagged]
    simp [FiniteStateMachine.transit, replica, SdServer.goto, current, SdServer.activate,
      SdServer.phaseOf, timed, SdServer.onServiceStopped, place]
  have future : (flagged (replica agent lastStop)).future = true := by simp [flagged, replica, place]
  rw [stopAgent_replica, SdServer.join, if_pos future, finish_succ (.inl ⟨phase, i, asleep⟩), awake,
    finish_succ (.inr ⟨_, _, rfl⟩), gone, finish_of_returned rfl]
  simp only [ServerAgent.step, place, reduceCtorEq, if_false, replica]
  rfl

theorem stop_idle (idle : agent.place = .idle) :
    (replica agent lastStop).stopAgent repetitions =
      .ok (replica (agent.step repetitions .stop) (some agent.place)) := by
  have future : (flagged (replica agent lastStop)).future = false := by simp [flagged, replica, idle]
  rw [stopAgent_replica, SdServer.join, if_neg (by simp [future])]
  simp only [ServerAgent.step, idle, if_true]
  simp [flagged, replica, leftOver, idle]
  rfl

/-- A `Stop` that falls before a phase has begun leaves the server in it. -/
theorem stop_transit {source next : SdServerState} (place : agent.place = .transit source next)
    (steady : Steady lastStop agent.state (.transit source next)) {server : SdServer}
    (stopped : (replica agent lastStop).stopAgent repetitions = .ok server) :
    server.stateMachine.currentState = next ∧ next ≠ .notReady := by
  have future : (flagged (replica agent lastStop)).future = true := by simp [flagged, replica, place]
  have here : (flagged (replica agent lastStop)).place = .transit source next := place
  rw [stopAgent_replica, SdServer.join, if_pos future, finish_succ (.inr ⟨source, next, here⟩)] at stopped
  have left {server' : SdServer}
      (proceeds : (flagged (replica agent lastStop)).proceed repetitions = server')
      (returned : server'.place = .returned) (state : server'.stateMachine.currentState = next) :
      server.stateMachine.currentState = next := by
    rw [proceeds, finish_of_returned returned] at stopped
    cases stopped
    exact state
  generalize current : agent.state = now at steady
  cases steady with
  | launched =>
    refine ⟨left rfl ?_ ?_, by simp⟩ <;>
      simp [SdServer.proceed, place, SdServer.deactivate, SdServer.phaseOf, FiniteStateMachine.transit,
        flagged, replica, current, SdServer.activate, SdServer.goto]
  | waited clear =>
    have cleared := deactivate_flagged (replica agent lastStop) .initialWait
    simp only [ServerPhase.state] at cleared
    refine ⟨left rfl ?_ ?_, by simp⟩ <;> simp only [SdServer.proceed, here, cleared] <;>
      simp [SdServer.phaseOf, FiniteStateMachine.transit, replica, current, SdServer.activate,
        SdServer.goto, leftOver]
  | repeated clear =>
    have cleared := deactivate_flagged (replica agent lastStop) .repetition
    simp only [ServerPhase.state] at cleared
    refine ⟨left rfl ?_ ?_, by simp⟩ <;> simp only [SdServer.proceed, here, cleared] <;>
      simp [SdServer.phaseOf, FiniteStateMachine.transit, replica, current, SdServer.activate,
        SdServer.goto, leftOver]

theorem decided_stop (h : state.Sound)
    (taken : state.step repetitions .stop = .ok (threw, state')) :
    Decided repetitions state .stop state' := by
  obtain ⟨server, stepped, rfl⟩ := step_eq_ok taken
  obtain ⟨stopped, done, rest⟩ := bind_eq_ok.mp stepped
  cases rest
  have steady := h.steady
  rw [h.server] at done
  unfold Decided Undisturbed
  cases place : state.agent.place with
  | returned | undefined =>
    have shown := steady.shown
    simp [place] at shown
  | idle =>
    refine ⟨fun _ => ?_, fun disturbed => absurd trivial disturbed⟩
    rw [stop_idle place] at done
    cases done
    rw [place] at steady
    have ready := steady.ready
    refine ⟨by simp [place], ?_⟩
    simp only [ServerAgent.step, place, if_true, ready]
    exact .idle
  | asleep phase i =>
    refine ⟨fun _ => ?_, fun disturbed => absurd trivial disturbed⟩
    have current : state.agent.state = phase.state := by
      generalize state.agent.state = now at steady
      rw [place] at steady
      cases steady
      rfl
    rw [stop_asleep place current] at done
    cases done
    refine ⟨by simp [place], ?_⟩
    simp only [ServerAgent.step, place, reduceCtorEq, if_false]
    exact .idle
  | transit source next =>
    refine ⟨fun undisturbed => undisturbed.elim, fun _ follows => ?_⟩
    obtain ⟨current, timed⟩ := stop_transit place (place ▸ steady) done
    have ready := follows.currentState
    simp only [ServerAgent.step, place, reduceCtorEq, if_false] at ready
    exact timed (current.symm.trans ready)

theorem decided_step (h : state.Sound) (taken : state.step repetitions input = .ok (threw, state')) :
    Decided repetitions state input state' := by
  cases input with
  | start => exact decided_start h taken
  | proceed => exact decided_proceed h taken
  | stop => exact decided_stop h taken
  | join => exact decided_join h taken
  | find => exact decided_find h taken

/-- An undisturbed `Stop` returns with the server in `NotReady` and one StopOffer more if there was a
run. -/
theorem Sound.stopped (h : state.Sound) (undisturbed : state.Undisturbed repetitions .stop)
    (taken : state.step repetitions .stop = .ok (threw, state')) :
    state'.server.stateMachine.currentState = .notReady ∧ state'.server.place = .idle ∧
      state'.server.stopOffers =
        state.server.stopOffers + if state.server.place = .idle then 0 else 1 := by
  have follows := ((decided_step h taken).1 undisturbed).follows
  obtain ⟨server, -, rfl⟩ := step_eq_ok taken
  rw [follows.currentState, follows.place, follows.stopOffers, h.follows.stopOffers, h.follows.place]
  by_cases idle : state.agent.place = .idle
  · have ready := (idle ▸ h.steady : Steady _ _ .idle).ready
    simp [ServerAgent.step, idle, ready]
  · simp [ServerAgent.step, idle]

/-- For every history of `Start`, `Stop`, `Join`, finds and steps of the thread: the server is in every
state what it is to be, exactly when every step of the history is undisturbed. Then a `Stop` that falls
in a sleep or finds no thread returns in `NotReady`, with one StopOffer for the run it stopped. -/
theorem follows_iff_undisturbed (repetitions : Repetitions)
    {trace : List (Taken Restarting ServerStep (Option String))}
    (run : Run (step repetitions) make trace state) :
    (Run.Throughout Follows trace state ↔ Run.Every (Undisturbed repetitions) trace) ∧
      (Run.Every (Undisturbed repetitions) trace → ∀ threw state',
        state.Undisturbed repetitions .stop → state.step repetitions .stop = .ok (threw, state') →
          state'.server.stateMachine.currentState = .notReady ∧ state'.server.place = .idle ∧
            state'.server.stopOffers =
              state.server.stopOffers + if state.server.place = .idle then 0 else 1) := by
  constructor
  · exact Run.throughout_iff_every (fun _ h => h.follows) sound_make
      (fun _ _ _ _ h undisturbed taken => (decided_step h taken).1 undisturbed)
      (fun _ _ _ _ h disturbed taken => (decided_step h taken).2 disturbed) run
  · intro every threw state' undisturbed taken
    let holds (_ : List (Taken Restarting ServerStep (Option String))) (state : Restarting) : Prop :=
      state.Sound
    have start : holds [] make := sound_make
    have sound : holds trace state := Run.invariant start
      (fun _ _ _ _ _ h undisturbed taken => (decided_step h taken).1 undisturbed) run every
    exact sound.stopped undisturbed taken

/-- The server is stopped in its repetition and started again. -/
def restarts : List ServerStep :=
  [.find, .start, .proceed, .proceed, .proceed, .proceed, .stop, .start]

theorem follows_iff_undisturbed_restarts : ∃ trace state,
    Run.play (step ⟨3, 30⟩) [] make restarts = .ok (trace, state) ∧
      Run.Throughout Follows trace state ∧ state.agent.offers = 1 ∧ state.agent.stopOffers = 1 := by
  obtain ⟨trace, state, played, every, offers, stopOffers⟩ : ∃ trace state,
      Run.play (step ⟨3, 30⟩) [] make restarts = .ok (trace, state) ∧
        Run.Every (Undisturbed ⟨3, 30⟩) trace ∧ state.agent.offers = 1 ∧ state.agent.stopOffers = 1 :=
    ⟨_, _, rfl, by decide, rfl, rfl⟩
  have follows := (follows_iff_undisturbed ⟨3, 30⟩ (Run.of_play .start played)).1.mpr every
  exact ⟨trace, state, played, follows, offers, stopOffers⟩

/-- Stopped in its initial wait and started again, the server stays in the repetition when the initial
wait is over; a second `Stop` neither brings it back nor sends a StopOffer. -/
theorem not_always_follows : ∃ trace state,
    Run.play (step ⟨3, 30⟩) [] make
        [.start, .proceed, .stop, .start, .proceed, .proceed, .proceed, .stop] = .ok (trace, state) ∧
      state.server.stateMachine.currentState = .repetitionPhase ∧ state.agent.state = .notReady ∧
      state.server.stopOffers = 1 ∧ state.agent.stopOffers = 2 ∧
      ¬ Run.Throughout Follows trace state := by
  refine ⟨_, _, rfl, rfl, rfl, rfl, rfl, ?_⟩
  rintro ⟨follows, -⟩
  exact absurd follows.stopOffers (by decide)

end Restarting
end AdaptiveAutosar.Com
