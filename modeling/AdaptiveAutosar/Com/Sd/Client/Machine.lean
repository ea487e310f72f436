import Mathlib.Algebra.Group.Nat.Defs
import Mathlib.Logic.Function.Basic
import AdaptiveAutosar.Com.Sd.Fsm
import AdaptiveAutosar.Foundations.Transition
import AdaptiveAutosar.Foundations.Binary64

/-! # The state machine of the service discovery client

`SomeIpSdClient` with its six states and its `TtlTimer`. The states run in the thread that `Start`
launches; `Start`, `Stop` and the receiver of the SD messages run in others. A step of the machine reads
a shared field at most once, and `SetRequested` and `SetOffered` write their field in one step and set the
signal flag in another, so the threads may interleave anywhere.
-/

namespace AdaptiveAutosar.Com
open Foundations
set_option autoImplicit false

inductive SdClientState where
  | serviceNotSeen
  | serviceSeen
  | serviceReady
  | stopped
  | initialWaitPhase
  | repetitionPhase
  deriving DecidableEq, Repr

/-! ## The timer -/

structure TtlTimer where
  requested : Bool
  disposing : Bool
  signalFlag : Bool
  ttl : UInt32
  deriving DecidableEq, Repr

namespace TtlTimer

/-- The constructor leaves `mSignalFlag` as it finds it. -/
def make (signalFlag : Bool) : TtlTimer := ⟨false, false, signalFlag, 0⟩

def getOffered (timer : TtlTimer) : Bool := 0 < timer.ttl

end TtlTimer

/-! ## The states that watch the timer -/

/-- How a state waits: once for a signal, or in a loop until the TTL is expired. -/
inductive Waiting where
  | signal
  | expiration
  deriving DecidableEq, Repr

/-- A `waitForNextState`: it waits while `GetRequested` and `GetOffered` are as given here, then reads
`GetRequested` once more and chooses. -/
structure ClientServiceState where
  state : SdClientState
  requested : Bool
  offered : Bool
  waiting : Waiting
  next (requested expired : Bool) : SdClientState

def serviceNotseenState : ClientServiceState where
  state := .serviceNotSeen
  requested := false
  offered := false
  waiting := .signal
  next requested _ := if requested then .initialWaitPhase else .serviceSeen

def serviceSeenState : ClientServiceState where
  state := .serviceSeen
  requested := false
  offered := true
  waiting := .expiration
  next requested _ := if requested then .serviceReady else .serviceNotSeen

def serviceReadyState : ClientServiceState where
  state := .serviceReady
  requested := true
  offered := true
  waiting := .expiration
  next requested expired :=
    if !requested then .serviceSeen else if expired then .initialWaitPhase else .stopped

def stoppedState : ClientServiceState where
  state := .stopped
  requested := true
  offered := false
  waiting := .signal
  next requested _ := if !requested then .serviceNotSeen else .serviceReady

inductive Watch where
  | notSeen
  | seen
  | ready
  | stopped
  deriving DecidableEq, Repr

def Watch.service : Watch → ClientServiceState
  | notSeen => serviceNotseenState
  | seen => serviceSeenState
  | ready => serviceReadyState
  | stopped => stoppedState

/-! ## The states that set a timer -/

inductive Phase where
  | initialWait
  | repetition
  deriving DecidableEq, Repr

namespace Phase

def state : Phase → SdClientState
  | initialWait => .initialWaitPhase
  | repetition => .repetitionPhase

/-- The next state that `Activate` sets, unless the service turns out to be offered. -/
def following : Phase → SdClientState
  | initialWait => .repetitionPhase
  | repetition => .stopped

end Phase

/-- The arguments of the repetition state. -/
structure Repetitions where
  repetitionsMax : UInt32
  repetitionsBaseDelay : ℕ
  deriving DecidableEq, Repr

namespace Repetitions

/-- `pow(2, i) * RepetitionsBaseDelay`, which has to fit into an `int`. -/
def doubledDelay (repetitions : Repetitions) (i : ℕ) : Outcome Int32 :=
  Binary64.toInt32 (Binary64.powTwo i * .ofNat repetitions.repetitionsBaseDelay)

end Repetitions

/-! ## The client -/

/-- What the thread of the machine does next. -/
inductive Place where
  /-- `Start` has not launched it. -/
  | idle
  | requestService
  /-- `Transit`, with the state that calls it. -/
  | transit (source next : SdClientState)
  /-- The two reads of the condition of the wait. -/
  | getRequested (watch : Watch)
  | getOffered (watch : Watch)
  /-- `WaitForSignal`: reading `mDisposing`, then blocked on the flag. -/
  | waitForSignal (watch : Watch)
  | signalled (watch : Watch)
  /-- `WaitForExpiration`: reading the TTL, reading it once more to wait so long, blocked, and reading
  it again when it was woken. -/
  | waitForExpiration (watch : Watch)
  | waitFor (watch : Watch)
  | waiting (watch : Watch)
  | woken (watch : Watch)
  /-- The last read of `GetRequested`. -/
  | choose (watch : Watch) (expired : Bool)
  /-- In `SetTimer`: asleep before the `i`-th Find, reading `GetOffered`, and calling
  `OnTimerExpired`. -/
  | sleep (phase : Phase) (i : ℕ)
  | wakeUp (phase : Phase) (i : ℕ) (interrupted : Bool)
  | sendFind (phase : Phase) (i : ℕ)
  /-- `RequestService` has returned. -/
  | returned
  deriving DecidableEq, Repr

/-- What can be seen of a step. -/
inductive Observed where
  | transited (state : SdClientState)
  | sentFind
  | timedOut
  | threw (what : String)
  deriving DecidableEq, Repr

/-- `signals` counts the calls that have written their field and not set the flag yet. Behind it is a
record of the run: the TTLs of the client's own entries received, the newest first, whether no Offer
has come since the wait in `WaitForExpiration` began for a TTL, whether none has come since such a wait
timed out, and how many Finds were sent since the initial wait began. -/
structure SdClient where
  timer : TtlTimer
  validState : Bool
  everRequested : Bool
  disposing : Bool
  timerSet : Phase → TimerSetState SdClientState
  stateMachine : FiniteStateMachine SdClientState
  future : Bool
  place : Place
  signals : ℕ
  received : List UInt32
  waited : Bool
  expired : Bool
  finds : ℕ

/-- `destroy` is the destructor's write to `mValidState`, which then calls `Stop`; `offer` is what the
receiver does with an entry of the client's own service; `signal` sets the flag in one of the calls that
have not done so; `timeout` ends the wait in `WaitForExpiration`, and `proceed` is the next step of the
machine's thread. -/
inductive ClientStep where
  | start
  | stop
  | destroy
  | offer (ttl : UInt32)
  | signal
  | timeout
  | proceed
  deriving DecidableEq, Repr

namespace SdClient

def make (signalFlag : Bool) : SdClient where
  timer := .make signalFlag
  validState := true
  everRequested := false
  disposing := false
  timerSet phase := .make phase.following .stopped
  stateMachine := ⟨.serviceNotSeen⟩
  future := false
  place := .idle
  signals := 0
  received := []
  waited := false
  expired := false
  finds := 0

/-- `TtlTimer::SetRequested` up to the flag. -/
def setRequested (client : SdClient) (requested : Bool) : SdClient :=
  { client with timer := { client.timer with requested }, signals := client.signals + 1 }

/-- `TtlTimer::SetOffered` up to the flag. -/
def setOffered (client : SdClient) (ttl : UInt32) : SdClient :=
  { client with
    timer := { client.timer with ttl }
    signals := client.signals + 1
    received := ttl :: client.received
    waited := client.waited && ttl == 0
    expired := client.expired && ttl == 0 }

def setSignal (client : SdClient) (signalFlag : Bool) : SdClient :=
  { client with timer := { client.timer with signalFlag } }

def setTimerSet (client : SdClient) (phase : Phase) (timer : TimerSetState SdClientState) : SdClient :=
  { client with timerSet := Function.update client.timerSet phase timer }

def goto (client : SdClient) (place : Place) : SdClient := { client with place }

/-- The launched thread runs behind `SetRequested`. -/
def startAgent (client : SdClient) : SdClient :=
  { client with
    timer := { client.timer with requested := true, signalFlag := true }
    future := true
    place := .requestService }

/-- The end of `setTimerBase`. -/
def setTimerBase (client : SdClient) (phase : Phase) : SdClient :=
  client.goto (.transit phase.state (client.timerSet phase).target)

/-- The head of the loop of `ClientRepetitionState::SetTimer`. -/
def repeatFrom (repetitions : Repetitions) (client : SdClient) (i : ℕ) : SdClient :=
  if i < repetitions.repetitionsMax.toNat then client.goto (.sleep .repetition i)
  else client.setTimerBase .repetition

def deactivate (client : SdClient) : SdClientState → SdClient
  | .initialWaitPhase =>
    client.setTimerSet .initialWait (client.timerSet .initialWait).deactivate
  | .repetitionPhase => client.setTimerSet .repetition (client.timerSet .repetition).deactivate
  | .serviceNotSeen | .serviceSeen | .serviceReady | .stopped => client

def activate (repetitions : Repetitions) (client : SdClient) : SdClientState → SdClient
  | .serviceNotSeen =>
    if client.everRequested && !client.disposing then client.goto (.getRequested .notSeen)
    else client.goto .returned
  | .serviceSeen => client.goto (.getRequested .seen)
  | .serviceReady => client.goto (.getRequested .ready)
  | .stopped => client.goto (.getRequested .stopped)
  | .initialWaitPhase =>
    let timer := (client.timerSet .initialWait).setNextState (Phase.following .initialWait)
    let client := { client with finds := 0 }.setTimerSet .initialWait timer
    if timer.stopped then client.goto .returned else client.goto (.sleep .initialWait 0)
  | .repetitionPhase =>
    let timer := (client.timerSet .repetition).setNextState (Phase.following .repetition)
    let client := client.setTimerSet .repetition timer
    if timer.stopped then client.goto .returned else client.repeatFrom repetitions 0

/-- A step of the machine's thread. -/
def proceed (repetitions : Repetitions) (client : SdClient) : Outcome (Option Observed × SdClient) :=
  match client.place with
  | .idle | .returned => .ok (none, client)
  | .requestService =>
    .ok (none, { client with everRequested := true }.goto (.transit .serviceNotSeen .initialWaitPhase))
  | .transit source next =>
    let client := client.deactivate source
    match client.stateMachine.transit source next with
    | none => .ok (none, client.goto .returned)
    | some stateMachine =>
      .ok (some (.transited next), { client with stateMachine }.activate repetitions next)
  | .getRequested watch =>
    if client.timer.requested = watch.service.requested then .ok (none, client.goto (.getOffered watch))
    else .ok (none, client.goto (.choose watch false))
  | .getOffered watch =>
    if client.timer.getOffered = watch.service.offered then
      match watch.service.waiting with
      | .signal => .ok (none, client.goto (.waitForSignal watch))
      | .expiration => .ok (none, client.goto (.waitForExpiration watch))
    else .ok (none, client.goto (.choose watch false))
  | .waitForSignal watch =>
    if client.timer.disposing then .ok (none, client.goto (.choose watch false))
    else .ok (none, client.goto (.signalled watch))
  | .signalled watch =>
    if client.timer.signalFlag then
      .ok (none, (client.setSignal false).goto (.choose watch false))
    else .ok (none, client)
  | .waitForExpiration watch =>
    if client.timer.ttl = 0 ∨ client.timer.disposing then .ok (none, client.goto (.choose watch true))
    else .ok (none, client.goto (.waitFor watch))
  | .waitFor watch =>
    .ok (none, { client with waited := client.timer.getOffered }.goto (.waiting watch))
  | .waiting watch => .ok (none, (client.setSignal false).goto (.woken watch))
  | .woken watch =>
    if client.timer.ttl = 0 ∨ client.timer.disposing then .ok (none, client.goto (.choose watch true))
    else .ok (none, client.goto (.getRequested watch))
  | .choose watch expired =>
    .ok (none, client.goto
      (.transit watch.service.state (watch.service.next client.timer.requested expired)))
  | .sleep phase i => do
    if phase = .repetition then
      let _ ← repetitions.doubledDelay i
    pure (none, client.goto (.wakeUp phase i (client.timerSet phase).waitFor))
  | .wakeUp phase i interrupted =>
    if client.timer.getOffered then
      let timer := (client.timerSet phase).setNextState .serviceReady
      .ok (none, (client.setTimerSet phase timer).setTimerBase phase)
    else if interrupted then .ok (none, client.setTimerBase phase)
    else .ok (none, client.goto (.sendFind phase i))
  | .sendFind phase i =>
    let client := { client with finds := client.finds + 1 }
    match phase with
    | .initialWait => .ok (some .sentFind, client.setTimerBase .initialWait)
    | .repetition => .ok (some .sentFind, client.repeatFrom repetitions (i + 1))

def step (repetitions : Repetitions) (client : SdClient) :
    ClientStep → Outcome (Option Observed × SdClient)
  | .start =>
    if client.future then .ok (some (.threw "The state has been already activated."), client)
    else .ok (none, client.startAgent)
  | .stop =>
    let client := if client.validState then client else
      { client with disposing := true, timer := { client.timer with disposing := true } }
    .ok (none, client.setRequested false)
  | .destroy => .ok (none, { client with validState := false })
  | .offer ttl => .ok (none, if client.validState then client.setOffered ttl else client)
  | .signal =>
    if client.signals = 0 then .ok (none, client)
    else .ok (none, { client with signals := client.signals - 1 }.setSignal true)
  | .timeout =>
    match client.place with
    | .waiting watch =>
      .ok (some .timedOut,
        { client with expired := client.expired || client.waited }.setSignal false
          |>.goto (.choose watch true))
    | _ => .ok (none, client)
  | .proceed => client.proceed repetitions

/-! ## What the machine's thread leaves alone -/

/-- What only the other threads write, and `timeout`. -/
structure Shared where
  requested : Bool
  ttl : UInt32
  validState : Bool
  received : List UInt32
  expired : Bool

def shared (client : SdClient) : Shared :=
  ⟨client.timer.requested, client.timer.ttl, client.validState, client.received, client.expired⟩

section
variable (repetitions : Repetitions) (client : SdClient) (phase : Phase)

@[simp] theorem goto_shared (place : Place) : (client.goto place).shared = client.shared := rfl

@[simp] theorem goto_place (place : Place) : (client.goto place).place = place := rfl

@[simp] theorem goto_timerSet (place : Place) : (client.goto place).timerSet = client.timerSet := rfl

@[simp] theorem goto_finds (place : Place) : (client.goto place).finds = client.finds := rfl

@[simp] theorem setTimerSet_shared (timer : TimerSetState SdClientState) :
    (client.setTimerSet phase timer).shared = client.shared := rfl

@[simp] theorem setTimerSet_finds (timer : TimerSetState SdClientState) :
    (client.setTimerSet phase timer).finds = client.finds := rfl

@[simp] theorem setTimerSet_timerSet (timer : TimerSetState SdClientState) (other : Phase) :
    (client.setTimerSet phase timer).timerSet other =
      if other = phase then timer else client.timerSet other := Function.update_apply ..

@[simp] theorem setTimerBase_place :
    (client.setTimerBase phase).place = .transit phase.state (client.timerSet phase).target := rfl

@[simp] theorem setTimerBase_timerSet : (client.setTimerBase phase).timerSet = client.timerSet := rfl

@[simp] theorem setTimerBase_finds : (client.setTimerBase phase).finds = client.finds := rfl

@[simp] theorem repeatFrom_shared (i : ℕ) :
    (client.repeatFrom repetitions i).shared = client.shared := by
  unfold repeatFrom
  split_ifs <;> rfl

@[simp] theorem repeatFrom_timerSet (i : ℕ) :
    (client.repeatFrom repetitions i).timerSet = client.timerSet := by
  unfold repeatFrom
  split_ifs <;> rfl

@[simp] theorem deactivate_shared (state : SdClientState) :
    (client.deactivate state).shared = client.shared := by
  cases state <;> rfl

@[simp] theorem deactivate_finds (state : SdClientState) :
    (client.deactivate state).finds = client.finds := by
  cases state <;> rfl

@[simp] theorem activate_shared (state : SdClientState) :
    (client.activate repetitions state).shared = client.shared := by
  unfold activate
  cases state with
  | serviceNotSeen =>
    dsimp only
    split_ifs <;> rfl
  | serviceSeen | serviceReady | stopped => rfl
  | initialWaitPhase =>
    dsimp only
    split_ifs <;> rfl
  | repetitionPhase =>
    dsimp only
    split_ifs
    · rfl
    · rw [repeatFrom_shared, setTimerSet_shared]

end

/-! ## What a step of the machine's thread can do -/

end SdClient

namespace Place

/-- Before the choice of one of the four states that watch the timer. -/
def Watching : Place → Prop
  | getRequested _ | getOffered _ | waitForSignal _ | signalled _ | waitForExpiration _ | waitFor _
  | waiting _ | woken _ => True
  | idle | requestService | transit _ _ | choose _ _ | sleep _ _ | wakeUp _ _ _ | sendFind _ _
  | returned => False

/-- Before the choice, or at it. -/
def Choosing : Place → Prop
  | choose _ _ => True
  | place => place.Watching

/-- Nothing to do. -/
def Resting : Place → Prop
  | idle | signalled _ | returned => True
  | getRequested _ | getOffered _ | waitForSignal _ | waitForExpiration _ | waitFor _ | waiting _
  | woken _ | requestService | transit _ _ | choose _ _ | sleep _ _ | wakeUp _ _ _ | sendFind _ _ => False

end Place

namespace SdClient

inductive Move (repetitions : Repetitions) (client : SdClient) : Option Observed → SdClient → Prop where
  | rests (place : client.place.Resting) : Move repetitions client none client
  | requests (place : client.place = .requestService) :
      Move repetitions client none
        ({ client with everRequested := true }.goto (.transit .serviceNotSeen .initialWaitPhase))
  | returns {source next : SdClientState} (place : client.place = .transit source next) :
      Move repetitions client none ((client.deactivate source).goto .returned)
  | transits {source next : SdClientState} (place : client.place = .transit source next) :
      Move repetitions client (some (.transited next))
        ({ client.deactivate source with stateMachine := ⟨next⟩ }.activate repetitions next)
  | watches (next : Place) (place : client.place.Watching) (choosing : next.Choosing)
      (waited signalFlag : Bool) :
      Move repetitions client none (({ client with waited }.setSignal signalFlag).goto next)
  | chooses {watch : Watch} {expired : Bool} (place : client.place = .choose watch expired) :
      Move repetitions client none (client.goto
        (.transit watch.service.state (watch.service.next client.timer.requested expired)))
  | awakes {phase : Phase} {i : ℕ} (place : client.place = .sleep phase i) :
      Move repetitions client none (client.goto (.wakeUp phase i (client.timerSet phase).waitFor))
  | seesOffer {phase : Phase} {i : ℕ} {interrupted : Bool}
      (place : client.place = .wakeUp phase i interrupted) (offered : client.timer.getOffered = true) :
      Move repetitions client none
        ((client.setTimerSet phase ((client.timerSet phase).setNextState .serviceReady)).setTimerBase
          phase)
  | breaks {phase : Phase} {i : ℕ} (place : client.place = .wakeUp phase i true)
      (offered : client.timer.getOffered = false) :
      Move repetitions client none (client.setTimerBase phase)
  | looks {phase : Phase} {i : ℕ} (place : client.place = .wakeUp phase i false)
      (offered : client.timer.getOffered = false) :
      Move repetitions client none (client.goto (.sendFind phase i))
  | sendsFirst {i : ℕ} (place : client.place = .sendFind .initialWait i) :
      Move repetitions client (some .sentFind)
        ({ client with finds := client.finds + 1 }.setTimerBase .initialWait)
  | sendsAgain {i : ℕ} (place : client.place = .sendFind .repetition i) :
      Move repetitions client (some .sentFind)
        ({ client with finds := client.finds + 1 }.repeatFrom repetitions (i + 1))

variable {repetitions : Repetitions} {client client' : SdClient} {observed : Option Observed}

/-- In the functions of a timer that wait and look, the machine's thread goes on in them. -/
theorem watching_move (watching : client.place.Watching)
    (taken : client.proceed repetitions = .ok (observed, client')) : Move repetitions client observed client' := by
  have watches {next : Place} (choosing : next.Choosing) : Move repetitions client none (client.goto next) :=
    .watches next watching choosing client.waited client.timer.signalFlag
  unfold proceed at taken
  cases place : client.place with
  | getRequested watch | waitForSignal watch | waitForExpiration watch | woken watch =>
    simp only [place] at taken
    split at taken
    · cases taken
      exact watches trivial
    · cases taken
      exact watches trivial
  | getOffered watch =>
    simp only [place] at taken
    split at taken
    · split at taken
      · cases taken
        exact watches trivial
      · cases taken
        exact watches trivial
    · cases taken
      exact watches trivial
  | signalled watch =>
    simp only [place] at taken
    split at taken
    · cases taken
      exact .watches (.choose watch false) watching trivial client.waited false
    · cases taken
      exact .rests (by simp [place, Place.Resting])
  | waitFor watch =>
    simp only [place] at taken
    cases taken
    exact .watches (.waiting watch) watching trivial client.timer.getOffered client.timer.signalFlag
  | waiting watch =>
    simp only [place] at taken
    cases taken
    exact .watches (.woken watch) watching trivial client.waited false
  | _ => simp [place, Place.Watching] at watching

theorem transit_move {source next : SdClientState} (place : client.place = .transit source next)
    (taken : client.proceed repetitions = .ok (observed, client')) : Move repetitions client observed client' := by
  unfold proceed at taken
  simp only [place, FiniteStateMachine.transit] at taken
  by_cases current : source = (client.deactivate source).stateMachine.currentState
  · simp only [if_pos current] at taken
    cases taken
    exact .transits place
  · simp only [if_neg current] at taken
    cases taken
    exact .returns place

theorem sleep_move {phase : Phase} {i : ℕ} (place : client.place = .sleep phase i)
    (taken : client.proceed repetitions = .ok (observed, client')) : Move repetitions client observed client' := by
  unfold proceed at taken
  simp only [place] at taken
  have awake : observed = none ∧
      client' = client.goto (.wakeUp phase i (client.timerSet phase).waitFor) := by
    split at taken
    · obtain ⟨_, -, taken⟩ := bind_eq_ok.mp taken
      cases taken
      exact ⟨rfl, rfl⟩
    · cases taken
      exact ⟨rfl, rfl⟩
  obtain ⟨rfl, rfl⟩ := awake
  exact .awakes place

theorem wakeUp_move {phase : Phase} {i : ℕ} {interrupted : Bool}
    (place : client.place = .wakeUp phase i interrupted)
    (taken : client.proceed repetitions = .ok (observed, client')) : Move repetitions client observed client' := by
  unfold proceed at taken
  simp only [place] at taken
  cases offered : client.timer.getOffered with
  | true =>
    simp only [offered, if_true] at taken
    cases taken
    exact .seesOffer place offered
  | false =>
    cases interrupted with
    | true =>
      simp only [offered, if_true, Bool.false_eq_true, if_false] at taken
      cases taken
      exact .breaks place offered
    | false =>
      simp only [offered, Bool.false_eq_true, if_false] at taken
      cases taken
      exact .looks place offered

theorem sendFind_move {phase : Phase} {i : ℕ} (place : client.place = .sendFind phase i)
    (taken : client.proceed repetitions = .ok (observed, client')) : Move repetitions client observed client' := by
  unfold proceed at taken
  simp only [place] at taken
  cases phase with
  | initialWait =>
    cases taken
    exact .sendsFirst place
  | repetition =>
    cases taken
    exact .sendsAgain place

theorem proceed_move (taken : client.proceed repetitions = .ok (observed, client')) :
    Move repetitions client observed client' := by
  cases place : client.place with
  | idle | returned =>
    simp only [proceed, place] at taken
    cases taken
    exact .rests (by simp [place, Place.Resting])
  | requestService =>
    simp only [proceed, place] at taken
    cases taken
    exact .requests place
  | choose watch expired =>
    simp only [proceed, place] at taken
    cases taken
    exact .chooses place
  | transit source next => exact transit_move place taken
  | getRequested | getOffered | waitForSignal | signalled | waitForExpiration | waitFor | waiting | woken =>
    exact watching_move (by simp [place, Place.Watching]) taken
  | sleep phase i => exact sleep_move place taken
  | wakeUp phase i interrupted => exact wakeUp_move place taken
  | sendFind phase i => exact sendFind_move place taken

/-- The machine's thread writes nothing that it shares, but the signal flag. -/
theorem Move.shared (move : Move repetitions client observed client') :
    client'.shared = client.shared := by
  cases move with
  | rests | requests | watches | chooses | awakes | seesOffer | breaks | looks | sendsFirst => rfl
  | returns => rw [goto_shared, deactivate_shared]
  | @transits source next =>
    rw [activate_shared]
    exact deactivate_shared client source
  | sendsAgain =>
    rw [repeatFrom_shared]
    rfl

/-! ## What a step of any thread can do -/

inductive Effect (repetitions : Repetitions) (client : SdClient) :
    ClientStep → Option Observed → SdClient → Prop where
  | refused {what : String} : Effect repetitions client .start (some (.threw what)) client
  | starts : Effect repetitions client .start none client.startAgent
  | stops (disposing timerDisposing : Bool) :
      Effect repetitions client .stop none
        ({ client with
          disposing
          timer := { client.timer with disposing := timerDisposing } }.setRequested false)
  | destroys : Effect repetitions client .destroy none { client with validState := false }
  | ignores {ttl : UInt32} (invalid : client.validState = false) :
      Effect repetitions client (.offer ttl) none client
  | offers {ttl : UInt32} (valid : client.validState = true) :
      Effect repetitions client (.offer ttl) none (client.setOffered ttl)
  | silent : Effect repetitions client .signal none client
  | signals (signals : ℕ) :
      Effect repetitions client .signal none ({ client with signals }.setSignal true)
  | waits : Effect repetitions client .timeout none client
  | timesOut {watch : Watch} (place : client.place = .waiting watch) :
      Effect repetitions client .timeout (some .timedOut)
        (({ client with expired := client.expired || client.waited }.setSignal false).goto
          (.choose watch true))
  | proceeds {observed : Option Observed} {client' : SdClient}
      (move : Move repetitions client observed client') :
      Effect repetitions client .proceed observed client'

theorem step_effect {input : ClientStep}
    (taken : client.step repetitions input = .ok (observed, client')) :
    Effect repetitions client input observed client' := by
  cases input with
  | start =>
    simp only [step] at taken
    split_ifs at taken
    · cases taken
      exact .refused
    · cases taken
      exact .starts
  | stop =>
    simp only [step] at taken
    cases taken
    split_ifs
    · exact .stops client.disposing client.timer.disposing
    · exact .stops true true
  | destroy =>
    simp only [step] at taken
    cases taken
    exact .destroys
  | offer ttl =>
    simp only [step] at taken
    cases taken
    split_ifs with valid
    · exact .offers valid
    · exact .ignores (by simpa using valid)
  | signal =>
    simp only [step] at taken
    split_ifs at taken
    · cases taken
      exact .silent
    · cases taken
      exact .signals (client.signals - 1)
  | timeout =>
    simp only [step] at taken
    split at taken
    · cases taken
      exact .timesOut ‹_›
    · cases taken
      exact .waits
  | proceed => exact .proceeds (proceed_move taken)

end SdClient
end AdaptiveAutosar.Com
