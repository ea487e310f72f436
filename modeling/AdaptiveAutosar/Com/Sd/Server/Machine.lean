import AdaptiveAutosar.Com.Sd.Client.Machine

/-! # The state machine of the service discovery server

`SomeIpSdServer` with its four states. `Start` launches the thread they run in; a step of this thread is
the transition to a state or the end of a sleep, with the offers sent behind it. `Stop` sets the flags
of the three timed states and waits for the thread; what it sets is read when the thread goes on. The
finds that the receiver accepts are counted here.
-/

namespace AdaptiveAutosar.Com
open Foundations
set_option autoImplicit false

inductive SdServerState where
  | notReady
  | initialWaitPhase
  | repetitionPhase
  | mainPhase
  deriving DecidableEq, Repr

/-- The states that set a timer. -/
inductive ServerPhase where
  | initialWait
  | repetition
  | main
  deriving DecidableEq, Repr

namespace ServerPhase

def state : ServerPhase → SdServerState
  | initialWait => .initialWaitPhase
  | repetition => .repetitionPhase
  | main => .mainPhase

def following : ServerPhase → SdServerState
  | initialWait => .repetitionPhase
  | repetition => .mainPhase
  | main => .notReady

end ServerPhase

/-- What the thread does next, if there is one: `Transit` from a state, or `WaitFor` in the `i`-th round of
the repetition. It has returned when nobody has got its result yet, and is undefined when the delay of the
repetition did not fit into an `int`. -/
inductive ServerPlace where
  | idle
  | transit (source next : SdServerState)
  | asleep (phase : ServerPhase) (i : ℕ)
  | returned
  | undefined
  deriving DecidableEq, Repr

/-- The finds in the queue, and the Offers and StopOffers sent, are counted. -/
structure SdServer where
  timerSet : ServerPhase → TimerSetState SdServerState
  stateMachine : FiniteStateMachine SdServerState
  future : Bool
  place : ServerPlace
  finds : ℕ
  offers : ℕ
  stopOffers : ℕ

/-- `proceed` is the next step of the thread: where it sleeps, the expiry of its timer. -/
inductive ServerStep where
  | start
  | proceed
  | stop
  | join
  | find
  deriving DecidableEq, Repr

/-- The `i`-th delay of the repetition fits into an `int`. -/
def Repetitions.Fits (repetitions : Repetitions) (i : ℕ) : Prop :=
  (repetitions.doubledDelay i).isOk

instance (repetitions : Repetitions) (i : ℕ) : Decidable (repetitions.Fits i) :=
  inferInstanceAs (Decidable (_ = true))

namespace SdServer

def make : SdServer where
  timerSet phase := .make phase.following .notReady
  stateMachine := ⟨.notReady⟩
  future := false
  place := .idle
  finds := 0
  offers := 0
  stopOffers := 0

def setTimerSet (server : SdServer) (phase : ServerPhase) (timer : TimerSetState SdServerState) :
    SdServer :=
  { server with timerSet := Function.update server.timerSet phase timer }

def goto (server : SdServer) (place : ServerPlace) : SdServer := { server with place }

def sendOffer (server : SdServer) : SdServer :=
  { server with finds := 0, offers := server.offers + server.finds }

def onServiceStopped (server : SdServer) : SdServer :=
  { server with stopOffers := server.stopOffers + 1 }

/-- The end of `setTimerBase`. -/
def setTimerBase (server : SdServer) (phase : ServerPhase) : SdServer :=
  server.goto (.transit phase.state (server.timerSet phase).target)

/-- The head of the loop of `RepetitionState::SetTimer`. -/
def repeatFrom (repetitions : Repetitions) (server : SdServer) (i : ℕ) : SdServer :=
  if i < repetitions.repetitionsMax.toNat then
    if repetitions.Fits i then server.goto (.asleep .repetition i) else server.goto .undefined
  else server.setTimerBase .repetition

/-- `SetTimer` up to its first sleep. -/
def setTimer (repetitions : Repetitions) (server : SdServer) : ServerPhase → SdServer
  | .initialWait => server.goto (.asleep .initialWait 0)
  | .repetition => server.repeatFrom repetitions 0
  | .main => server.goto (.asleep .main 0)

/-- `SetTimer` behind an undisturbed sleep. -/
def expire (repetitions : Repetitions) (server : SdServer) : ServerPhase → ℕ → SdServer
  | .initialWait, _ => server.setTimerBase .initialWait
  | .repetition, i => server.repeatFrom repetitions (i + 1)
  | .main, _ => server.goto (.asleep .main 0)

def phaseOf : SdServerState → Option ServerPhase
  | .notReady => none
  | .initialWaitPhase => some .initialWait
  | .repetitionPhase => some .repetition
  | .mainPhase => some .main

def deactivate (server : SdServer) (state : SdServerState) : SdServer :=
  match phaseOf state with
  | none => server
  | some phase => server.setTimerSet phase (server.timerSet phase).deactivate

def activate (repetitions : Repetitions) (server : SdServer) (previousState state : SdServerState) :
    SdServer :=
  match phaseOf state with
  | none =>
    -- at the entry point the previous state is the same
    if previousState ≠ .notReady then server.onServiceStopped.goto .returned
    else server.goto .returned
  | some phase =>
    if (server.timerSet phase).stopped then server.goto .returned
    else server.setTimer repetitions phase

def proceed (repetitions : Repetitions) (server : SdServer) : SdServer :=
  match server.place with
  | .idle | .returned | .undefined => server
  | .transit source next =>
    let server := server.deactivate source
    match server.stateMachine.transit source next with
    | none => server.goto .returned
    | some stateMachine => { server with stateMachine }.activate repetitions source next
  | .asleep phase i =>
    if (server.timerSet phase).waitFor then server.setTimerBase phase
    else server.sendOffer.expire repetitions phase i

/-- The thread runs until it returns. Within the rounds given it has come to the loop of the main phase,
which only a flag ends. -/
def finish (repetitions : Repetitions) : ℕ → SdServer → Outcome SdServer
  | 0, server => match server.place with
    | .idle | .returned => .ok server
    | .undefined => .error .undefined
    | .transit _ _ | .asleep _ _ => .error .diverged
  | rounds + 1, server => match server.place with
    | .idle | .returned => .ok server
    | .undefined => .error .undefined
    | .transit _ _ | .asleep _ _ => finish repetitions rounds (server.proceed repetitions)

/-- `Join`, where `get` waits for the thread and gives its future up. -/
def join (repetitions : Repetitions) (server : SdServer) : Outcome SdServer := do
  if server.future then
    let server ← server.finish repetitions (repetitions.repetitionsMax.toNat + 6)
    pure { server with future := false, place := .idle }
  else pure server

def serviceStopped (server : SdServer) (phase : ServerPhase) : SdServer :=
  server.setTimerSet phase { server.timerSet phase with stopped := true }

def stopAgent (repetitions : Repetitions) (server : SdServer) : Outcome SdServer :=
  (((server.serviceStopped .initialWait).serviceStopped .repetition).serviceStopped .main).join
    repetitions

/-- A call answers the text of the `std::logic_error` it throws. -/
def step (repetitions : Repetitions) (server : SdServer) :
    ServerStep → Outcome (Option String × SdServer)
  | .start =>
    if server.future then .ok (some "The state has been already activated.", server)
    else if server.stateMachine.currentState = .notReady then
      .ok (none, { server with future := true, place := .transit .notReady .initialWaitPhase })
    else .ok (none, server)
  | .proceed => .ok (none, server.proceed repetitions)
  | .stop => do
    let server ← server.stopAgent repetitions
    pure (none, server)
  | .join => do
    let server ← server.join repetitions
    pure (none, server)
  | .find => .ok (none, { server with finds := server.finds + 1 })

end SdServer
end AdaptiveAutosar.Com
