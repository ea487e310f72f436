import Mathlib.Tactic.Common

/-! # State machines of the service discovery

`helper::FiniteStateMachine` and the part of `fsm::TimerSetState` that servers and clients share. A
state activates its successor within its own `Activate`, so the thread of the machine is in one state
at a time.
-/

namespace AdaptiveAutosar.Com
set_option autoImplicit false

structure FiniteStateMachine (τ : Type) where
  currentState : τ
  deriving DecidableEq, Repr

/-- Only the current state is able to transit; the machine then activates `nextState`. -/
def FiniteStateMachine.transit {τ : Type} [DecidableEq τ] (machine : FiniteStateMachine τ)
    (previousState nextState : τ) : Option (FiniteStateMachine τ) :=
  if previousState = machine.currentState then some ⟨nextState⟩ else none

structure TimerSetState (τ : Type) where
  stoppedState : τ
  nextState : τ
  stopped : Bool
  interrupted : Bool
  deriving DecidableEq, Repr

namespace TimerSetState
variable {τ : Type}

/-- The constructor. -/
def make (nextState stoppedState : τ) : TimerSetState τ := ⟨stoppedState, nextState, false, false⟩

def setNextState (timer : TimerSetState τ) (nextState : τ) : TimerSetState τ := { timer with nextState }

def deactivate (timer : TimerSetState τ) : TimerSetState τ :=
  { timer with interrupted := false, stopped := false }

/-- What `WaitFor` returns behind its `sleep_for`. -/
def waitFor (timer : TimerSetState τ) : Bool := timer.stopped || timer.interrupted

/-- Where `setTimerBase` transits when `SetTimer` is over. -/
def target (timer : TimerSetState τ) : τ :=
  if timer.stopped then timer.stoppedState else timer.nextState

/-- Neither stopped nor interrupted. -/
def Idle (timer : TimerSetState τ) : Prop := timer.stopped = false ∧ timer.interrupted = false

theorem idle_make (nextState stoppedState : τ) : (make nextState stoppedState).Idle := ⟨rfl, rfl⟩

theorem Idle.setNextState {timer : TimerSetState τ} (h : timer.Idle) (nextState : τ) :
    (timer.setNextState nextState).Idle := h

theorem idle_deactivate (timer : TimerSetState τ) : timer.deactivate.Idle := ⟨rfl, rfl⟩

theorem Idle.waitFor {timer : TimerSetState τ} (h : timer.Idle) : timer.waitFor = false := by
  simp [TimerSetState.waitFor, h.1, h.2]

theorem Idle.target {timer : TimerSetState τ} (h : timer.Idle) : timer.target = timer.nextState := by
  simp [TimerSetState.target, h.1]

end TimerSetState
end AdaptiveAutosar.Com
