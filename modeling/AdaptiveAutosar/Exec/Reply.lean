import AdaptiveAutosar.Com.PayloadHelper
import AdaptiveAutosar.Foundations.Promise

/-! # Replies of the execution management

The error codes of `ara::exec`, and what the clients of the execution management make of a reply: an empty
payload is a success, any other one begins with an error code.
-/

namespace AdaptiveAutosar.Exec
open Foundations Com
set_option autoImplicit false

/-- A number received from a server may be no enumerator. -/
structure ExecErrc where
  code : Int32
  deriving DecidableEq, Repr

namespace ExecErrc

def generalError : ExecErrc := ⟨1⟩
def invalidArguments : ExecErrc := ⟨2⟩
def communicationError : ExecErrc := ⟨3⟩
def cancelled : ExecErrc := ⟨5⟩
def failed : ExecErrc := ⟨6⟩
def invalidTransition : ExecErrc := ⟨9⟩
def alreadyInState : ExecErrc := ⟨10⟩

end ExecErrc

/-- What the payload of the reply to a request says; the message type and the return code are not looked at. -/
def outcomeOf (rpcPayload : Bytes) : Settled ExecErrc :=
  if rpcPayload = [] then .value
  else
    match extractInteger rpcPayload 0 with
    | .ok (executionErrorCodeInt, _) => .exception ⟨executionErrorCodeInt.toInt32⟩
    | .error _ => .exception .communicationError

/-- `StateClient::genericHandler` and `ExecutionClient::reportExecutionStateHandler`. The exception of a
promise that is set already is not caught. -/
def settle (promise : Promise) (rpcPayload : Bytes) (states : SharedStates ExecErrc) :
    Outcome (SharedStates ExecErrc) :=
  if rpcPayload = [] then promise.set .value states
  else
    match extractInteger rpcPayload 0 with
    | .ok (executionErrorCodeInt, _) => promise.set (.exception ⟨executionErrorCodeInt.toInt32⟩) states
    | .error (.thrown (.outOfRange _)) => promise.set (.exception .communicationError) states
    | .error e => .error e

theorem settle_eq (promise : Promise) (rpcPayload : Bytes) (states : SharedStates ExecErrc) :
    settle promise rpcPayload states = promise.set (outcomeOf rpcPayload) states := by
  unfold settle outcomeOf
  by_cases empty : rpcPayload = []
  · rw [if_pos empty, if_pos empty]
  · rw [if_neg empty, if_neg empty]
    rcases extractInteger_advances rpcPayload 0 with ⟨what, short⟩ | ⟨code, read⟩
    · rw [short]
    · rw [read]

end AdaptiveAutosar.Exec
