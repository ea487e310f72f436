import AdaptiveAutosar.Foundations.Numbered
import AdaptiveAutosar.Com.Rpc.Client

/-! # The session IDs of RPC requests

`RpcClient::Send` keeps the next session ID of every method under its message ID.
-/

namespace AdaptiveAutosar.Com
open Foundations
set_option autoImplicit false

/-- The service and the method of a request. -/
abbrev RpcMethod := UInt16 × UInt16

def RpcCall.method (call : RpcCall) : RpcMethod := (call.serviceId, call.methodId)

theorem messageIdOf_toNat (serviceId methodId : UInt16) :
    (messageIdOf serviceId methodId).toNat = serviceId.toNat * 2 ^ 16 + methodId.toNat := by
  have hs := serviceId.toNat_lt
  have hm := methodId.toNat_lt
  have hshift : (serviceId.toNat * 2 ^ 16) % 2 ^ 32 = serviceId.toNat * 2 ^ 16 :=
    Nat.mod_eq_of_lt (by omega)
  simp only [messageIdOf, UInt32.toNat_or, UInt32.toNat_shiftLeft, UInt16.toNat_toUInt32,
    UInt32.reduceToNat, Nat.reduceMod, Nat.shiftLeft_eq, hshift]
  exact BigEndian.mul_lor_of_lt _ _ 16 hm

theorem messageIdOf_inj {method method' : RpcMethod}
    (h : messageIdOf method.1 method.2 = messageIdOf method'.1 method'.2) : method = method' := by
  have ids := congrArg UInt32.toNat h
  rw [messageIdOf_toNat, messageIdOf_toNat] at ids
  have hm := method.2.toNat_lt
  have hm' := method'.2.toNat_lt
  apply Prod.ext
  · apply UInt16.toNat_inj.mp
    omega
  · apply UInt16.toNat_inj.mp
    omega

namespace RpcClient
variable {τ : Type}

/-- The request that a call sends, if it is one of this method. -/
def requestOf (method : RpcMethod) (call : RpcCall) (payload : Bytes) : Option Bytes :=
  if call.method = method then some payload else none

/-- A header that says it is the request of a method behind `n` others. -/
def Numbers (method : RpcMethod) (n : ℕ) (payload : Bytes) : Prop :=
  ∃ header, SomeIpMessage.deserialize payload = .ok header ∧
    header.messageId = messageIdOf method.1 method.2 ∧
    header.sessionId = SomeIpMessage.numberedSessionId n

/-- The client keeps for every method the session ID behind its count. -/
def Agrees (counts : RpcMethod → ℕ) (client : RpcClient τ) : Prop :=
  ∀ method : RpcMethod, (client.sessionIds (messageIdOf method.1 method.2)).getD cInitialSessionId =
    SomeIpMessage.numberedSessionId (counts method)

theorem agrees_make (protocolVersion interfaceVersion : UInt8) :
    Agrees (fun _ => 0) (make protocolVersion interfaceVersion : RpcClient τ) := fun _ => rfl

/-- `Send` writes the header of the method's session ID and keeps the next one, and leaves the session IDs
of the other methods alone. -/
theorem send_numbered {counts : RpcMethod → ℕ} {client : RpcClient τ} (h : Agrees counts client)
    (call : RpcCall) :
    ∃ payload client', client.send call = .ok (payload, client') ∧
      Numbers call.method (counts call.method) payload ∧
      ∀ method : RpcMethod, (client'.sessionIds (messageIdOf method.1 method.2)).getD cInitialSessionId =
        SomeIpMessage.numberedSessionId (counts method + if call.method = method then 1 else 0) := by
  have current := h call.method
  obtain ⟨request, made⟩ : ∃ request, client.request call = .ok request := ⟨_, client.request_eq call⟩
  have fields := made.symm.trans (client.request_eq call)
  injection fields with fields
  have id : request.messageId = messageIdOf call.serviceId call.methodId := by rw [fields]
  have session : request.sessionId = SomeIpMessage.numberedSessionId (counts call.method) := by
    rw [fields]
    exact current
  have increment := SomeIpMessage.incrementSessionId_numbered session
  refine ⟨request.payload, _, by unfold send; rw [made]; rfl, ?_, ?_⟩
  · refine ⟨request.toSomeIpMessage, ?_, id, session⟩
    exact SomeIpMessage.deserialize_append _ request.length request.rpcPayload
  · intro method
    show (if messageIdOf method.1 method.2 = request.messageId then
      some request.toSomeIpMessage.incrementSessionId.2.sessionId
      else client.sessionIds (messageIdOf method.1 method.2)).getD _ = _
    rw [increment, id]
    by_cases same : call.method = method
    · subst same
      have here : messageIdOf call.method.1 call.method.2 =
          messageIdOf call.serviceId call.methodId := rfl
      rw [if_pos here, if_pos rfl]
      rfl
    · have other : messageIdOf method.1 method.2 ≠ messageIdOf call.serviceId call.methodId := by
        intro equal
        have ids : messageIdOf call.method.1 call.method.2 = messageIdOf method.1 method.2 := equal.symm
        exact same (messageIdOf_inj ids)
      rw [if_neg other, if_neg same]
      exact h method

/-- In every run of calls of any methods, the request of a method behind `k` others of it carries its
message ID and the session ID `k % 65535 + 1`. -/
theorem requests_numbered (protocolVersion interfaceVersion : UInt8)
    {trace : List (Taken (RpcClient τ) RpcCall Bytes)} {client : RpcClient τ}
    (run : Run send (make protocolVersion interfaceVersion) trace client) (method : RpcMethod) {k : ℕ}
    {payload : Bytes} (sent : (sentFor requestOf method trace)[k]? = some payload) :
    ∃ header, SomeIpMessage.deserialize payload = .ok header ∧
      header.messageId = messageIdOf method.1 method.2 ∧
      header.sessionId.toNat = k % 65535 + 1 ∧ header.sessionId ≠ 0 := by
  have numbers : Numbers method k payload := by
    refine Run.numbered (agrees_make protocolVersion interfaceVersion) ?_ run method sent
    intro counts client call output client' agrees taken
    obtain ⟨payload, next, taken', numbers, agrees'⟩ := send_numbered agrees call
    cases taken.symm.trans taken'
    constructor
    · intro method
      rw [agrees' method, Run.counted, requestOf]
      split_ifs
      · rfl
      · rfl
    · intro method value sent
      unfold requestOf at sent
      split_ifs at sent with same
      subst same
      cases sent
      exact numbers
  obtain ⟨header, read, id, session⟩ := numbers
  refine ⟨header, read, id, ?_, ?_⟩
  · rw [session, SomeIpMessage.numberedSessionId_toNat]
  · rw [session]
    exact SomeIpMessage.numberedSessionId_ne_zero _

/-- A method is called again behind a call of another one. -/
def alternatingCalls : List RpcCall := [⟨1, 1, 0, []⟩, ⟨1, 2, 0, [5]⟩, ⟨1, 1, 0, [7]⟩]

theorem requests_numbered_alternatingCalls : ∃ (trace : List (Taken (RpcClient Unit) RpcCall Bytes))
    (client : RpcClient Unit) (payload : Bytes) (header : SomeIpMessage),
    Run.play send [] (make 1 1) alternatingCalls = .ok (trace, client) ∧
      (sentFor requestOf (1, 1) trace)[1]? = some payload ∧
      SomeIpMessage.deserialize payload = .ok header ∧ header.sessionId.toNat = 2 := by
  obtain ⟨trace, client, payload, played, sent⟩ : ∃ trace client payload,
      Run.play send [] (make 1 1 : RpcClient Unit) alternatingCalls = .ok (trace, client) ∧
        (sentFor requestOf (1, 1) trace)[1]? = some payload := ⟨_, _, _, rfl, rfl⟩
  obtain ⟨header, read, -, session, -⟩ := requests_numbered 1 1 (Run.of_play .start played) (1, 1) sent
  exact ⟨trace, client, payload, header, played, sent, read, session⟩

end RpcClient
end AdaptiveAutosar.Com
