import AdaptiveAutosar.Com.Rpc.Server

/-! # The RPC client

`ara::com::someip::rpc::RpcClient`: the session counters of the methods and the response handlers.
A handler is a `std::function` of the application on a state of its own `τ`; every message a handler
is called with is recorded.
-/

namespace AdaptiveAutosar.Com
open Foundations
set_option autoImplicit false

abbrev ResponseHandler (τ : Type) := SomeIpRpcMessage → τ → Outcome Unit × τ

structure RpcClient (τ : Type) where
  protocolVersion : UInt8
  interfaceVersion : UInt8
  sessionIds : UInt32 → Option UInt16
  handlers : UInt32 → Option (ResponseHandler τ)

/-- One call of `Send` by the application. -/
structure RpcCall where
  serviceId : UInt16
  methodId : UInt16
  clientId : UInt16
  rpcPayload : Bytes
  deriving DecidableEq, Repr

def messageIdOf (serviceId methodId : UInt16) : UInt32 :=
  (serviceId.toUInt32 <<< 16) ||| methodId.toUInt32

theorem serviceOf_messageIdOf (serviceId methodId : UInt16) :
    RpcServer.serviceOf (messageIdOf serviceId methodId) = serviceId := by
  have hs := serviceId.toNat_lt
  have hm := methodId.toNat_lt
  have hshift : (serviceId.toNat * 2 ^ 16) % 2 ^ 32 = serviceId.toNat * 2 ^ 16 :=
    Nat.mod_eq_of_lt (by omega)
  apply UInt16.toNat_inj.mp
  simp only [RpcServer.serviceOf, messageIdOf, UInt32.toNat_toUInt16, UInt32.toNat_shiftRight,
    UInt32.toNat_or, UInt32.toNat_shiftLeft, UInt16.toNat_toUInt32, UInt32.reduceToNat,
    Nat.reduceMod, Nat.shiftLeft_eq, hshift, Nat.shiftRight_eq_div_pow]
  rw [BigEndian.mul_lor_of_lt _ _ 16 hm]
  omega

namespace RpcClient
variable {τ : Type}

def cInitialSessionId : UInt16 := 1

/-- The constructor. -/
def make (protocolVersion interfaceVersion : UInt8) : RpcClient τ :=
  ⟨protocolVersion, interfaceVersion, fun _ => none, fun _ => none⟩

def setHandler (client : RpcClient τ) (serviceId methodId : UInt16) (handler : ResponseHandler τ) :
    RpcClient τ :=
  { client with
    handlers := fun id => if id = messageIdOf serviceId methodId then some handler else client.handlers id }

/-- The local `_request` of `Send`. -/
def request (client : RpcClient τ) (call : RpcCall) : Outcome SomeIpRpcMessage :=
  let messageId := messageIdOf call.serviceId call.methodId
  let sessionId := (client.sessionIds messageId).getD cInitialSessionId
  SomeIpRpcMessage.makeRequest messageId call.clientId sessionId client.protocolVersion
    client.interfaceVersion call.rpcPayload

/-- The payload `Send` hands to the transport, and the client with the next session ID. -/
def send (client : RpcClient τ) (call : RpcCall) : Outcome (Bytes × RpcClient τ) := do
  let request ← client.request call
  let (_, next) := request.toSomeIpMessage.incrementSessionId
  let sessionIds := fun id => if id = request.messageId then some next.sessionId else client.sessionIds id
  pure (request.payload, { client with sessionIds })

/-- The result, the state of the handlers and the messages they were called with. -/
def invokeHandler (client : RpcClient τ) (payload : Bytes) (t : τ) :
    Outcome Unit × τ × List SomeIpRpcMessage :=
  let (result, t', calls) : Outcome Unit × τ × List SomeIpRpcMessage :=
    match SomeIpRpcMessage.deserialize payload with
    | .ok message =>
      match client.handlers message.messageId with
      | some handler =>
        let (result, t') := handler message t
        (result, t', [message])
      | none => (.ok (), t, [])
    | .error e => (.error e, t, [])
  match result with
  | .error (.thrown (.outOfRange _)) => (.ok (), t', calls)
  | result => (result, t', calls)

/-- The request of a call: its IDs and payload, the client's versions and the method's counter. -/
theorem request_eq (client : RpcClient τ) (call : RpcCall) :
    client.request call = .ok ⟨⟨messageIdOf call.serviceId call.methodId, call.clientId,
      (client.sessionIds (messageIdOf call.serviceId call.methodId)).getD cInitialSessionId,
      client.protocolVersion, client.interfaceVersion, .request, .eOK⟩, call.rpcPayload⟩ := rfl

theorem exists_send (client : RpcClient τ) (call : RpcCall) :
    ∃ payload client', client.send call = .ok (payload, client') ∧ client'.handlers = client.handlers := by
  unfold send
  rw [request_eq]
  exact ⟨_, _, rfl, rfl⟩

theorem invokeHandler_returns {client : RpcClient τ} {message : SomeIpRpcMessage} {t t' : τ}
    {handler : ResponseHandler τ} (fits : message.Fits)
    (there : client.handlers message.messageId = some handler) (returns : handler message t = (.ok (), t')) :
    client.invokeHandler message.payload t = (.ok (), t', [message]) := by
  unfold invokeHandler
  rw [SomeIpRpcMessage.deserialize_payload message fits]
  simp only [there, returns]

/-- A message that fits is decoded and handed to its handler once, if it has one. -/
theorem invokeHandler_message (client : RpcClient τ) (message : SomeIpRpcMessage)
    (hfits : message.Fits) (t : τ)
    (hreturns : ∀ id handler, client.handlers id = some handler → ∀ m t, (handler m t).1 = .ok ()) :
    ∃ t', client.invokeHandler message.payload t =
      (.ok (), t', [message].filter (fun m => (client.handlers m.messageId).isSome)) := by
  unfold invokeHandler
  rw [SomeIpRpcMessage.deserialize_payload message hfits]
  cases hh : client.handlers message.messageId with
  | none =>
    refine ⟨t, ?_⟩
    simp [hh]
  | some handler =>
    have hok := hreturns _ handler hh message t
    refine ⟨(handler message t).2, ?_⟩
    simp [hh, hok]

end RpcClient

end AdaptiveAutosar.Com
