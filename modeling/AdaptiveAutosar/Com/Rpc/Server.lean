import AdaptiveAutosar.Com.Rpc.Message

/-! # The RPC server

`ara::com::someip::rpc::RpcServer`. A handler is a `std::function` of the application: it answers
whether it handled the request, fills the response, may throw, and works on a state of its own `σ`.
Every call of a handler is recorded with what it was given and what it answered.
-/

namespace AdaptiveAutosar.Com
open Foundations Foundations.BigEndian Foundations.Cursor
set_option autoImplicit false

/-- The answer and the response the handler leaves in its output argument. -/
abbrev RpcHandler (σ : Type) := Bytes → σ → Outcome (Bool × Bytes) × σ

structure RpcServer (σ : Type) where
  protocolVersion : UInt8
  interfaceVersion : UInt8
  services : List UInt16
  handlers : UInt32 → Option (RpcHandler σ)

/-- One call of a handler. -/
structure Invocation where
  messageId : UInt32
  rpcPayload : Bytes
  answer : Outcome (Bool × Bytes)
  deriving DecidableEq

/-- What a call of `TryInvokeHandler` leaves: its result, its output argument, the state of the
handlers and the handlers it called. -/
structure Invoked (σ : Type) where
  result : Outcome Bool
  responsePayload : Bytes
  state : σ
  calls : List Invocation

namespace RpcServer
variable {σ : Type}

def serviceOf (messageId : UInt32) : UInt16 := (messageId >>> 16).toUInt16

def validate (server : RpcServer σ) (request : SomeIpRpcMessage) : SomeIpReturnCode :=
  if request.messageType ≠ .request then .eWrongMessageType
  else if request.protocolVersion ≠ server.protocolVersion then .eWrongProtocolVersion
  else if request.interfaceVersion ≠ server.interfaceVersion then .eWrongInterfaceVersion
  else if serviceOf request.messageId ∉ server.services then .eUnknownService
  else .eOK

def getResponsePayload (server : RpcServer σ) (request : SomeIpRpcMessage)
    (returnCode : SomeIpReturnCode) (rpcPayload : Bytes) : Outcome Bytes := do
  let errorMessage ← SomeIpRpcMessage.makeResponse request.messageId request.clientId
    request.sessionId server.protocolVersion server.interfaceVersion returnCode rpcPayload
  pure errorMessage.payload

/-- The `try` block behind the decoder: the response it writes, if it gets that far. -/
def respond (server : RpcServer σ) (request : SomeIpRpcMessage) (s : σ) :
    Outcome Bytes × σ × List Invocation :=
  let returnCode := server.validate request
  if returnCode ≠ .eOK then (server.getResponsePayload request returnCode [], s, [])
  else
    match server.handlers request.messageId with
    | some handler =>
      let (answer, s') := handler request.rpcPayload s
      let response := do
        let (handled, rpcResponsePdu) ← answer
        server.getResponsePayload request (if handled then .eOK else .eNotOk) rpcResponsePdu
      (response, s', [⟨request.messageId, request.rpcPayload, answer⟩])
    | none => (server.getResponsePayload request .eUnknownMethod [], s, [])

def tryInvokeHandler (server : RpcServer σ) (requestPayload responsePayload : Bytes) (s : σ) :
    Invoked σ :=
  let (response, s', calls) : Outcome Bytes × σ × List Invocation :=
    match SomeIpRpcMessage.deserialize requestPayload with
    | .ok request => server.respond request s
    | .error e => (.error e, s, [])
  match response with
  | .ok payload => ⟨.ok true, payload, s', calls⟩
  | .error (.thrown (.outOfRange _)) => ⟨.ok false, responsePayload, s', calls⟩
  | .error e => ⟨.error e, responsePayload, s', calls⟩

def setHandler (server : RpcServer σ) (serviceId methodId : UInt16) (handler : RpcHandler σ) :
    RpcServer σ :=
  let messageId := (serviceId.toUInt32 <<< 16) ||| methodId.toUInt32
  { server with
    handlers := fun id => if id = messageId then some handler else server.handlers id
    services := serviceId :: server.services }

/-! ## A request the server knows -/

/-- The response to a request and the handler's answer to it. -/
def responseTo (server : RpcServer σ) (request : SomeIpRpcMessage) (handled : Bool)
    (rpcResponsePdu : Bytes) : SomeIpRpcMessage :=
  { messageId := request.messageId, clientId := request.clientId, sessionId := request.sessionId,
    protocolVersion := server.protocolVersion, interfaceVersion := server.interfaceVersion,
    messageType := if handled then .response else .error,
    returnCode := if handled then .eOK else .eNotOk, rpcPayload := rpcResponsePdu }

theorem getResponsePayload_handled (server : RpcServer σ) (request : SomeIpRpcMessage)
    (handled : Bool) (rpcResponsePdu : Bytes) :
    server.getResponsePayload request (if handled then .eOK else .eNotOk) rpcResponsePdu =
      .ok (server.responseTo request handled rpcResponsePdu).payload := by
  unfold getResponsePayload
  rw [SomeIpRpcMessage.makeResponse_eq]
  cases handled <;> rfl

/-- A valid request is decoded, handed to its handler once, and answered with what that says. -/
theorem tryInvokeHandler_request (server : RpcServer σ) (request : SomeIpRpcMessage)
    (handler : RpcHandler σ) (hfits : request.Fits) (hvalid : server.validate request = .eOK)
    (hhandler : server.handlers request.messageId = some handler) (s s' : σ) (handled : Bool)
    (rpcResponsePdu responsePayload : Bytes)
    (hcall : handler request.rpcPayload s = (.ok (handled, rpcResponsePdu), s')) :
    server.tryInvokeHandler request.payload responsePayload s =
      ⟨.ok true, (server.responseTo request handled rpcResponsePdu).payload, s',
        [⟨request.messageId, request.rpcPayload, .ok (handled, rpcResponsePdu)⟩]⟩ := by
  unfold tryInvokeHandler
  rw [SomeIpRpcMessage.deserialize_payload request hfits]
  simp only [respond, hvalid, ne_eq, not_true, if_false, hhandler, hcall, bind, Except.bind,
    getResponsePayload_handled]

/-! ## Malformed requests -/

theorem tryInvokeHandler_short (server : RpcServer σ) {p : Bytes} (h : p.length < 12)
    (responsePayload : Bytes) (s : σ) :
    server.tryInvokeHandler p responsePayload s = ⟨.ok false, responsePayload, s, []⟩ := by
  obtain ⟨what, hw⟩ := SomeIpRpcMessage.deserialize_short h
  simp only [tryInvokeHandler, hw]

/-- Decoding throws `std::out_of_range` or gives exactly the announced bytes, none of them outside
the byte string; and a byte string that is not well-formed is not handled. -/
def DecodesExactly (server : RpcServer σ) (p : Bytes) : Prop :=
  (ThrowsOutOfRange (SomeIpRpcMessage.deserialize p) ∨
    ∃ message, SomeIpRpcMessage.deserialize p = .ok message ∧ SomeIpRpcMessage.WellFormed p ∧
      message.rpcPayload = (p.take (8 + SomeIpRpcMessage.lengthField p)).drop 16) ∧
  (¬ SomeIpRpcMessage.WellFormed p → ∀ (responsePayload : Bytes) (s : σ),
    server.tryInvokeHandler p responsePayload s = ⟨.ok false, responsePayload, s, []⟩)

theorem decodesExactly_iff (server : RpcServer σ) (p : Bytes) :
    server.DecodesExactly p ↔ p.length < 12 ∨ SomeIpRpcMessage.WellFormed p := by
  constructor
  · rintro ⟨hdecode, -⟩
    by_contra hne
    obtain ⟨h12, hw⟩ := not_or.mp hne
    have hu := SomeIpRpcMessage.deserialize_undefined (Nat.le_of_not_lt h12) hw
    rw [hu] at hdecode
    obtain ⟨what, h⟩ | ⟨message, h, -⟩ := hdecode
    · cases h
    · cases h
  · intro h
    by_cases hw : SomeIpRpcMessage.WellFormed p
    · obtain ⟨base, -, hd⟩ := SomeIpRpcMessage.deserialize_wellFormed hw
      refine ⟨.inr ⟨_, hd, hw, ?_⟩, fun hn => absurd hw hn⟩
      have hcount : 8 + SomeIpRpcMessage.lengthField p - 16 = SomeIpRpcMessage.lengthField p - 8 := by
        omega
      rw [List.drop_take, hcount]
    · have h12 : p.length < 12 := h.resolve_right hw
      exact ⟨.inl (SomeIpRpcMessage.deserialize_short h12),
        fun _ responsePayload s => server.tryInvokeHandler_short h12 responsePayload s⟩

/-- A request whose length field is zero, four bytes below the least it can announce. -/
def zeroLength : Bytes := [0, 1, 0, 2, 0, 0, 0, 0, 0, 0, 0, 1, 1, 1, 0, 0]

theorem not_decodesExactly :
    SomeIpRpcMessage.deserialize zeroLength = .error .undefined ∧
      ∀ server : RpcServer Unit, ¬ server.DecodesExactly zeroLength := by
  have hu : SomeIpRpcMessage.deserialize zeroLength = .error .undefined := by decide
  refine ⟨hu, ?_⟩
  rintro server ⟨⟨what, h⟩ | ⟨message, h, -⟩, -⟩
  · rw [hu] at h
    cases h
  · rw [hu] at h
    cases h

end RpcServer

end AdaptiveAutosar.Com
