import AdaptiveAutosar.Com.Rpc.Server

/-! # The answer to a well-formed request

The checks a request goes through in their order, and the response with the code of the first one that
fails, or with what the handler says.
-/

namespace AdaptiveAutosar.Com
open Foundations
set_option autoImplicit false

namespace RpcServer
variable {σ : Type}

/-- What a request has to be before its handler runs, and the code for a request that is not. -/
def checks (server : RpcServer σ) (request : SomeIpRpcMessage) : List (Bool × SomeIpReturnCode) :=
  [(request.messageType = .request, .eWrongMessageType),
    (request.protocolVersion = server.protocolVersion, .eWrongProtocolVersion),
    (request.interfaceVersion = server.interfaceVersion, .eWrongInterfaceVersion),
    (server.services.contains (serviceOf request.messageId), .eUnknownService),
    ((server.handlers request.messageId).isSome, .eUnknownMethod)]

def firstFailing (server : RpcServer σ) (request : SomeIpRpcMessage) : Option SomeIpReturnCode :=
  ((server.checks request).find? (fun check => !check.1)).map Prod.snd

/-- The response with this code and this output. -/
def responseWith (server : RpcServer σ) (request : SomeIpRpcMessage) (returnCode : SomeIpReturnCode)
    (output : Bytes) : SomeIpRpcMessage :=
  { messageId := request.messageId, clientId := request.clientId, sessionId := request.sessionId,
    protocolVersion := server.protocolVersion, interfaceVersion := server.interfaceVersion,
    messageType := if returnCode = .eOK then .response else .error, returnCode, rpcPayload := output }

def Responds (server : RpcServer σ) (request : SomeIpRpcMessage) (invoked : Invoked σ)
    (returnCode : SomeIpReturnCode) (output : Bytes) : Prop :=
  invoked.result = .ok true ∧
    SomeIpRpcMessage.deserialize invoked.responsePayload = .ok (server.responseWith request returnCode output)

/-- The handler is called once, with the payload of the request, when no check fails, and else not at
all. A handler that throws leaves no response. -/
structure Classifies (server : RpcServer σ) (request : SomeIpRpcMessage) (s : σ) (invoked : Invoked σ) :
    Prop where
  refused : ∀ returnCode, server.firstFailing request = some returnCode →
    invoked.calls = [] ∧ server.Responds request invoked returnCode []
  handled : server.firstFailing request = none → ∃ handler,
    server.handlers request.messageId = some handler ∧
    invoked.calls = [⟨request.messageId, request.rpcPayload, (handler request.rpcPayload s).1⟩] ∧
    ∀ handled output, (handler request.rpcPayload s).1 = .ok (handled, output) →
      output.length + 8 < 2 ^ 32 →
        server.Responds request invoked (if handled then .eOK else .eNotOk) output

variable {server : RpcServer σ} {request : SomeIpRpcMessage}

/-- `validate` goes through all the checks but the last one. -/
theorem firstFailing_eq : server.firstFailing request =
    if server.validate request ≠ .eOK then some (server.validate request)
    else if (server.handlers request.messageId).isSome then none else some .eUnknownMethod := by
  unfold validate firstFailing checks
  by_cases type : request.messageType = .request
  case neg => simp [type, SomeIpReturnCode.eWrongMessageType, SomeIpReturnCode.eOK]
  by_cases protocol : request.protocolVersion = server.protocolVersion
  case neg => simp [type, protocol, SomeIpReturnCode.eWrongProtocolVersion, SomeIpReturnCode.eOK]
  by_cases interface : request.interfaceVersion = server.interfaceVersion
  case neg => simp [type, protocol, interface, SomeIpReturnCode.eWrongInterfaceVersion, SomeIpReturnCode.eOK]
  by_cases service : serviceOf request.messageId ∈ server.services
  case neg => simp [type, protocol, interface, service, SomeIpReturnCode.eUnknownService, SomeIpReturnCode.eOK]
  cases server.handlers request.messageId with
  | none => simp [type, protocol, interface, service]
  | some _ => simp [type, protocol, interface, service]

theorem getResponsePayload_eq (returnCode : SomeIpReturnCode) (output : Bytes) :
    server.getResponsePayload request returnCode output =
      .ok (server.responseWith request returnCode output).payload := by
  unfold getResponsePayload
  rw [SomeIpRpcMessage.makeResponse_eq]
  rfl

/-- A response decodes to itself when its output fits the length field. -/
theorem responds_of_payload {invoked : Invoked σ} {returnCode : SomeIpReturnCode} {output : Bytes}
    (short : output.length + 8 < 2 ^ 32) (result : invoked.result = .ok true)
    (payload : invoked.responsePayload = (server.responseWith request returnCode output).payload) :
    server.Responds request invoked returnCode output := by
  refine ⟨result, ?_⟩
  rw [payload]
  exact SomeIpRpcMessage.deserialize_payload _ short

/-- A request that a check refuses is answered with the code of the check. -/
theorem respond_refused {returnCode : SomeIpReturnCode} (failing : server.firstFailing request = some returnCode)
    (s : σ) :
    server.respond request s = (.ok (server.responseWith request returnCode []).payload, s, []) := by
  rw [firstFailing_eq] at failing
  unfold respond
  by_cases invalid : server.validate request ≠ .eOK
  · rw [if_pos invalid] at failing
    cases failing
    rw [if_pos invalid, getResponsePayload_eq]
  · rw [if_neg invalid] at failing ⊢
    cases method : server.handlers request.messageId with
    | none =>
      rw [method] at failing
      cases failing
      rw [getResponsePayload_eq]
    | some handler =>
      rw [method] at failing
      cases failing

theorem respond_handled (passing : server.firstFailing request = none) (s : σ) :
    ∃ handler, server.handlers request.messageId = some handler ∧
      server.respond request s =
        ((handler request.rpcPayload s).1.map fun answer =>
            (server.responseWith request (if answer.1 then .eOK else .eNotOk) answer.2).payload,
          (handler request.rpcPayload s).2,
          [⟨request.messageId, request.rpcPayload, (handler request.rpcPayload s).1⟩]) := by
  rw [firstFailing_eq] at passing
  by_cases invalid : server.validate request ≠ .eOK
  · rw [if_pos invalid] at passing
    cases passing
  · rw [if_neg invalid] at passing
    cases method : server.handlers request.messageId with
    | none =>
      rw [method] at passing
      cases passing
    | some handler =>
      refine ⟨handler, rfl, ?_⟩
      unfold respond
      rw [if_neg invalid, method]
      cases answered : (handler request.rpcPayload s).1 with
      | error fault => simp [answered, bind, Except.bind, Except.map]
      | ok answer => simp [answered, bind, Except.bind, Except.map, getResponsePayload_eq]

/-- Whatever becomes of the response, the calls of handlers are those made. -/
theorem tryInvokeHandler_calls {p : Bytes} (decoded : SomeIpRpcMessage.deserialize p = .ok request)
    (responsePayload : Bytes) (s : σ) :
    (server.tryInvokeHandler p responsePayload s).calls = (server.respond request s).2.2 := by
  unfold tryInvokeHandler
  rw [decoded]
  rcases responded : server.respond request s with ⟨response, s', calls⟩
  simp only [responded]
  cases response with
  | ok payload => rfl
  | error fault =>
    cases fault with
    | thrown e => cases e <;> rfl
    | undefined | diverged => rfl

theorem classifies_tryInvokeHandler {p : Bytes} (decoded : SomeIpRpcMessage.deserialize p = .ok request)
    (responsePayload : Bytes) (s : σ) :
    server.Classifies request s (server.tryInvokeHandler p responsePayload s) := by
  have calls : _ = (server.respond request s).2.2 := tryInvokeHandler_calls decoded responsePayload s
  constructor
  case refused =>
    intro returnCode failing
    have answer := respond_refused failing s
    refine ⟨calls.trans (congrArg (·.2.2) answer), ?_⟩
    unfold tryInvokeHandler
    simp only [decoded, answer]
    exact responds_of_payload (by decide) rfl rfl
  case handled =>
    intro passing
    obtain ⟨handler, method, answer⟩ := respond_handled passing s
    refine ⟨handler, method, calls.trans (congrArg (·.2.2) answer), ?_⟩
    intro handled output answered short
    unfold tryInvokeHandler
    simp only [decoded, answer, answered, Except.map]
    exact responds_of_payload short rfl rfl

/-- A well-formed request is answered as its checks and its handler say. -/
theorem classifies_wellFormed (server : RpcServer σ) {p : Bytes} (wellFormed : SomeIpRpcMessage.WellFormed p)
    (responsePayload : Bytes) (s : σ) :
    ∃ request, SomeIpRpcMessage.deserialize p = .ok request ∧
      request.rpcPayload = (p.drop 16).take (SomeIpRpcMessage.lengthField p - 8) ∧
      server.Classifies request s (server.tryInvokeHandler p responsePayload s) := by
  obtain ⟨base, -, decoded⟩ := SomeIpRpcMessage.deserialize_wellFormed wellFormed
  exact ⟨_, decoded, rfl, classifies_tryInvokeHandler decoded responsePayload s⟩

theorem classifies_wellFormed_sample :
    let server : RpcServer ℕ := ⟨1, 1, [1], fun _ => some fun rpcPayload n => (.ok (true, rpcPayload), n + 1)⟩
    ∃ request, SomeIpRpcMessage.deserialize [0, 1, 0, 2, 0, 0, 0, 9, 0, 5, 0, 1, 1, 1, 0, 0, 7] = .ok request ∧
      request.rpcPayload = [7] ∧
      server.Classifies request 0 (server.tryInvokeHandler [0, 1, 0, 2, 0, 0, 0, 9, 0, 5, 0, 1, 1, 1, 0, 0, 7] [] 0) :=
  classifies_wellFormed _ (by decide) [] 0

/-! ## An output that is too long -/

/-- A well-formed request for method 2 of service 1. -/
def plainRequest : Bytes := [0, 1, 0, 2, 0, 0, 0, 8, 0, 5, 0, 1, 1, 1, 0, 0]

theorem not_deserialize_payload {message : SomeIpRpcMessage} (long : ¬ message.Fits) :
    SomeIpRpcMessage.deserialize message.payload ≠ .ok message := by
  intro decoded
  have bound : SomeIpRpcMessage.lengthField message.payload < 2 ^ 32 := by
    unfold SomeIpRpcMessage.lengthField
    split
    next word _ _ => exact word.toNat_lt
    next => decide
  by_cases wellFormed : SomeIpRpcMessage.WellFormed message.payload
  · obtain ⟨base, -, decoded'⟩ := SomeIpRpcMessage.deserialize_wellFormed wellFormed
    rw [decoded] at decoded'
    have rpcPayload : message.rpcPayload =
        (message.payload.drop 16).take (SomeIpRpcMessage.lengthField message.payload - 8) :=
      congrArg SomeIpRpcMessage.rpcPayload (Except.ok.inj decoded')
    have shorter := List.length_take_le (SomeIpRpcMessage.lengthField message.payload - 8) (message.payload.drop 16)
    rw [← rpcPayload] at shorter
    unfold SomeIpRpcMessage.Fits at long
    omega
  · have length := message.payload_length
    rw [SomeIpRpcMessage.deserialize_undefined (by omega) wellFormed] at decoded
    cases decoded

/-- Its handler answers every request with this output. -/
def answering (output : Bytes) : RpcServer Unit := ⟨1, 1, [1], fun _ => some fun _ s => (.ok (true, output), s)⟩

def plainMessage : SomeIpRpcMessage := ⟨⟨0x10002, 5, 1, 1, 1, .request, .eOK⟩, []⟩

theorem deserialize_plainRequest : SomeIpRpcMessage.deserialize plainRequest = .ok plainMessage := by decide

theorem answering_passes (output : Bytes) : (answering output).firstFailing plainMessage = none := rfl

theorem answering_answers (output : Bytes) :
    (answering output).tryInvokeHandler plainRequest [] () =
      ⟨.ok true, ((answering output).responseWith plainMessage .eOK output).payload, (),
        [⟨plainMessage.messageId, plainMessage.rpcPayload, .ok (true, output)⟩]⟩ := by
  obtain ⟨handler, method, answer⟩ := respond_handled (answering_passes output) ()
  cases method
  unfold tryInvokeHandler
  simp only [deserialize_plainRequest, answer, Except.map, if_true]

/-- The handler runs, and the response does not decode to its output. -/
theorem answering_long {output : Bytes} (long : 2 ^ 32 ≤ output.length + 8) :
    ((answering output).tryInvokeHandler plainRequest [] ()).calls =
        [⟨plainMessage.messageId, plainMessage.rpcPayload, .ok (true, output)⟩] ∧
      ¬ (answering output).Responds plainMessage ((answering output).tryInvokeHandler plainRequest [] ())
        .eOK output := by
  refine ⟨by rw [answering_answers], ?_⟩
  rintro ⟨-, decoded⟩
  rw [answering_answers] at decoded
  exact not_deserialize_payload (fun fits => absurd fits (Nat.not_lt.mpr long)) decoded

theorem not_always_responds :
    SomeIpRpcMessage.WellFormed plainRequest ∧ SomeIpRpcMessage.deserialize plainRequest = .ok plainMessage ∧
      ((answering (List.replicate (2 ^ 32) 0)).tryInvokeHandler plainRequest [] ()).calls =
        [⟨plainMessage.messageId, plainMessage.rpcPayload, .ok (true, List.replicate (2 ^ 32) 0)⟩] ∧
      ¬ (answering (List.replicate (2 ^ 32) 0)).Responds plainMessage
        ((answering (List.replicate (2 ^ 32) 0)).tryInvokeHandler plainRequest [] ()) .eOK
        (List.replicate (2 ^ 32) 0) := by
  have long : 2 ^ 32 ≤ (List.replicate (2 ^ 32) (0 : UInt8)).length + 8 := by
    rw [List.length_replicate]
    decide
  exact ⟨by decide, deserialize_plainRequest, answering_long long⟩

end RpcServer
end AdaptiveAutosar.Com
