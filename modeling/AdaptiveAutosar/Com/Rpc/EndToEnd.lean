import Mathlib.Data.List.Forall2
import AdaptiveAutosar.Com.Rpc.Socket

/-! # One RPC connection from end to end

A client and a server joined by two byte streams. The application calls `Send` at any time; the
sockets send and receive at any time, and how many bytes a receive gets is not determined. Writing
to a stream writes everything and the sending queues are never locked by someone else.

At every moment the requests are those the server has handled followed by those in its buffer, on
the wire and in the client's queue, and likewise for the responses on their way back.
-/

namespace AdaptiveAutosar.Com
open Foundations Foundations.Framing
set_option autoImplicit false

structure Link (σ τ : Type) where
  client : Calling τ
  server : Serving σ
  toServer : Bytes
  toClient : Bytes
  requests : List SomeIpRpcMessage

inductive LinkAction where
  | send (call : RpcCall)
  | clientSend
  | serverReceive (n : ℕ)
  | serverSend
  | clientReceive (n : ℕ)
  deriving DecidableEq, Repr

namespace LinkAction

def call? : LinkAction → Option RpcCall
  | send call => some call
  | _ => none

end LinkAction

def cBufferSize : ℕ := 65536

namespace Link
variable {σ τ : Type}

/-- A receive of nothing does not happen: the connection is not closed here. -/
def act (link : Link σ τ) : LinkAction → Outcome (Link σ τ)
  | .send call => do
    let request ← link.client.socket.request call
    let client ← link.client.send call true
    pure { link with client, requests := link.requests ++ [request] }
  | .clientSend =>
    let (client, sent) := link.client.onSend true
    .ok { link with client, toServer := link.toServer ++ sent }
  | .serverReceive n =>
    let received := link.toServer.take (min n cBufferSize)
    if received = [] then .ok link
    else do
      let server ← link.server.onReceive received (fun _ => true)
      pure { link with server, toServer := link.toServer.drop (min n cBufferSize) }
  | .serverSend =>
    let (server, sent) := link.server.onSend true
    .ok { link with server, toClient := link.toClient ++ sent }
  | .clientReceive n =>
    let received := link.toClient.take (min n cBufferSize)
    if received = [] then .ok link
    else do
      let client ← link.client.onReceive received
      pure { link with client, toClient := link.toClient.drop (min n cBufferSize) }

def run (link : Link σ τ) (actions : List LinkAction) : Outcome (Link σ τ) := actions.foldlM act link

/-- Nothing is queued or on its way. -/
def Drained (link : Link σ τ) : Prop :=
  link.client.socket.sendingQueue = [] ∧ link.toServer = [] ∧
    link.server.socket.sendingQueue = [] ∧ link.toClient = []

/-- A connection just made between a client and a server that have not been used. -/
structure Fresh (link : Link σ τ) : Prop where
  clientQueue : link.client.socket.sendingQueue = []
  clientBuffer : link.client.socket.receiveBuffer = []
  deliveries : link.client.deliveries = []
  serverQueue : link.server.socket.sendingQueue = []
  serverBuffer : link.server.socket.receiveBuffer = []
  calls : link.server.calls = []
  toServer : link.toServer = []
  toClient : link.toClient = []
  requests : link.requests = []

/-- The versions agree and the handlers of the application return, with responses that fit. -/
structure Serviceable (client : RpcClient τ) (server : RpcServer σ) : Prop where
  protocolVersion : client.protocolVersion = server.protocolVersion
  interfaceVersion : client.interfaceVersion = server.interfaceVersion
  responds : ∀ id handler, server.handlers id = some handler → ∀ p s, ∃ handled pdu s',
    handler p s = (.ok (handled, pdu), s') ∧ pdu.length + 8 < 2 ^ 32
  returns : ∀ id handler, client.handlers id = some handler → ∀ m t, (handler m t).1 = .ok ()

/-- A call of a method the server has, with a payload that fits. -/
structure Registered (server : RpcServer σ) (call : RpcCall) : Prop where
  service : call.serviceId ∈ server.services
  method : (server.handlers (messageIdOf call.serviceId call.methodId)).isSome = true
  fits : call.rpcPayload.length + 8 < 2 ^ 32

/-! ## What is expected -/

/-- The response a handler's answer to a request becomes. -/
def responseOf (server : RpcServer σ) (exchange : SomeIpRpcMessage × Invocation) :
    Option SomeIpRpcMessage :=
  match exchange.2.answer with
  | .ok (handled, pdu) => some (server.responseTo exchange.1 handled pdu)
  | .error _ => none

/-- The responses to the requests handled so far, in order. -/
def responses (server : RpcServer σ) (requests : List SomeIpRpcMessage) (calls : List Invocation) :
    List SomeIpRpcMessage := (requests.zip calls).filterMap (responseOf server)

/-- The messages the client has a handler for. -/
def received (client : RpcClient τ) (messages : List SomeIpRpcMessage) : List SomeIpRpcMessage :=
  messages.filter (fun message => (client.handlers message.messageId).isSome)

/-- The call of a handler is the one the request asks for, and it has answered. -/
def Answers (request : SomeIpRpcMessage) (call : Invocation) : Prop :=
  call.messageId = request.messageId ∧ call.rpcPayload = request.rpcPayload ∧
    ∃ handled pdu, call.answer = .ok (handled, pdu) ∧ pdu.length + 8 < 2 ^ 32

structure Proper (server : RpcServer σ) (request : SomeIpRpcMessage) : Prop where
  fits : request.Fits
  valid : server.validate request = .eOK
  method : (server.handlers request.messageId).isSome = true

theorem responses_cons {server : RpcServer σ} {request : SomeIpRpcMessage} {call : Invocation}
    {handled : Bool} {pdu : Bytes} (h : call.answer = .ok (handled, pdu))
    (requests : List SomeIpRpcMessage) (calls : List Invocation) :
    responses server (request :: requests) (call :: calls) =
      server.responseTo request handled pdu :: responses server requests calls := by
  unfold responses
  rw [List.zip_cons_cons, List.filterMap_cons]
  simp only [responseOf, h]

theorem responses_append {server : RpcServer σ} {done : List SomeIpRpcMessage}
    {calls : List Invocation} (h : List.Forall₂ Answers done calls) (requests : List SomeIpRpcMessage)
    (calls' : List Invocation) :
    responses server (done ++ requests) (calls ++ calls') =
      responses server done calls ++ responses server requests calls' := by
  unfold responses
  rw [List.zip_append h.length_eq, List.filterMap_append]

theorem responses_fit {server : RpcServer σ} {done : List SomeIpRpcMessage} {calls : List Invocation}
    (h : List.Forall₂ Answers done calls) : ∀ r ∈ responses server done calls, r.Fits := by
  induction h with
  | nil => simp [responses]
  | @cons request call done calls ha h ih =>
    obtain ⟨-, -, handled, pdu, hanswer, hfits⟩ := ha
    rw [responses_cons hanswer]
    intro r hr
    rcases List.mem_cons.mp hr with rfl | hr
    · exact hfits
    · exact ih r hr

/-! ## The two receive loops -/

theorem handleMessage_request {serving : Serving σ} {request : SomeIpRpcMessage}
    (hreq : Proper serving.socket.toRpcServer request)
    (hresponds : ∀ id handler, serving.socket.handlers id = some handler → ∀ p s, ∃ handled pdu s',
      handler p s = (.ok (handled, pdu), s') ∧ pdu.length + 8 < 2 ^ 32) :
    ∃ serving' call handled pdu, call.answer = .ok (handled, pdu) ∧ Answers request call ∧
      serving.handleMessage (fun _ => true) request.payload = .ok serving' ∧
      serving'.calls = serving.calls ++ [call] ∧
      serving'.socket = { serving.socket with
        sendingQueue := serving.socket.sendingQueue ++
          [(serving.socket.toRpcServer.responseTo request handled pdu).payload] } := by
  obtain ⟨handler, hhandler⟩ := Option.isSome_iff_exists.mp hreq.method
  obtain ⟨handled, pdu, s', hcall, hfits⟩ :=
    hresponds request.messageId handler hhandler request.rpcPayload serving.state
  have hinvoke := RpcServer.tryInvokeHandler_request serving.socket.toRpcServer request handler
    hreq.fits hreq.valid hhandler serving.state s' handled pdu [] hcall
  have hmessage : serving.handleMessage (fun _ => true) request.payload = .ok { serving with
      socket := { serving.socket with
        sendingQueue := serving.socket.sendingQueue ++
          [(serving.socket.toRpcServer.responseTo request handled pdu).payload] }
      state := s'
      calls := serving.calls ++ [⟨request.messageId, request.rpcPayload, .ok (handled, pdu)⟩]
      dispatched := serving.dispatched ++ [request.payload]
      answered := serving.answered ++
        [(serving.socket.toRpcServer.responseTo request handled pdu).payload]
      enqueues := serving.enqueues + 1 } := by
    simp only [Serving.handleMessage, hinvoke, if_true]
    rfl
  exact ⟨_, ⟨request.messageId, request.rpcPayload, .ok (handled, pdu)⟩, handled, pdu, rfl,
    ⟨rfl, rfl, handled, pdu, rfl, hfits⟩, hmessage, rfl, rfl⟩

theorem handleMessages_requests {server : RpcServer σ} (requests : List SomeIpRpcMessage)
    (hproper : ∀ m ∈ requests, Proper server m)
    (hresponds : ∀ id handler, server.handlers id = some handler → ∀ p s, ∃ handled pdu s',
      handler p s = (.ok (handled, pdu), s') ∧ pdu.length + 8 < 2 ^ 32)
    (serving : Serving σ) (hserver : serving.socket.toRpcServer = server) :
    ∃ serving' calls, List.Forall₂ Answers requests calls ∧
      (requests.map SomeIpRpcMessage.payload).foldlM (Serving.handleMessage (fun _ => true)) serving =
        .ok serving' ∧
      serving'.calls = serving.calls ++ calls ∧
      serving'.socket = { serving.socket with
        sendingQueue := serving.socket.sendingQueue ++
          (responses server requests calls).map SomeIpRpcMessage.payload } := by
  induction requests generalizing serving with
  | nil =>
    refine ⟨serving, [], .nil, rfl, ?_, ?_⟩
    · rw [List.append_nil]
    · show serving.socket = { serving.socket with sendingQueue := serving.socket.sendingQueue ++ [] }
      rw [List.append_nil]
  | cons request requests ih =>
    subst hserver
    obtain ⟨next, call, handled, pdu, hanswer, hcall, hstep, hcalls, hsocket⟩ :=
      handleMessage_request (hproper request List.mem_cons_self) hresponds
    have hnext : next.socket.toRpcServer = serving.socket.toRpcServer := by rw [hsocket]
    obtain ⟨serving', calls, hall, hfold, hcalls', hsocket'⟩ :=
      ih (fun m hm => hproper m (List.mem_cons_of_mem _ hm)) next hnext
    refine ⟨serving', call :: calls, .cons hcall hall, ?_, ?_, ?_⟩
    · rw [List.map_cons, List.foldlM_cons, hstep]
      exact hfold
    · rw [hcalls', hcalls, List.append_assoc]
      rfl
    · rw [hsocket', hsocket, responses_cons hanswer, List.map_cons, List.append_assoc]
      rfl

theorem handleMessage_response {calling : Calling τ} {message : SomeIpRpcMessage}
    (hfits : message.Fits)
    (hreturns : ∀ id handler, calling.socket.handlers id = some handler → ∀ m t,
      (handler m t).1 = .ok ()) :
    ∃ calling', calling.handleMessage message.payload = .ok calling' ∧
      calling'.socket = calling.socket ∧
      calling'.deliveries = calling.deliveries ++ received calling.socket.toRpcClient [message] := by
  obtain ⟨t', hinvoke⟩ := RpcClient.invokeHandler_message calling.socket.toRpcClient message hfits
    calling.state hreturns
  refine ⟨{ calling with
    state := t'
    deliveries := calling.deliveries ++ received calling.socket.toRpcClient [message] }, ?_, rfl, rfl⟩
  simp only [Calling.handleMessage, hinvoke]
  rfl

theorem handleMessages_responses (messages : List SomeIpRpcMessage) (hfit : ∀ m ∈ messages, m.Fits)
    (calling : Calling τ)
    (hreturns : ∀ id handler, calling.socket.handlers id = some handler → ∀ m t,
      (handler m t).1 = .ok ()) :
    ∃ calling', (messages.map SomeIpRpcMessage.payload).foldlM Calling.handleMessage calling =
        .ok calling' ∧
      calling'.socket = calling.socket ∧
      calling'.deliveries = calling.deliveries ++ received calling.socket.toRpcClient messages := by
  induction messages generalizing calling with
  | nil =>
    refine ⟨calling, rfl, rfl, ?_⟩
    simp [received]
  | cons message messages ih =>
    obtain ⟨next, hstep, hsocket, hdeliveries⟩ :=
      handleMessage_response (hfit message List.mem_cons_self) hreturns
    rw [← hsocket] at hreturns
    obtain ⟨calling', hfold, hsocket', hdeliveries'⟩ :=
      ih (fun m hm => hfit m (List.mem_cons_of_mem _ hm)) next hreturns
    refine ⟨calling', ?_, hsocket'.trans hsocket, ?_⟩
    · rw [List.map_cons, List.foldlM_cons, hstep]
      exact hfold
    · have happend : received calling.socket.toRpcClient (message :: messages) =
          received calling.socket.toRpcClient [message] ++
            received calling.socket.toRpcClient messages := List.filter_append [message] messages
      rw [hdeliveries', hdeliveries, hsocket, List.append_assoc, happend]

/-! ## The invariant -/

/-- `done` are the requests the server has handled, `rest` those on their way; `front` are the
responses the client has handled, `back` those on their way. -/
structure Exact (client : RpcClient τ) (server : RpcServer σ) (link : Link σ τ)
    (done rest front back : List SomeIpRpcMessage) : Prop where
  server_eq : link.server.socket.toRpcServer = server
  protocolVersion_eq : link.client.socket.protocolVersion = client.protocolVersion
  interfaceVersion_eq : link.client.socket.interfaceVersion = client.interfaceVersion
  handlers_eq : link.client.socket.handlers = client.handlers
  requests_eq : link.requests = done ++ rest
  proper : ∀ m ∈ rest, Proper server m
  toServer : InTransit someIp link.server.socket.receiveBuffer link.toServer
    link.client.socket.sendingQueue (rest.map SomeIpRpcMessage.payload)
  calls : List.Forall₂ Answers done link.server.calls
  responses_eq : responses server done link.server.calls = front ++ back
  deliveries_eq : link.client.deliveries = received client front
  toClient : InTransit someIp link.client.socket.receiveBuffer link.toClient
    link.server.socket.sendingQueue (back.map SomeIpRpcMessage.payload)

/-- Frames that begin the payloads of some messages are the payloads of the first of them. -/
theorem messages_of_frames {messages : List SomeIpRpcMessage} {fs gs : List Bytes}
    (h : messages.map SomeIpRpcMessage.payload = fs ++ gs) :
    ∃ first second, messages = first ++ second ∧ fs = first.map SomeIpRpcMessage.payload ∧
      gs = second.map SomeIpRpcMessage.payload := by
  obtain ⟨first, second, hm, h1, h2⟩ := List.map_eq_append_iff.mp h
  exact ⟨first, second, hm, h1.symm, h2.symm⟩

theorem isFrame_payloads {messages : List SomeIpRpcMessage} (h : ∀ m ∈ messages, m.Fits) :
    ∀ f ∈ messages.map SomeIpRpcMessage.payload, someIp.IsFrame f := by
  intro f hf
  obtain ⟨m, hm, rfl⟩ := List.mem_map.mp hf
  exact isFrame_payload m (h m hm)

section Steps
variable {client : RpcClient τ} {server : RpcServer σ} {link : Link σ τ}
  {done rest front back : List SomeIpRpcMessage}

theorem act_send (h : Exact client server link done rest front back)
    (hserviceable : Serviceable client server) {call : RpcCall} (hcall : Registered server call) :
    ∃ link' request, link.act (.send call) = .ok link' ∧
      request.messageId = messageIdOf call.serviceId call.methodId ∧
      request.clientId = call.clientId ∧ request.rpcPayload = call.rpcPayload ∧
      Exact client server link' done (rest ++ [request]) front back := by
  obtain ⟨request, hrequest⟩ : ∃ request, link.client.socket.request call = .ok request := ⟨_, rfl⟩
  have heq := hrequest
  rw [RpcClient.request_eq] at heq
  have hproper : Proper server request := by
    cases heq
    refine ⟨hcall.fits, ?_, hcall.method⟩
    have hp := h.protocolVersion_eq.trans hserviceable.protocolVersion
    have hi := h.interfaceVersion_eq.trans hserviceable.interfaceVersion
    simp only [RpcServer.validate, hp, hi, serviceOf_messageIdOf, hcall.service, ne_eq, not_true,
      if_false]
  have hsend : ∃ client', link.client.send call true = .ok client' ∧
      client'.socket.sendingQueue = link.client.socket.sendingQueue ++ [request.payload] ∧
      client'.socket.protocolVersion = link.client.socket.protocolVersion ∧
      client'.socket.interfaceVersion = link.client.socket.interfaceVersion ∧
      client'.socket.handlers = link.client.socket.handlers ∧
      client'.socket.receiveBuffer = link.client.socket.receiveBuffer ∧
      client'.deliveries = link.client.deliveries := by
    unfold Calling.send RpcClient.send
    rw [hrequest]
    exact ⟨_, rfl, rfl, rfl, rfl, rfl, rfl, rfl⟩
  obtain ⟨client', hsend, hqueue, hp, hi, hhandlers, hbuffer, hdeliveries⟩ := hsend
  refine ⟨{ link with client := client', requests := link.requests ++ [request] }, request, ?_, ?_, ?_,
    ?_, ?_⟩
  · simp only [act, hrequest, bind, Except.bind, hsend]
    rfl
  · cases heq
    rfl
  · cases heq
    rfl
  · cases heq
    rfl
  · have hframes : ∀ f ∈ [request].map SomeIpRpcMessage.payload, someIp.IsFrame f := by
      refine isFrame_payloads fun m hm => ?_
      rw [List.mem_singleton.mp hm]
      exact hproper.fits
    have htransit := h.toServer.enqueue hframes
    refine { h with
      protocolVersion_eq := hp.trans h.protocolVersion_eq
      interfaceVersion_eq := hi.trans h.interfaceVersion_eq
      handlers_eq := hhandlers.trans h.handlers_eq
      requests_eq := ?_
      proper := ?_
      toServer := ?_
      deliveries_eq := hdeliveries.trans h.deliveries_eq
      toClient := ?_ }
    · rw [h.requests_eq, List.append_assoc]
    · intro m hm
      rcases List.mem_append.mp hm with hm | hm
      · exact h.proper m hm
      · rw [List.mem_singleton.mp hm]
        exact hproper
    · rw [List.map_append, hqueue]
      exact htransit
    · rw [hbuffer]
      exact h.toClient

theorem act_clientSend (h : Exact client server link done rest front back) :
    ∃ link', link.act .clientSend = .ok link' ∧ Exact client server link' done rest front back ∧
      link'.client.socket.sendingQueue = link.client.socket.sendingQueue.tail ∧
      link'.server = link.server ∧ link'.toClient = link.toClient ∧ link'.requests = link.requests := by
  have hstream := h.toServer
  cases hq : link.client.socket.sendingQueue with
  | nil =>
    have hround : link.client.onSend true = (link.client, []) := by
      simp only [Calling.onSend, sendRound, ConcurrentQueue.tryDequeue, hq]
      rw [← hq]
    refine ⟨link, ?_, h, hq, rfl, rfl, rfl⟩
    simp only [act, hround, List.append_nil]
  | cons payload queue =>
    have hround : link.client.onSend true = ({ link.client with
        socket := { link.client.socket with sendingQueue := queue } }, payload) := by
      simp only [Calling.onSend, sendRound, ConcurrentQueue.tryDequeue, hq, if_true]
    rw [hq] at hstream
    refine ⟨{ link with
      client := { link.client with socket := { link.client.socket with sendingQueue := queue } }
      toServer := link.toServer ++ payload }, ?_, ?_, rfl, rfl, rfl, rfl⟩
    · simp only [act, hround]
    · exact { h with toServer := hstream.send }

theorem act_serverSend (h : Exact client server link done rest front back) :
    ∃ link', link.act .serverSend = .ok link' ∧ Exact client server link' done rest front back ∧
      link'.server.socket.sendingQueue = link.server.socket.sendingQueue.tail ∧
      link'.client = link.client ∧ link'.toServer = link.toServer ∧ link'.requests = link.requests := by
  have hstream := h.toClient
  cases hq : link.server.socket.sendingQueue with
  | nil =>
    have hround : link.server.onSend true = (link.server, []) := by
      simp only [Serving.onSend, sendRound, ConcurrentQueue.tryDequeue, hq]
      rw [← hq]
    refine ⟨link, ?_, h, hq, rfl, rfl, rfl⟩
    simp only [act, hround, List.append_nil]
  | cons payload queue =>
    have hround : link.server.onSend true = ({ link.server with
        socket := { link.server.socket with sendingQueue := queue } }, payload) := by
      simp only [Serving.onSend, sendRound, ConcurrentQueue.tryDequeue, hq, if_true]
    rw [hq] at hstream
    refine ⟨{ link with
      server := { link.server with socket := { link.server.socket with sendingQueue := queue } }
      toClient := link.toClient ++ payload }, ?_, ?_, rfl, rfl, rfl, rfl⟩
    · simp only [act, hround]
    · exact { h with toClient := hstream.send }

theorem act_serverReceive (h : Exact client server link done rest front back)
    (hserviceable : Serviceable client server) (n : ℕ) :
    ∃ link' done' rest' back', link.act (.serverReceive n) = .ok link' ∧
      Exact client server link' done' rest' front back' ∧ link'.client = link.client ∧
      link'.toServer = link.toServer.drop (min n cBufferSize) ∧ link'.requests = link.requests := by
  by_cases hnil : link.toServer.take (min n cBufferSize) = []
  · refine ⟨link, done, rest, back, ?_, h, rfl, ?_, rfl⟩
    · simp only [act, hnil, if_true]
    · have hsplit := List.take_append_drop (min n cBufferSize) link.toServer
      rw [hnil, List.nil_append] at hsplit
      exact hsplit.symm
  · obtain ⟨handled, left, hframes, hcut, htransit⟩ := h.toServer.receive (min n cBufferSize)
    obtain ⟨first, second, hrest, hfirst, hsecond⟩ := messages_of_frames hframes
    obtain ⟨serving, calls, hall, hfold, hcalls, hsocket⟩ := handleMessages_requests first
      (fun m hm => h.proper m (by rw [hrest]; exact List.mem_append_left _ hm))
      hserviceable.responds link.server h.server_eq
    obtain ⟨buffer, hbuffer⟩ : ∃ buffer, buffer = (someIp.split (link.server.socket.receiveBuffer ++
      link.toServer.take (min n cBufferSize))).2 := ⟨_, rfl⟩
    have hreceive : link.server.onReceive (link.toServer.take (min n cBufferSize)) (fun _ => true) =
        .ok { serving with socket := { serving.socket with receiveBuffer := buffer } } := by
      unfold Serving.onReceive
      rw [if_neg hnil, Framing.drain_eq, hcut, hfirst, hfold, ← hbuffer]
      rfl
    rw [← hbuffer, hsecond] at htransit
    refine ⟨{ link with
      server := { serving with socket := { serving.socket with receiveBuffer := buffer } }
      toServer := link.toServer.drop (min n cBufferSize) }, done ++ first, second,
      back ++ responses server first calls, ?_, ?_, rfl, rfl, rfl⟩
    · simp only [act, hnil, if_false, hreceive]
      rfl
    · refine { h with
        server_eq := ?_
        requests_eq := ?_
        proper := ?_
        toServer := htransit
        calls := ?_
        responses_eq := ?_
        toClient := ?_ }
      · show serving.socket.toRpcServer = server
        rw [hsocket]
        exact h.server_eq
      · rw [h.requests_eq, hrest, List.append_assoc]
      · intro m hm
        exact h.proper m (by rw [hrest]; exact List.mem_append_right _ hm)
      · show List.Forall₂ Answers (done ++ first) serving.calls
        rw [hcalls]
        exact List.rel_append h.calls hall
      · show responses server (done ++ first) serving.calls = _
        rw [hcalls, responses_append h.calls, h.responses_eq, List.append_assoc]
      · show InTransit someIp link.client.socket.receiveBuffer link.toClient
          serving.socket.sendingQueue _
        rw [hsocket, List.map_append]
        exact h.toClient.enqueue (isFrame_payloads (responses_fit hall))

theorem act_clientReceive (h : Exact client server link done rest front back)
    (hserviceable : Serviceable client server) (n : ℕ) :
    ∃ link' front' back', link.act (.clientReceive n) = .ok link' ∧
      Exact client server link' done rest front' back' ∧ link'.server = link.server ∧
      link'.client.socket.sendingQueue = link.client.socket.sendingQueue ∧
      link'.toServer = link.toServer ∧
      link'.toClient = link.toClient.drop (min n cBufferSize) ∧ link'.requests = link.requests := by
  by_cases hnil : link.toClient.take (min n cBufferSize) = []
  · refine ⟨link, front, back, ?_, h, rfl, rfl, rfl, ?_, rfl⟩
    · simp only [act, hnil, if_true]
    · have hsplit := List.take_append_drop (min n cBufferSize) link.toClient
      rw [hnil, List.nil_append] at hsplit
      exact hsplit.symm
  · obtain ⟨handled, left, hframes, hcut, htransit⟩ := h.toClient.receive (min n cBufferSize)
    obtain ⟨first, second, hback, hfirst, hsecond⟩ := messages_of_frames hframes
    have hfit : ∀ m ∈ first, m.Fits := by
      intro m hm
      have hmem : m ∈ responses server done link.server.calls := by
        rw [h.responses_eq, hback]
        exact List.mem_append_right _ (List.mem_append_left _ hm)
      exact responses_fit h.calls m hmem
    have hreturns : ∀ id handler, link.client.socket.handlers id = some handler → ∀ m t,
        (handler m t).1 = .ok () := by
      rw [h.handlers_eq]
      exact hserviceable.returns
    obtain ⟨calling, hfold, hsocket, hdeliveries⟩ :=
      handleMessages_responses first hfit link.client hreturns
    obtain ⟨buffer, hbuffer⟩ : ∃ buffer, buffer = (someIp.split (link.client.socket.receiveBuffer ++
      link.toClient.take (min n cBufferSize))).2 := ⟨_, rfl⟩
    have hreceive : link.client.onReceive (link.toClient.take (min n cBufferSize)) =
        .ok { calling with socket := { calling.socket with receiveBuffer := buffer } } := by
      unfold Calling.onReceive
      rw [if_neg hnil, Framing.drain_eq, hcut, hfirst, hfold, ← hbuffer]
      rfl
    rw [← hbuffer, hsecond] at htransit
    refine ⟨{ link with
      client := { calling with socket := { calling.socket with receiveBuffer := buffer } }
      toClient := link.toClient.drop (min n cBufferSize) }, front ++ first, second, ?_, ?_, rfl, ?_, rfl,
      rfl, rfl⟩
    · simp only [act, hnil, if_false, hreceive]
      rfl
    · refine { h with
        protocolVersion_eq := ?_
        interfaceVersion_eq := ?_
        handlers_eq := ?_
        toServer := ?_
        responses_eq := ?_
        deliveries_eq := ?_
        toClient := htransit }
      · show calling.socket.protocolVersion = _
        rw [hsocket]
        exact h.protocolVersion_eq
      · show calling.socket.interfaceVersion = _
        rw [hsocket]
        exact h.interfaceVersion_eq
      · show calling.socket.handlers = _
        rw [hsocket]
        exact h.handlers_eq
      · show InTransit someIp link.server.socket.receiveBuffer link.toServer
          calling.socket.sendingQueue _
        rw [hsocket]
        exact h.toServer
      · rw [h.responses_eq, hback, List.append_assoc]
      · show calling.deliveries = _
        rw [hdeliveries, h.deliveries_eq]
        unfold received
        rw [List.filter_append, h.handlers_eq]
    · show calling.socket.sendingQueue = _
      rw [hsocket]

end Steps

/-! ## Whole runs -/

/-- What a request takes over from the call it is made for. -/
def RequestFor (call : RpcCall) (request : SomeIpRpcMessage) : Prop :=
  request.messageId = messageIdOf call.serviceId call.methodId ∧
    request.clientId = call.clientId ∧ request.rpcPayload = call.rpcPayload

/-- The invariant without its parts. -/
def Ongoing (client : RpcClient τ) (server : RpcServer σ) (link : Link σ τ) : Prop :=
  ∃ done rest front back, Exact client server link done rest front back

section Runs
variable {client : RpcClient τ} {server : RpcServer σ} {link : Link σ τ}

theorem act_ongoing (hserviceable : Serviceable client server) (h : Ongoing client server link)
    (action : LinkAction) (haction : ∀ call, action.call? = some call → Registered server call) :
    ∃ link' new, link.act action = .ok link' ∧ Ongoing client server link' ∧
      link'.requests = link.requests ++ new ∧
      List.Forall₂ RequestFor action.call?.toList new := by
  obtain ⟨done, rest, front, back, h⟩ := h
  cases action with
  | send call =>
    obtain ⟨link', request, hact, hid, hclient, hpayload, h'⟩ :=
      act_send h hserviceable (haction call rfl)
    refine ⟨link', [request], hact, ⟨_, _, _, _, h'⟩, ?_, ?_⟩
    · rw [h'.requests_eq, h.requests_eq, List.append_assoc]
    · exact .cons ⟨hid, hclient, hpayload⟩ .nil
  | clientSend =>
    obtain ⟨link', hact, h', -, -, -, hrequests⟩ := act_clientSend h
    exact ⟨link', [], hact, ⟨_, _, _, _, h'⟩, by rw [hrequests, List.append_nil], .nil⟩
  | serverReceive n =>
    obtain ⟨link', _, _, _, hact, h', -, -, hrequests⟩ := act_serverReceive h hserviceable n
    exact ⟨link', [], hact, ⟨_, _, _, _, h'⟩, by rw [hrequests, List.append_nil], .nil⟩
  | serverSend =>
    obtain ⟨link', hact, h', -, -, -, hrequests⟩ := act_serverSend h
    exact ⟨link', [], hact, ⟨_, _, _, _, h'⟩, by rw [hrequests, List.append_nil], .nil⟩
  | clientReceive n =>
    obtain ⟨link', _, _, hact, h', -, -, -, -, hrequests⟩ := act_clientReceive h hserviceable n
    exact ⟨link', [], hact, ⟨_, _, _, _, h'⟩, by rw [hrequests, List.append_nil], .nil⟩

theorem run_ongoing (hserviceable : Serviceable client server) (actions : List LinkAction)
    (hcalls : ∀ call ∈ actions.filterMap LinkAction.call?, Registered server call)
    (link : Link σ τ) (h : Ongoing client server link) :
    ∃ link' new, link.run actions = .ok link' ∧ Ongoing client server link' ∧
      link'.requests = link.requests ++ new ∧
      List.Forall₂ RequestFor (actions.filterMap LinkAction.call?) new := by
  induction actions generalizing link with
  | nil => exact ⟨link, [], rfl, h, by rw [List.append_nil], .nil⟩
  | cons action actions ih =>
    have hsplit : (action :: actions).filterMap LinkAction.call? =
        action.call?.toList ++ actions.filterMap LinkAction.call? := by
      rw [List.filterMap_cons]
      cases action.call? <;> rfl
    rw [hsplit] at hcalls ⊢
    obtain ⟨link1, new1, hact, h1, hreq1, hall1⟩ := act_ongoing hserviceable h action
      (fun call hc => hcalls call (List.mem_append_left _ (by rw [hc]; exact List.mem_cons_self)))
    obtain ⟨link2, new2, hrun, h2, hreq2, hall2⟩ := ih
      (fun call hc => hcalls call (List.mem_append_right _ hc)) link1 h1
    refine ⟨link2, new1 ++ new2, ?_, h2, ?_, List.rel_append hall1 hall2⟩
    · unfold run at hrun ⊢
      rw [List.foldlM_cons, hact]
      exact hrun
    · rw [hreq2, hreq1, List.append_assoc]

/-- A quantity that some action other than a call always lowers can be brought to zero. -/
theorem exists_run_zero {P : Link σ τ → Prop} (measure : Link σ τ → ℕ)
    (hstep : ∀ link, P link → measure link ≠ 0 → ∃ action link', action.call? = none ∧
      link.act action = .ok link' ∧ P link' ∧ measure link' < measure link)
    (link : Link σ τ) (h : P link) :
    ∃ actions link', actions.filterMap LinkAction.call? = [] ∧ link.run actions = .ok link' ∧
      P link' ∧ measure link' = 0 := by
  induction hn : measure link using Nat.strongRecOn generalizing link with
  | _ n ih =>
    by_cases h0 : measure link = 0
    · exact ⟨[], link, rfl, rfl, h, h0⟩
    · obtain ⟨action, link1, hcall, hact, h1, hlt⟩ := hstep link h h0
      rw [hn] at hlt
      obtain ⟨actions, link2, hcalls, hrun, h2, hzero⟩ := ih (measure link1) hlt link1 h1 rfl
      refine ⟨action :: actions, link2, ?_, ?_, h2, hzero⟩
      · rw [List.filterMap_cons, hcall]
        exact hcalls
      · unfold run at hrun ⊢
        rw [List.foldlM_cons, hact]
        exact hrun

theorem run_append {link link1 link2 : Link σ τ} {actions1 actions2 : List LinkAction}
    (h1 : link.run actions1 = .ok link1) (h2 : link1.run actions2 = .ok link2) :
    link.run (actions1 ++ actions2) = .ok link2 := by
  unfold run at h1 h2 ⊢
  rw [List.foldlM_append, h1]
  exact h2

theorem exists_drained (hserviceable : Serviceable client server) (h : Ongoing client server link) :
    ∃ actions link', actions.filterMap LinkAction.call? = [] ∧ link.run actions = .ok link' ∧
      link'.Drained := by
  have hpos : 0 < cBufferSize := by decide
  -- first the client's queue, then the wire to the server, and the same on the way back
  obtain ⟨actions1, link1, hn1, hrun1, h1, hq1⟩ := exists_run_zero (P := Ongoing client server)
    (fun link => link.client.socket.sendingQueue.length) (by
      rintro link ⟨done, rest, front, back, h⟩ hne
      obtain ⟨link', hact, h', hqueue, -⟩ := act_clientSend h
      refine ⟨.clientSend, link', rfl, hact, ⟨_, _, _, _, h'⟩, ?_⟩
      simp only [hqueue, List.length_tail]
      omega) link h
  obtain ⟨actions2, link2, hn2, hrun2, ⟨h2, hq2⟩, hw2⟩ := exists_run_zero
    (P := fun link => Ongoing client server link ∧ link.client.socket.sendingQueue = [])
    (fun link => link.toServer.length) (by
      rintro link ⟨⟨done, rest, front, back, h⟩, hq⟩ hne
      obtain ⟨link', _, _, _, hact, h', hclient, hwire, -⟩ :=
        act_serverReceive h hserviceable cBufferSize
      refine ⟨.serverReceive cBufferSize, link', rfl, hact, ⟨⟨_, _, _, _, h'⟩, ?_⟩, ?_⟩
      · rw [hclient]
        exact hq
      · simp only [hwire, List.length_drop, Nat.min_self]
        omega) link1 ⟨h1, List.length_eq_zero_iff.mp hq1⟩
  obtain ⟨actions3, link3, hn3, hrun3, ⟨h3, hq3, hw3⟩, hs3⟩ := exists_run_zero
    (P := fun link => Ongoing client server link ∧ link.client.socket.sendingQueue = [] ∧
      link.toServer = []) (fun link => link.server.socket.sendingQueue.length) (by
      rintro link ⟨⟨done, rest, front, back, h⟩, hq, hw⟩ hne
      obtain ⟨link', hact, h', hqueue, hclient, hwire, -⟩ := act_serverSend h
      refine ⟨.serverSend, link', rfl, hact, ⟨⟨_, _, _, _, h'⟩, ?_, ?_⟩, ?_⟩
      · rw [hclient]
        exact hq
      · rw [hwire]
        exact hw
      · simp only [hqueue, List.length_tail]
        omega) link2 ⟨h2, hq2, List.length_eq_zero_iff.mp hw2⟩
  obtain ⟨actions4, link4, hn4, hrun4, ⟨-, hq4, hw4, hs4⟩, hc4⟩ := exists_run_zero
    (P := fun link => Ongoing client server link ∧ link.client.socket.sendingQueue = [] ∧
      link.toServer = [] ∧ link.server.socket.sendingQueue = []) (fun link => link.toClient.length) (by
      rintro link ⟨⟨done, rest, front, back, h⟩, hq, hw, hs⟩ hne
      obtain ⟨link', _, _, hact, h', hserver, hqueue, hwire, hback, -⟩ :=
        act_clientReceive h hserviceable cBufferSize
      refine ⟨.clientReceive cBufferSize, link', rfl, hact, ⟨⟨_, _, _, _, h'⟩, ?_, ?_, ?_⟩, ?_⟩
      · rw [hqueue]
        exact hq
      · rw [hwire]
        exact hw
      · rw [hserver]
        exact hs
      · simp only [hback, List.length_drop, Nat.min_self]
        omega) link3 ⟨h3, hq3, hw3, List.length_eq_zero_iff.mp hs3⟩
  refine ⟨actions1 ++ (actions2 ++ (actions3 ++ actions4)), link4, ?_,
    run_append hrun1 (run_append hrun2 (run_append hrun3 hrun4)),
    hq4, hw4, hs4, List.length_eq_zero_iff.mp hc4⟩
  rw [List.filterMap_append, List.filterMap_append, List.filterMap_append, hn1, hn2, hn3, hn4]
  rfl

theorem Fresh.ongoing {link : Link σ τ} (h : Fresh link) :
    Ongoing link.client.socket.toRpcClient link.server.socket.toRpcServer link := by
  refine ⟨[], [], [], [], rfl, rfl, rfl, rfl, h.requests, by simp, ?_, ?_, ?_, h.deliveries, ?_⟩
  · rw [h.serverBuffer, h.toServer, h.clientQueue]
    exact InTransit.nil
  · rw [h.calls]
    exact .nil
  · rw [h.calls]
    rfl
  · rw [h.clientBuffer, h.toClient, h.serverQueue]
    exact InTransit.nil

end Runs

/-- Whatever the order of the actions and the sizes of the received chunks, nothing goes wrong; the
server has called a handler once for each of the first requests, in order, with the payload sent; the
client has called a handler once for each of the first responses it has handlers for, in order; and
once nothing is on its way, which can always be reached, these are all of them. -/
theorem run_exact (init : Link σ τ) (hfresh : init.Fresh)
    (hserviceable : Serviceable init.client.socket.toRpcClient init.server.socket.toRpcServer)
    (actions : List LinkAction)
    (hcalls : ∀ call ∈ actions.filterMap LinkAction.call?,
      Registered init.server.socket.toRpcServer call) :
    ∃ link, init.run actions = .ok link ∧
      List.Forall₂ RequestFor (actions.filterMap LinkAction.call?) link.requests ∧
      (∃ done rest, link.requests = done ++ rest ∧ List.Forall₂ Answers done link.server.calls) ∧
      link.client.deliveries <+: received init.client.socket.toRpcClient
        (responses init.server.socket.toRpcServer link.requests link.server.calls) ∧
      (link.Drained → List.Forall₂ Answers link.requests link.server.calls ∧
        link.client.deliveries = received init.client.socket.toRpcClient
          (responses init.server.socket.toRpcServer link.requests link.server.calls)) ∧
      ∃ more drained, more.filterMap LinkAction.call? = [] ∧ link.run more = .ok drained ∧
        drained.Drained := by
  obtain ⟨link, new, hrun, hongoing, hrequests, hall⟩ :=
    run_ongoing hserviceable actions hcalls init hfresh.ongoing
  rw [hfresh.requests, List.nil_append] at hrequests
  subst hrequests
  obtain ⟨done, rest, front, back, h⟩ := hongoing
  have hresponses : responses init.server.socket.toRpcServer link.requests link.server.calls =
      front ++ back := by
    have happend := @responses_append σ init.server.socket.toRpcServer _ _ h.calls rest []
    rw [List.append_nil] at happend
    rw [h.requests_eq, happend, h.responses_eq]
    simp [responses]
  refine ⟨link, hrun, hall, ⟨done, rest, h.requests_eq, h.calls⟩, ?_, ?_,
    exists_drained hserviceable ⟨_, _, _, _, h⟩⟩
  · rw [hresponses, h.deliveries_eq]
    unfold received
    rw [List.filter_append]
    exact List.prefix_append _ _
  · rintro ⟨hq, hw, hs, hc⟩
    have hrest := h.toServer
    rw [hq, hw] at hrest
    have hrest0 : rest = [] := List.map_eq_nil_iff.mp hrest.quiet
    have hback := h.toClient
    rw [hs, hc] at hback
    have hback0 : back = [] := List.map_eq_nil_iff.mp hback.quiet
    refine ⟨?_, ?_⟩
    · rw [h.requests_eq, hrest0, List.append_nil]
      exact h.calls
    · rw [hresponses, hback0, List.append_nil]
      exact h.deliveries_eq

/-! ## A connection with one method -/

/-- The server counts its calls and answers with the count, the client counts its responses. -/
def sampleLink : Link ℕ ℕ where
  client :=
    { socket :=
        { protocolVersion := 1, interfaceVersion := 1, sessionIds := fun _ => none
          handlers := fun id => if id = 0x00010002 then some (fun _ n => (.ok (), n + 1)) else none
          receiveBuffer := [], sendingQueue := [] }
      state := 0, deliveries := [] }
  server :=
    { socket :=
        { protocolVersion := 1, interfaceVersion := 1, services := [1]
          handlers := fun id =>
            if id = 0x00010002 then some (fun _ n => (.ok (true, [UInt8.ofNat n]), n + 1)) else none
          receiveBuffer := [], sendingQueue := [], disconnectHandler := none }
      state := 0, calls := [], dispatched := [], answered := [], enqueues := 0 }
  toServer := []
  toClient := []
  requests := []

theorem sampleLink_serviceable :
    Serviceable sampleLink.client.socket.toRpcClient sampleLink.server.socket.toRpcServer := by
  refine ⟨rfl, rfl, ?_, ?_⟩
  · intro id handler h p n
    have hhandlers : sampleLink.server.socket.handlers id =
      if id = 0x00010002 then some (fun _ n => (.ok (true, [UInt8.ofNat n]), n + 1)) else none := rfl
    rw [hhandlers] at h
    by_cases hid : id = 0x00010002
    · rw [if_pos hid] at h
      cases h
      exact ⟨true, [UInt8.ofNat n], n + 1, rfl, by rw [List.length_singleton]; omega⟩
    · rw [if_neg hid] at h
      cases h
  · intro id handler h m n
    have hhandlers : sampleLink.client.socket.handlers id =
      if id = 0x00010002 then some (fun _ n => (.ok (), n + 1)) else none := rfl
    rw [hhandlers] at h
    by_cases hid : id = 0x00010002
    · rw [if_pos hid] at h
      cases h
      rfl
    · rw [if_neg hid] at h
      cases h

/-- Two calls, the first of them received in two pieces, the second with its end. -/
def sampleActions : List LinkAction :=
  [.send ⟨1, 2, 5, [10, 11]⟩, .clientSend, .serverReceive 7, .send ⟨1, 2, 5, [12]⟩, .clientSend,
    .serverReceive 100, .serverSend, .clientReceive 3, .serverSend, .clientReceive 100]

theorem run_exact_sample : ∃ link, sampleLink.run sampleActions = .ok link ∧
    List.Forall₂ RequestFor (sampleActions.filterMap LinkAction.call?) link.requests ∧
    (∃ done rest, link.requests = done ++ rest ∧ List.Forall₂ Answers done link.server.calls) ∧
    link.client.deliveries <+: received sampleLink.client.socket.toRpcClient
      (responses sampleLink.server.socket.toRpcServer link.requests link.server.calls) ∧
    (link.Drained → List.Forall₂ Answers link.requests link.server.calls ∧
      link.client.deliveries = received sampleLink.client.socket.toRpcClient
        (responses sampleLink.server.socket.toRpcServer link.requests link.server.calls)) ∧
    ∃ more drained, more.filterMap LinkAction.call? = [] ∧ link.run more = .ok drained ∧
      drained.Drained := by
  refine run_exact sampleLink ⟨rfl, rfl, rfl, rfl, rfl, rfl, rfl, rfl, rfl⟩ sampleLink_serviceable
    sampleActions ?_
  intro call hcall
  obtain rfl | rfl := List.mem_pair.mp hcall
  · exact ⟨by decide, rfl, by decide⟩
  · exact ⟨by decide, rfl, by decide⟩

end Link

end AdaptiveAutosar.Com
