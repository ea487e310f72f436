import AdaptiveAutosar.Com.PubSub.Server

/-! # How the publish-subscribe server acknowledges

The first entry of a message that subscribes to the eventgroup is answered according to the state it
found the server in.
-/

namespace AdaptiveAutosar.Com
open Foundations
set_option autoImplicit false

/-- A Subscribe entry for the eventgroup, or the Unsubscribe with TTL zero. -/
def OfferedEventgroup.Subscribes (offered : OfferedEventgroup) : AnyEntry → Bool
  | .service _ => false
  | .eventgroup entry => entry.type = .subscribing && offered.compares entry

def OfferedEventgroup.First (offered : OfferedEventgroup) (message : SomeIpSdMessage)
    (entry : EventgroupEntry) : Prop :=
  message.entries.find? offered.Subscribes = some (.eventgroup entry)

namespace EventgroupEntry

structure Echoes (answer request : EventgroupEntry) : Prop where
  type : answer.type = .acknowledging
  serviceId : answer.serviceId = request.serviceId
  instanceId : answer.instanceId = request.instanceId
  majorVersion : answer.majorVersion = request.majorVersion
  eventgroupId : answer.eventgroupId = request.eventgroupId
  counter : answer.counter = request.counter

/-- A positive answer, with the multicast endpoint as its only option. -/
def Positive (answer : EventgroupEntry) (ipAddress : Ipv4Address) (port : UInt16) : Prop :=
  0 < answer.ttl ∧ answer.secondOptions = [] ∧ ∃ option, answer.firstOptions = [.ipv4Endpoint option] ∧
    option.type = .iPv4Multicast ∧ option.l4Proto = .udp ∧ option.ipAddress = ipAddress ∧
    option.port = port

def Negative (answer : EventgroupEntry) : Prop :=
  answer.ttl = 0 ∧ answer.firstOptions = [] ∧ answer.secondOptions = []

end EventgroupEntry

namespace SomeIpPubSubServer

/-- The reply to a request: one entry, negative exactly when the service is down; a positive one leaves
the server subscribed. -/
def Answers (server : SomeIpPubSubServer) (request : EventgroupEntry) (reply : SomeIpSdMessage)
    (server' : SomeIpPubSubServer) : Prop :=
  ∃ answer, reply.entries = [.eventgroup answer] ∧ answer.Echoes request ∧
    if server.getState = .serviceDown then answer.Negative
    else answer.Positive server.offered.endpointIp server.offered.endpointPort ∧
      server'.getState = .subscribed

/-- The call returns; a first request with a TTL is answered once, and nothing else is. -/
structure Acknowledges (server : SomeIpPubSubServer) (message : SomeIpSdMessage) : Prop where
  returns : (server.onMessageReceived message).outcome = .ok ()
  replies : ∀ request, server.offered.First message request → 0 < request.ttl →
    ∃ reply, (server.onMessageReceived message).sent = [reply] ∧
      server.Answers request reply (server.onMessageReceived message).server
  silent : (∀ request, server.offered.First message request → request.ttl = 0) →
    (server.onMessageReceived message).sent = []

/-- A first request with a TTL comes when as many subscribers are counted as the counter can hold. -/
def Overflows (server : SomeIpPubSubServer) (message : SomeIpSdMessage) : Prop :=
  server.getState = .subscribed ∧ server.subscriptionCounter = some int32Max ∧
    ∃ request, server.offered.First message request ∧ 0 < request.ttl

end SomeIpPubSubServer

theorem OfferedEventgroup.findEntry_eq_some (offered : OfferedEventgroup) (message : SomeIpSdMessage)
    (entry : EventgroupEntry) :
    offered.findEntry message.entries = some entry ↔ offered.First message entry := by
  unfold OfferedEventgroup.First
  induction message.entries with
  | nil => simp [findEntry]
  | cons head rest ih =>
    cases head with
    | service head => exact ih
    | eventgroup head =>
      rw [findEntry, List.find?_cons]
      by_cases here : head.type = .subscribing ∧ offered.compares head
      · have subscribes : offered.Subscribes (.eventgroup head) = true := by
          simp [Subscribes, here.1, here.2]
        rw [if_pos here, subscribes]
        simp
      · have other : offered.Subscribes (.eventgroup head) = false := by
          simpa [Subscribes] using here
        rw [if_neg here, other]
        exact ih

namespace EventgroupEntry

def answer (request : EventgroupEntry) (ttl : UInt32) : EventgroupEntry :=
  { toEntry := Entry.make .acknowledging request.serviceId request.instanceId ttl request.majorVersion
    counter := request.counter
    eventgroupId := request.eventgroupId
    counter_le := request.counter_le }

theorem answer_echoes (request : EventgroupEntry) (ttl : UInt32) : (request.answer ttl).Echoes request :=
  ⟨rfl, rfl, rfl, rfl, rfl, rfl⟩

/-- The counter of a request is in its range, so the factories do not throw. -/
theorem createAcknowledgeEntry_eq (request : EventgroupEntry) :
    request.createAcknowledgeEntry = .ok (request.answer request.ttl) := dif_pos request.counter_le

theorem createNegativeAcknowledgeEntry_eq (request : EventgroupEntry) :
    request.createNegativeAcknowledgeEntry = .ok (request.answer cNackTTL) := dif_pos request.counter_le

theorem addFirstOption_answer (request : EventgroupEntry) {ttl : UInt32} (live : 0 < ttl)
    {option : EntryOption} (multicast : option.type = .iPv4Multicast) :
    (AnyEntry.eventgroup (request.answer ttl)).addFirstOption option =
      .ok (.eventgroup { request.answer ttl with firstOptions := [option] }) := by
  have acknowledges : (request.answer ttl).isAcknowledge = true := by
    simp [isAcknowledge, answer, Entry.make, cNackTTL, live]
  have admitted : (AnyEntry.eventgroup (request.answer ttl)).validateOption option.type = true := by
    have none_yet : (AnyEntry.eventgroup (request.answer ttl)).toEntry.containsOption .iPv4Multicast =
        false := rfl
    rw [multicast, AnyEntry.validateOption_eq, none_yet]
    simp [AnyEntry.Allows, acknowledges]
  exact if_pos admitted

end EventgroupEntry

namespace SomeIpPubSubServer
variable {server server' : SomeIpPubSubServer} {request : EventgroupEntry}

/-! ## The reply -/

theorem acknowledge_down (server : SomeIpPubSubServer) (request : EventgroupEntry) :
    ∃ reply answer, server.acknowledge .serviceDown request = .ok reply ∧
      reply.entries = [.eventgroup answer] ∧ answer.Echoes request ∧ answer.Negative := by
  unfold acknowledge
  simp only [SomeIpSdMessage.make_eq, bind, Except.bind, if_true,
    request.createNegativeAcknowledgeEntry_eq]
  exact ⟨_, _, rfl, rfl, request.answer_echoes _, rfl, rfl, rfl⟩

theorem acknowledge_up {state : PubSubState} (up : state ≠ .serviceDown)
    (multicast : server.offered.endpointIp.IsMulticast) (live : 0 < request.ttl) :
    ∃ reply answer, server.acknowledge state request = .ok reply ∧
      reply.entries = [.eventgroup answer] ∧ answer.Echoes request ∧
      answer.Positive server.offered.endpointIp server.offered.endpointPort := by
  let endpoint : Ipv4EndpointOption :=
    ⟨.iPv4Multicast, cDiscardableEndpoint, server.offered.endpointIp, .udp, server.offered.endpointPort,
      .inr (.inl ⟨rfl, multicast, rfl⟩)⟩
  have created : Ipv4EndpointOption.createMulticastEndpoint cDiscardableEndpoint
      server.offered.endpointIp server.offered.endpointPort = .ok endpoint := dif_pos multicast
  have isMulticast : (EntryOption.ipv4Endpoint endpoint).type = .iPv4Multicast := rfl
  unfold acknowledge
  simp only [SomeIpSdMessage.make_eq, bind, Except.bind, up, if_false,
    request.createAcknowledgeEntry_eq, created, request.addFirstOption_answer live isMulticast]
  exact ⟨_, _, rfl, rfl, ⟨rfl, rfl, rfl, rfl, rfl, rfl⟩, live, rfl, endpoint, rfl, rfl, rfl, rfl, rfl⟩

/-! ## Every message -/

/-- A request finds the server down, up, or with a subscriber that can be counted. -/
theorem Counted.subscribe_ok (counted : server.Counted)
    (room : server.getState = .subscribed → server.subscriptionCounter ≠ some int32Max) :
    ∃ server', server.subscribe = .ok server' ∧
      (server.getState ≠ .serviceDown → server'.getState = .subscribed) := by
  cases current : server.getState with
  | serviceDown => exact ⟨server, by rw [SomeIpPubSubServer.subscribe, current], fun up => absurd rfl up⟩
  | notSubscribed => exact ⟨_, subscribe_first current, fun _ => rfl⟩
  | subscribed =>
    obtain ⟨counter, isCounter, positive, inRange⟩ := counted current
    have below : counter < int32Max := by
      have other : counter ≠ int32Max := fun top => room current (isCounter.trans (congrArg some top))
      omega
    refine ⟨_, (subscribe_more current isCounter).trans (if_pos below), fun _ => ?_⟩
    exact current

theorem Counted.processEntry_answers (counted : server.Counted)
    (multicast : server.getState ≠ .serviceDown → server.offered.endpointIp.IsMulticast) (live : 0 < request.ttl)
    (done : server.subscribe = .ok server')
    (subscribed : server.getState ≠ .serviceDown → server'.getState = .subscribed) :
    ∃ reply, server.processEntry request = ⟨.ok (), server', [reply]⟩ ∧
      server.Answers request reply server' := by
  have same := (counted.subscribe done).2
  unfold Answers
  by_cases down : server.getState = .serviceDown
  · obtain ⟨reply, answer, built, one, echoes, negative⟩ := acknowledge_down server' request
    refine ⟨reply, ?_, answer, one, echoes, ?_⟩
    · rw [processEntry, done]
      simp only [down, built]
    · rw [if_pos down]
      exact negative
  · obtain ⟨reply, answer, built, one, echoes, positive⟩ :=
      acknowledge_up down (show server'.offered.endpointIp.IsMulticast from same ▸ multicast down) live
    refine ⟨reply, ?_, answer, one, echoes, ?_⟩
    · rw [processEntry, done]
      simp only [built]
    · rw [if_neg down, ← same]
      exact ⟨positive, subscribed down⟩

theorem onMessageReceived_first {message : SomeIpSdMessage} (first : server.offered.First message request)
    (live : 0 < request.ttl) : server.onMessageReceived message = server.processEntry request := by
  rw [onMessageReceived, (server.offered.findEntry_eq_some message request).mpr first]
  exact if_pos live

theorem not_overflows_iff {message : SomeIpSdMessage} (first : server.offered.First message request)
    (live : 0 < request.ttl) : ¬ server.Overflows message ↔
      (server.getState = .subscribed → server.subscriptionCounter ≠ some int32Max) := by
  constructor
  · intro not current top
    exact not ⟨current, top, request, first, live⟩
  · rintro room ⟨current, top, -⟩
    exact room current top

/-- A first request with a TTL is answered when its subscriber can be counted. -/
theorem Counted.answered {message : SomeIpSdMessage} (counted : server.Counted)
    (multicast : server.getState ≠ .serviceDown → server.offered.endpointIp.IsMulticast)
    (first : server.offered.First message request) (live : 0 < request.ttl)
    (room : server.getState = .subscribed → server.subscriptionCounter ≠ some int32Max) :
    server.Acknowledges message := by
  have begins := onMessageReceived_first first live
  obtain ⟨server', done, subscribed⟩ := counted.subscribe_ok room
  obtain ⟨reply, replied, answers⟩ := counted.processEntry_answers multicast live done subscribed
  refine ⟨?_, ?_, ?_⟩
  · rw [begins, replied]
  · intro request' first' _
    have isFirst := Option.some.inj (first.symm.trans first')
    cases isFirst
    refine ⟨reply, ?_, ?_⟩
    · rw [begins, replied]
    · rw [begins, replied]
      exact answers
  · intro unsubscribes
    have stopped := unsubscribes request first
    rw [stopped] at live
    exact absurd live (by decide)

/-- A subscriber that cannot be counted is undefined behaviour. -/
theorem overflow_undefined {message : SomeIpSdMessage} (first : server.offered.First message request)
    (live : 0 < request.ttl) (current : server.getState = .subscribed)
    (top : server.subscriptionCounter = some int32Max) :
    (server.onMessageReceived message).outcome = .error .undefined := by
  rw [onMessageReceived_first first live, processEntry, subscribe_more current top, if_neg (by omega)]

/-- The first request with a TTL is answered unless its subscriber cannot be counted. -/
theorem Counted.answered_iff {message : SomeIpSdMessage} (counted : server.Counted)
    (multicast : server.offered.endpointIp.IsMulticast) (first : server.offered.First message request)
    (live : 0 < request.ttl) : server.Acknowledges message ↔ ¬ server.Overflows message := by
  rw [not_overflows_iff first live]
  constructor
  · intro acknowledges current top
    exact absurd ((overflow_undefined first live current top).symm.trans acknowledges.returns) nofun
  · exact counted.answered (fun _ => multicast) first live

theorem Counted.unanswered {message : SomeIpSdMessage} (counted : server.Counted)
    (unsubscribes : ∀ request, server.offered.First message request → request.ttl = 0) :
    server.Acknowledges message := by
  have silent : ∃ server', server.onMessageReceived message = ⟨.ok (), server', []⟩ := by
    rw [onMessageReceived]
    cases found : server.offered.findEntry message.entries with
    | none => exact ⟨server, rfl⟩
    | some request =>
      have stopped := unsubscribes request ((server.offered.findEntry_eq_some message request).mp found)
      obtain ⟨server', done, -⟩ := counted.unsubscribe
      simp only [stopped]
      rw [if_neg (by decide), done]
      exact ⟨server', rfl⟩
  obtain ⟨server', isSilent⟩ := silent
  refine ⟨?_, ?_, ?_⟩
  · rw [isSilent]
  · intro request first live
    rw [unsubscribes request first] at live
    exact absurd live (by decide)
  · intro _
    rw [isSilent]

/-- For every message in every reachable state of a server with a multicast endpoint: it is acknowledged
as the protocol wants exactly when the counter of the subscribers does not overflow. -/
theorem acknowledges_iff {offered : OfferedEventgroup} (multicast : offered.endpointIp.IsMulticast)
    {trace : List (Taken SomeIpPubSubServer PubSubCall (List SomeIpSdMessage))}
    (run : Run step (make offered) trace server) (message : SomeIpSdMessage) :
    server.Acknowledges message ↔ ¬ server.Overflows message := by
  obtain ⟨counted, rfl⟩ := reached_counted run
  by_cases subscribes : ∃ request, server.offered.First message request ∧ 0 < request.ttl
  · obtain ⟨request, first, live⟩ := subscribes
    exact counted.answered_iff multicast first live
  · refine iff_of_true (counted.unanswered ?_) (fun overflows => subscribes overflows.2.2)
    intro request first
    by_contra other
    exact subscribes ⟨request, first, UInt32.pos_iff_ne_zero.mpr other⟩

/-- An eventgroup with a multicast endpoint, and a message that subscribes to it. -/
def sampleEventgroup : OfferedEventgroup := ⟨1, 1, 1, 4, ⟨239, 0, 0, 1⟩, 5555⟩

def subscribing : SomeIpSdMessage :=
  { messageId := SomeIpSdMessage.cMessageId, clientId := 0, sessionId := 1, protocolVersion := 1,
    interfaceVersion := 1, messageType := .notification, returnCode := .eOK, rebooted := true,
    entries := [.eventgroup
      { toEntry := Entry.make .subscribing 1 1 cSubscribeEventTTL 1, counter := 0, eventgroupId := 4,
        counter_le := UInt8.zero_le }] }

theorem acknowledges_iff_started : ∃ trace server,
    Run.play step [] (make sampleEventgroup) [.start] = .ok (trace, server) ∧
      server.Acknowledges subscribing := by
  obtain ⟨trace, server, played, current⟩ : ∃ trace server,
      Run.play step [] (make sampleEventgroup) [.start] = .ok (trace, server) ∧
        server.getState = .notSubscribed := ⟨_, _, rfl, rfl⟩
  have multicast : sampleEventgroup.endpointIp.IsMulticast := by decide
  refine ⟨trace, server, played,
    (acknowledges_iff multicast (Run.of_play .start played) subscribing).mpr ?_⟩
  rintro ⟨isSubscribed, -⟩
  exact absurd (current.symm.trans isSubscribed) (by decide)

theorem exists_counting (n : ℕ) (inRange : (n : ℤ) < int32Max) : ∃ trace server,
    Run step (make sampleEventgroup) trace server ∧ server.getState = .subscribed ∧
      server.subscriptionCounter = some ((n : ℤ) + 1) := by
  induction n with
  | zero =>
    obtain ⟨trace, server, played, current, counter⟩ : ∃ trace server,
        Run.play step [] (make sampleEventgroup) [.start, .receive subscribing] = .ok (trace, server) ∧
          server.getState = .subscribed ∧ server.subscriptionCounter = some 1 :=
      ⟨_, _, rfl, rfl, rfl⟩
    exact ⟨trace, server, Run.of_play .start played, current, counter⟩
  | succ n ih =>
    have below : (n : ℤ) + 1 < int32Max := by
      push_cast at inRange
      exact inRange
    obtain ⟨trace, server, run, current, isCounter⟩ := ih (by omega)
    obtain ⟨counted, same⟩ := reached_counted run
    have done := (subscribe_more current isCounter).trans (if_pos below)
    obtain ⟨request, first, live⟩ : ∃ request, server.offered.First subscribing request ∧
        0 < request.ttl := by
      rw [same]
      exact ⟨_, rfl, by decide⟩
    have multicast : server.offered.endpointIp.IsMulticast := by
      rw [same]
      decide
    obtain ⟨reply, replied, -⟩ := counted.processEntry_answers (fun _ => multicast) live done fun _ => current
    have taken : server.step (.receive subscribing) =
        .ok ([reply], { server with subscriptionCounter := some ((n : ℤ) + 1 + 1) }) := by
      simp only [step, onMessageReceived_first first live, replied]
    refine ⟨_, _, run.next taken, current, ?_⟩
    push_cast
    rfl

theorem not_always_acknowledges : ∃ trace server,
    Run step (make sampleEventgroup) trace server ∧
      (server.onMessageReceived subscribing).outcome = .error .undefined ∧
      ¬ server.Acknowledges subscribing := by
  obtain ⟨trace, server, run, current, isCounter⟩ := exists_counting 2147483646 (by decide)
  obtain ⟨request, first, live⟩ : ∃ request, server.offered.First subscribing request ∧
      0 < request.ttl := by
    rw [(reached_counted run).2]
    exact ⟨_, rfl, by decide⟩
  have undefined : (server.onMessageReceived subscribing).outcome = .error .undefined := by
    rw [onMessageReceived_first first live, processEntry, subscribe_more current isCounter,
      if_neg (by decide)]
  refine ⟨trace, server, run, undefined, ?_⟩
  intro acknowledges
  have returns := acknowledges.returns
  rw [undefined] at returns
  cases returns

end SomeIpPubSubServer
end AdaptiveAutosar.Com
