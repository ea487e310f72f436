import AdaptiveAutosar.Com.Sd.Group

/-! # What clients know of the servers of a group

Whatever is lost, repeated or overtaken, a client knows of its service what the latest announcement that
came to it says: each message of a client or a server has one entry, and it is all that it says.
-/

namespace AdaptiveAutosar.Com
open Foundations
set_option autoImplicit false

/-! ## What a client makes of a message -/

/-- The client has the TTL of the announcement, and hands out its endpoint. -/
structure SdReceiver.Knows (client : SdReceiver) (serviceId : UInt16) (heard : Option Announcement) : Prop where
  paired : client.Paired serviceId
  ttl : client.timer.ttl = (heard.map Prod.fst).getD 0
  endpoint : client.tryGetOfferedEndpoint = .ok (heard.map Prod.snd)

namespace SdReceiver
variable {γ δ : Type} {client : SdReceiver} {serviceId : UInt16} {heard : Option Announcement}

theorem knows_make (serviceId : UInt16) (signalFlag : Bool) : (make serviceId signalFlag).Knows serviceId none :=
  ⟨paired_make serviceId signalFlag, rfl, rfl⟩

theorem Knows.unmatched (h : client.Knows serviceId heard) {message : SomeIpSdMessage}
    (unmatched : SomeIpSdClient.matchRequestedService client.serviceId message.entries = none) :
    (client.receiveSdMessage message).2 = client ∧ client.Returns message := by
  have free := ((h.paired.get_iff _).mp h.endpoint).free
  refine ⟨?_, returns_of_unmatched free unmatched⟩
  unfold receiveSdMessage
  rw [if_pos h.paired.valid, unmatched]

/-- A message with the entry of a server is an announcement, if it is for the service. -/
theorem Knows.offered (h : client.Knows serviceId heard) {arguments : ServerArguments} {ttl : UInt32}
    {message : SomeIpSdMessage} (entries : message.entries = [arguments.offerEntry ttl]) :
    (client.receiveSdMessage message).2.Knows serviceId
        ((if arguments.service.serviceId = serviceId then some (ttl, arguments.endpoint) else none).or heard) ∧
      client.Returns message := by
  have matched := arguments.matchRequestedService_offerEntry serviceId ttl
  rw [← entries, ← h.paired.serviceId] at matched
  rw [← h.paired.serviceId]
  split_ifs at matched ⊢ with own
  · have free := ((h.paired.get_iff _).mp h.endpoint).free
    have extracted := arguments.tryExtractOfferedEndpoint_offerEntry ttl
    rw [← entries] at extracted
    have paired := h.paired.receive message
    rw [h.paired.serviceId.symm] at paired
    refine ⟨⟨paired, ?_, (paired.get_iff _).mpr ?_⟩,
      (returns_iff_of_matched h.paired.valid free matched).mpr ⟨_, extracted⟩⟩
    · rw [receive_matched h.paired.valid free matched, extracted]
      rfl
    · rw [receive_matched h.paired.valid free matched, extracted]
      exact ⟨free, rfl, rfl⟩
  · obtain ⟨same, returns⟩ := h.unmatched matched
    rw [same, h.paired.serviceId]
    exact ⟨h, returns⟩

theorem Knows.receive (h : client.Knows serviceId heard) (setup : SdSetup γ δ) {sender : SdSender γ δ}
    {message : SomeIpSdMessage} (carrying : Carrying (setup.entryOf sender) message) :
    (client.receiveSdMessage message).2.Knows serviceId ((setup.announces serviceId sender).or heard) ∧
      client.Returns message := by
  cases sender with
  | find other =>
    have unmatched : SomeIpSdClient.matchRequestedService client.serviceId message.entries = none := by
      rw [carrying.entries]
      rfl
    obtain ⟨same, returns⟩ := h.unmatched unmatched
    rw [same]
    exact ⟨h, returns⟩
  | offer server => exact h.offered carrying.entries
  | stopOffer server => exact h.offered carrying.entries

end SdReceiver

/-! ## What holds between the agents -/

namespace OfferQueue
variable {ι : Type} {state state' : OfferQueue ι} {service : OfferedService}

/-- No find was accepted, and none is on its way into the queue. -/
structure Untouched (state : OfferQueue ι) : Prop where
  entered : state.messageBuffer.entered = []
  outside : ∀ receiver, state.messageBuffer.position (some receiver) = .outside

theorem Untouched.no_offers (h : state.Untouched) (sound : state.Sound service) : state.offers = [] := by
  have order := sound.coherent.ordered
  rw [h.entered, sound.left] at order
  have none : state.answered = [] := by
    simp only [List.append_assoc, List.nil_eq, List.append_eq_nil_iff] at order
    exact order.1
  rw [← List.length_eq_zero_iff, sound.each, none, List.length_nil]

variable [DecidableEq ι]

/-- Only a find for the service touches the queue. -/
theorem Untouched.step (h : state.Untouched) (sound : state.Sound service) {input : OfferStep ι}
    (taken : state.step service input = .ok ((), state')) :
    state'.Untouched ∨ ∃ receiver message, input = .receive receiver message ∧
      service.matchOfferingService message.entries = true := by
  cases input with
  | receive receiver message =>
    by_cases matched : service.matchOfferingService message.entries = true
    · exact .inr ⟨receiver, message, rfl, matched⟩
    · left
      simp only [OfferQueue.step, h.outside receiver, matched, Bool.false_eq_true, if_false] at taken
      cases taken
      exact h
  | attempt receiver =>
    left
    obtain ⟨⟨returned, messageBuffer⟩, advanced, taken⟩ := bind_eq_ok.mp taken
    simp only [SharedQueue.advance, h.outside receiver] at advanced
    cases advanced
    cases taken
    exact h
  | expire =>
    left
    simp only [OfferQueue.step] at taken
    split at taken
    · cases taken
      exact ⟨h.entered, h.outside⟩
    · cases taken
      exact h
  | proceed =>
    left
    cases machine : state.machine with
    | resting =>
      simp only [OfferQueue.step, machine] at taken
      cases taken
      exact h
    | checking =>
      simp only [OfferQueue.step, machine] at taken
      split_ifs at taken
      · cases taken
        exact ⟨h.entered, h.outside⟩
      · cases taken
        exact ⟨h.entered, fun receiver => by simpa using h.outside receiver⟩
    | sending find =>
      simp only [OfferQueue.step, machine] at taken
      cases taken
      exact ⟨h.entered, h.outside⟩
    | dequeuing =>
      have dequeuing := sound.busy machine
      simp only [OfferQueue.step, machine] at taken
      obtain ⟨⟨returned, messageBuffer⟩, advanced, taken⟩ := bind_eq_ok.mp taken
      have kept : messageBuffer.entered = [] ∧ ∀ receiver, messageBuffer.position (some receiver) = .outside := by
        cases SharedQueue.advance_cases advanced with
        | acquires at_ | misses at_ | pops at_ | uncounts at_ | releases at_ =>
          exact ⟨by simpa using h.entered, fun receiver => by simpa using h.outside receiver⟩
        | idles at_ | locks at_ | refused at_ | emplaces at_ | counts at_ | returns at_ =>
          simp [at_, Position.Dequeuing] at dequeuing
      dsimp only at taken
      split at taken
      · cases taken
        exact ⟨kept.1, kept.2⟩
      · cases taken
        exact ⟨kept.1, kept.2⟩
      · cases taken
        exact ⟨kept.1, kept.2⟩

end OfferQueue

namespace SdAgents
variable {γ δ ι : Type} [DecidableEq γ] [DecidableEq δ] [DecidableEq ι] {agents agents' : SdAgents γ δ ι}
  {event : SdEvent γ δ ι} {output : Option (SdSender γ δ × Bytes)}

/-- What a step does to a server. -/
theorem step_server (taken : agents.step event = .ok (output, agents')) (server : δ) :
    (agents'.servers server).service = (agents.servers server).service ∧
      ((agents'.servers server).offering = (agents.servers server).offering ∨
        ∃ input, event = .server server (.offer input) ∧
          (agents.servers server).offering.step (agents.servers server).service input =
            .ok ((), (agents'.servers server).offering)) := by
  cases event with
  | client client event =>
    obtain ⟨⟨find, next⟩, -, taken⟩ := bind_eq_ok.mp taken
    cases taken
    exact ⟨rfl, .inl rfl⟩
  | server other event =>
    obtain ⟨⟨⟨offer, stopOffer⟩, next⟩, stepped, taken⟩ := bind_eq_ok.mp taken
    cases taken
    by_cases same : server = other
    · subst same
      simp only [Function.update_self]
      cases event with
      | offer input =>
        obtain ⟨⟨⟨⟩, offering⟩, offered, stepped⟩ := bind_eq_ok.mp stepped
        cases stepped
        exact ⟨rfl, .inr ⟨input, rfl, offered⟩⟩
      | serviceStopped =>
        cases stepped
        exact ⟨rfl, .inl rfl⟩
    · simp only [Function.update_of_ne same]
      exact ⟨trivial, .inl trivial⟩

/-- What a step does to a client. -/
theorem step_client (taken : agents.step event = .ok (output, agents')) (client : γ) :
    ((agents'.clients client).receiver = (agents.clients client).receiver ∧
        ∀ message, event ≠ .client client (.receive message)) ∨
      ∃ message, event = .client client (.receive message) ∧
        (agents'.clients client).receiver = ((agents.clients client).receiver.receiveSdMessage message).2 := by
  cases event with
  | server server event =>
    obtain ⟨⟨_, next⟩, -, taken⟩ := bind_eq_ok.mp taken
    cases taken
    exact .inl ⟨rfl, by simp⟩
  | client other event =>
    obtain ⟨⟨find, next⟩, stepped, taken⟩ := bind_eq_ok.mp taken
    cases taken
    by_cases same : client = other
    · subst same
      simp only [Function.update_self]
      cases event with
      | sendFind =>
        cases stepped
        exact .inl ⟨rfl, by simp⟩
      | receive message =>
        cases stepped
        exact .inr ⟨message, rfl, rfl⟩
    · simp only [Function.update_of_ne same]
      exact .inl ⟨trivial, by simp [Ne.symm same]⟩

/-- The Offers sent are those in the record. -/
theorem step_offers (taken : agents.step event = .ok (output, agents')) (server : δ) :
    (agents'.servers server).offering.offers.length = (agents.servers server).offering.offers.length +
      output.toList.countP (fun datagram => datagram.1 = .offer server) := by
  cases event with
  | client client event =>
    obtain ⟨⟨find, next⟩, -, taken⟩ := bind_eq_ok.mp taken
    cases taken
    cases find <;> simp
  | server other event =>
    obtain ⟨⟨⟨offer, stopOffer⟩, next⟩, stepped, taken⟩ := bind_eq_ok.mp taken
    cases event with
    | serviceStopped =>
      cases stepped
      cases taken
      by_cases same : server = other
      · subst same
        simp
      · simp [Function.update_of_ne same]
    | offer input =>
      obtain ⟨⟨⟨⟩, offering⟩, offered, stepped⟩ := bind_eq_ok.mp stepped
      cases stepped
      cases taken
      rcases OfferQueue.step_offers offered with ⟨offers, -⟩ | ⟨offers, -⟩
      · by_cases same : server = other
        · subst same
          simp [offers]
        · simp [offers, Function.update_of_ne same]
      · by_cases same : server = other
        · subst same
          simp [offers]
        · simp [offers, Function.update_of_ne same, Ne.symm same]

end SdAgents

namespace SdGroup
variable {γ δ ι : Type}

/-- A client of the service has sent a Find. -/
def Asked (setup : SdSetup γ δ) (group : SdGroup γ δ ι) (server : δ) : Prop :=
  ∃ client payload, (.find client, payload) ∈ group.sent ∧
    setup.serviceId client = (setup.server server).service.serviceId

variable [DecidableEq γ] [DecidableEq δ]

/-- Each object keeps its one entry, each datagram has that of its object, and a server whose queue was
touched was asked. -/
structure Sound (setup : SdSetup γ δ) (group : SdGroup γ δ ι) : Prop where
  messages : ∀ sender, Carrying (setup.entryOf sender) (group.agents.messageOf sender)
  sent : ∀ datagram ∈ group.sent, ∃ message,
    Carrying (setup.entryOf datagram.1) message ∧ datagram.2 = message.payload
  services : ∀ server, (group.agents.servers server).service = (setup.server server).service
  queues : ∀ server, (group.agents.servers server).offering.Sound (setup.server server).service
  asked : ∀ server, (group.agents.servers server).offering.Untouched ∨ group.Asked setup server
  logged : ∀ server, (group.agents.servers server).offering.offers.length =
    group.sent.countP (fun datagram => datagram.1 = .offer server)

variable {setup : SdSetup γ δ} {group group' : SdGroup γ δ ι}

omit [DecidableEq γ] [DecidableEq δ] in
theorem Constructed.made (h : group.Constructed setup) : group.agents.Made where
  clients client := by
    obtain ⟨signalFlag, made⟩ := h.clients client
    exact ⟨_, signalFlag, made⟩
  servers server := ⟨_, _, _, h.servers server⟩

theorem Constructed.sound (h : group.Constructed setup) : group.Sound setup where
  messages sender := by
    have counted := h.made.counted sender
    cases sender with
    | find client =>
      obtain ⟨signalFlag, made⟩ := h.clients client
      simp only [SdAgents.messageOf] at counted ⊢
      generalize group.agents.clients client = finder at made counted ⊢
      cases made
      exact carrying_of_counted counted rfl rfl (.inl rfl)
    | offer server | stopOffer server =>
      have made := h.servers server
      simp only [SdAgents.messageOf] at counted ⊢
      generalize group.agents.servers server = offerer at made counted ⊢
      cases made
      exact carrying_of_counted counted rfl rfl (.inr ⟨_, rfl⟩)
  sent := by simp [h.silent]
  services server := by
    have made := h.servers server
    generalize group.agents.servers server = offerer at made ⊢
    cases made
    rfl
  queues server := by
    have made := h.servers server
    generalize group.agents.servers server = offerer at made ⊢
    cases made
    exact OfferQueue.sound_make _ _
  asked server := by
    left
    have made := h.servers server
    generalize group.agents.servers server = offerer at made ⊢
    cases made
    exact ⟨rfl, fun _ => rfl⟩
  logged server := by
    have made := h.servers server
    generalize group.agents.servers server = offerer at made ⊢
    cases made
    simp [h.silent, OfferQueue.make]

/-- A server that has sent an Offer was asked. -/
theorem Sound.offered (h : group.Sound setup) {server : δ} {payload : Bytes}
    (there : (.offer server, payload) ∈ group.sent) : group.Asked setup server := by
  rcases h.asked server with untouched | asked
  · have none := h.logged server
    rw [untouched.no_offers (h.queues server), List.length_nil, eq_comm, List.countP_eq_zero] at none
    exact absurd (none _ there) (by simp)
  · exact asked

theorem Sound.arrives (h : group.Sound setup) {k : ℕ} {behind : Bytes} {message : SomeIpSdMessage}
    (arrives : group.arriving k behind = some message) :
    ∃ datagram, group.sent[k]? = some datagram ∧ Carrying (setup.entryOf datagram.1) message := by
  obtain ⟨datagram, at_, handed⟩ := Option.bind_eq_some_iff.mp arrives
  obtain ⟨sent, carrying, payload⟩ := h.sent datagram (List.mem_of_getElem? at_)
  rw [payload, carrying.handedOn] at handed
  cases handed
  exact ⟨datagram, at_, carrying⟩

omit [DecidableEq γ] [DecidableEq δ] in
/-- A find that a server takes for its own is that of a client of the service. -/
theorem asked_of_matching {server : δ} {datagram : SdSender γ δ × Bytes} (sent : datagram ∈ group.sent)
    {message : SomeIpSdMessage} (carrying : Carrying (setup.entryOf datagram.1) message)
    (matching : (setup.server server).service.matchOfferingService message.entries = true) :
    group.Asked setup server := by
  obtain ⟨sender, payload⟩ := datagram
  rw [carrying.entries, OfferedService.matchOfferingService_one] at matching
  cases sender with
  | offer other => cases matching
  | stopOffer other => cases matching
  | find client =>
    simp only [SdSetup.entryOf, OfferedService.Finds, OfferedService.compares, Bool.and_eq_true,
      beq_iff_eq] at matching
    exact ⟨client, payload, sent, matching.2.1.1.1⟩

variable [DecidableEq ι]

theorem step_cases {input : GroupStep γ δ ι} (taken : group.step input = .ok ((), group')) :
    (group.event input = none ∧ group' = group) ∨
      ∃ event output, group.event input = some event ∧
        group.agents.step event = .ok (output, group'.agents) ∧ group'.sent = group.sent ++ output.toList := by
  unfold step at taken
  cases event_eq : group.event input with
  | none =>
    rw [event_eq] at taken
    cases taken
    exact .inl ⟨rfl, rfl⟩
  | some event =>
    rw [event_eq] at taken
    obtain ⟨⟨output, agents⟩, stepped, taken⟩ := bind_eq_ok.mp taken
    cases taken
    exact .inr ⟨event, output, rfl, stepped, rfl⟩

omit [DecidableEq γ] [DecidableEq δ] [DecidableEq ι] in
/-- Only what arrives is received. -/
theorem event_receive {input : GroupStep γ δ ι} {server : δ} {receiver : ι} {message : SomeIpSdMessage}
    (event : group.event input = some (.server server (.offer (.receive receiver message)))) :
    ∃ k behind, group.arriving k behind = some message := by
  cases input with
  | toServer other receiver' k behind =>
    obtain ⟨_, arrives, same⟩ := Option.map_eq_some_iff.mp event
    cases same
    exact ⟨k, behind, arrives⟩
  | toClient client k behind =>
    obtain ⟨_, -, same⟩ := Option.map_eq_some_iff.mp event
    cases same
  | sendFind client => cases event
  | serviceStopped server => cases event
  | expire server => cases event
  | proceed server => cases event
  | attempt server receiver => cases event

theorem Sound.step (h : group.Sound setup) {input : GroupStep γ δ ι}
    (taken : group.step input = .ok ((), group')) : group'.Sound setup := by
  obtain ⟨-, rfl⟩ | ⟨event, output, event_eq, stepped, sent⟩ := step_cases taken
  · exact h
  have later {server : δ} (asked : group.Asked setup server) : group'.Asked setup server := by
    obtain ⟨client, payload, there, same⟩ := asked
    exact ⟨client, payload, sent ▸ List.mem_append_left _ there, same⟩
  have queues (server : δ) : (group'.agents.servers server).offering.Sound (setup.server server).service := by
    rcases (SdAgents.step_server stepped server).2 with same | ⟨input, -, offered⟩
    · exact same ▸ h.queues server
    · rw [h.services server] at offered
      exact OfferQueue.sound_step (h.queues server) offered
  have asked (server : δ) :
      (group'.agents.servers server).offering.Untouched ∨ group'.Asked setup server := by
    rcases h.asked server with untouched | asked
    · rcases (SdAgents.step_server stepped server).2 with same | ⟨input, is_offer, offered⟩
      · exact .inl (same ▸ untouched)
      · rw [h.services server] at offered
        rcases untouched.step (h.queues server) offered with still | ⟨receiver, message, rfl, matching⟩
        · exact .inl still
        · obtain ⟨k, behind, arrives⟩ := event_receive (event_eq.trans (congrArg some is_offer))
          obtain ⟨datagram, at_, carrying⟩ := h.arrives arrives
          exact .inr (later (asked_of_matching (List.mem_of_getElem? at_) carrying matching))
    · exact .inr (later asked)
  refine ⟨fun sender => ?_, fun datagram there => ?_, fun server => ?_, queues, asked, fun server => ?_⟩
  · rcases SdAgents.step_sends stepped sender with ⟨-, same⟩ | ⟨-, next⟩
    · exact same ▸ h.messages sender
    · exact next ▸ (h.messages sender).increment
  · rw [sent] at there
    rcases List.mem_append.mp there with there | there
    · exact h.sent datagram there
    · obtain ⟨sender, payload⟩ := datagram
      have output_eq : output = some (sender, payload) := Option.mem_toList.mp there
      rcases SdAgents.step_sends stepped sender with ⟨silent, -⟩ | ⟨sends, -⟩
      · simp [output_eq, SdAgents.sentFrom] at silent
      · simp only [output_eq, SdAgents.sentFrom, if_true, Option.some.injEq] at sends
        exact ⟨_, h.messages sender, sends⟩
  · exact (SdAgents.step_server stepped server).1.trans (h.services server)
  · rw [SdAgents.step_offers stepped server, h.logged server, sent, List.countP_append]

theorem Constructed.reached_sound {init : SdGroup γ δ ι} (constructed : init.Constructed setup)
    {trace : List (Taken (SdGroup γ δ ι) (GroupStep γ δ ι) Unit)} (run : Run step init trace group) :
    group.Sound setup :=
  Run.reached constructed.sound (fun _ _ _ _ h taken => h.step taken) run

omit [DecidableEq γ] [DecidableEq δ] [DecidableEq ι] in
theorem event_toClient {input : GroupStep γ δ ι} {client : γ} {message : SomeIpSdMessage}
    (event : group.event input = some (.client client (.receive message))) :
    ∃ k behind, input = .toClient client k behind ∧ group.arriving k behind = some message := by
  cases input with
  | toClient other k behind =>
    obtain ⟨_, arrives, same⟩ := Option.map_eq_some_iff.mp event
    cases same
    exact ⟨k, behind, rfl, arrives⟩
  | toServer server receiver k behind =>
    obtain ⟨_, -, same⟩ := Option.map_eq_some_iff.mp event
    cases same
  | sendFind client => cases event
  | serviceStopped server => cases event
  | expire server => cases event
  | proceed server => cases event
  | attempt server receiver => cases event

omit [DecidableEq ι] in
/-- Nothing is announced to a client in a step in which it receives nothing. -/
theorem Sound.announcedIn_of_silent (h : group.Sound setup) {client : γ} {input : GroupStep γ δ ι}
    (silent : ∀ message, group.event input ≠ some (.client client (.receive message))) :
    setup.announcedIn client ⟨group, input, ()⟩ = none := by
  cases input with
  | toClient receiver k behind =>
    simp only [SdSetup.announcedIn]
    split_ifs with same
    · subst same
      cases at_ : group.sent[k]? with
      | none => rfl
      | some datagram =>
        obtain ⟨sent, carrying, payload⟩ := h.sent datagram (List.mem_of_getElem? at_)
        have arrives : group.arriving k behind = some sent := by
          simp only [SdGroup.arriving, at_, Option.bind_some, payload, carrying.handedOn]
        refine absurd ?_ (silent sent)
        simp only [SdGroup.event, arrives, Option.map_some]
    · rfl
  | sendFind | serviceStopped | expire | proceed | attempt | toServer => rfl

theorem Sound.informs (h : group.Sound setup) {input : GroupStep γ δ ι}
    (taken : group.step input = .ok ((), group')) {client : γ} {heard : Option Announcement}
    (knows : (group.agents.clients client).receiver.Knows (setup.serviceId client) heard) :
    (group'.agents.clients client).receiver.Knows (setup.serviceId client)
      ((setup.announcedIn client ⟨group, input, ()⟩).or heard) := by
  obtain ⟨none, rfl⟩ | ⟨event, output, event_eq, stepped, -⟩ := step_cases taken
  · rw [h.announcedIn_of_silent (by simp [none])]
    exact knows
  · rcases SdAgents.step_client stepped client with ⟨same, other⟩ | ⟨message, rfl, received⟩
    · rw [same, h.announcedIn_of_silent fun message receives => other message
        (Option.some.inj (event_eq.symm.trans receives))]
      exact knows
    · obtain ⟨k, behind, rfl, arrives⟩ := event_toClient event_eq
      obtain ⟨datagram, at_, carrying⟩ := h.arrives arrives
      have announced : setup.announcedIn client ⟨group, .toClient client k behind, ()⟩ =
          setup.announces (setup.serviceId client) datagram.1 := by
        simp only [SdSetup.announcedIn, if_true, at_, Option.bind_some]
      rw [received, announced]
      exact (knows.receive setup carrying).1

theorem Constructed.informed {init : SdGroup γ δ ι} (constructed : init.Constructed setup)
    {trace : List (Taken (SdGroup γ δ ι) (GroupStep γ δ ι) Unit)} (run : Run step init trace group)
    (client : γ) :
    (group.agents.clients client).receiver.Knows (setup.serviceId client) (setup.heard client trace) := by
  induction run with
  | start =>
    obtain ⟨signalFlag, made⟩ := constructed.clients client
    generalize init.agents.clients client = finder at made ⊢
    cases made
    exact SdReceiver.knows_make _ _
  | next run taken ih =>
    rw [SdSetup.heard_cons]
    exact (constructed.reached_sound run).informs taken ih

/-- Every step can be taken. -/
theorem Sound.step_total (h : group.Sound setup) (input : GroupStep γ δ ι) :
    ∃ group', group.step input = .ok ((), group') := by
  unfold SdGroup.step
  cases group.event input with
  | none => exact ⟨_, rfl⟩
  | some event =>
    cases event with
    | client client event =>
      cases event with
      | sendFind => exact ⟨_, rfl⟩
      | receive message => exact ⟨_, rfl⟩
    | server server event =>
      cases event with
      | serviceStopped => exact ⟨_, rfl⟩
      | offer input =>
        obtain ⟨offering, taken⟩ := (h.queues server).total input
        rw [← h.services server] at taken
        simp only [SdAgents.step, SdOfferer.step, taken, bind, Except.bind, pure, Except.pure]
        exact ⟨_, rfl⟩

/-- In every run of any clients and servers on a group, with any loss, repetition and reordering of what
they send: a client has the TTL and hands out the endpoint of the latest announcement for its service that
came to it, and the initial TTL and none before the first. Whatever arrives at it is received without an
exception, a server has sent an Offer only when a client of its service has sent a Find, and every step
can be taken. -/
theorem clients_informed {init : SdGroup γ δ ι} (constructed : init.Constructed setup)
    {trace : List (Taken (SdGroup γ δ ι) (GroupStep γ δ ι) Unit)} (run : Run step init trace group) :
    (∀ client, (group.agents.clients client).receiver.Knows (setup.serviceId client) (setup.heard client trace)) ∧
      (∀ client k behind message, group.arriving k behind = some message →
        (group.agents.clients client).receiver.Returns message) ∧
      (∀ server payload, (.offer server, payload) ∈ group.sent → group.Asked setup server) ∧
      ∀ input, ∃ group', group.step input = .ok ((), group') := by
  have sound := constructed.reached_sound run
  refine ⟨constructed.informed run, fun client k behind message arrives => ?_, fun server payload => sound.offered,
    sound.step_total⟩
  obtain ⟨datagram, -, carrying⟩ := sound.arrives arrives
  exact ((constructed.informed run client).receive setup carrying).2

/-- A client of service 1 and a server of it. -/
def sampleSetup : SdSetup Unit Unit := ⟨fun _ => 1, fun _ => ⟨⟨1, 1, 1, 0⟩, ⟨10, 0, 0, 9⟩, 80⟩⟩

def sampleGroup : SdGroup Unit Unit Unit where
  agents := ⟨fun _ => (SdFinder.make 1 false).toOption.get rfl,
    fun _ => (SdOfferer.make ⟨1, 1, 1, 0⟩ ⟨10, 0, 0, 9⟩ 80).toOption.get rfl⟩
  sent := []

theorem sampleGroup_constructed : sampleGroup.Constructed sampleSetup :=
  ⟨fun _ => ⟨false, rfl⟩, fun _ => rfl, rfl⟩

/-- The Find is lost once and repeated, and the Offer overtakes the StopOffer. -/
def sampleSteps : List (GroupStep Unit Unit Unit) :=
  [.sendFind (), .sendFind (), .toServer () () 1 [], .attempt () (), .attempt () (), .attempt () (),
    .attempt () (), .serviceStopped (), .expire (), .proceed (), .proceed (), .proceed (), .proceed (),
    .proceed (), .proceed (), .toClient () 3 [7, 7], .toClient () 2 []]

theorem clients_informed_sample : ∃ trace group, Run step sampleGroup trace group ∧
    (group.agents.clients ()).receiver.timer.ttl = cStopOfferTTL ∧
      (group.agents.clients ()).receiver.tryGetOfferedEndpoint = .ok (some ("10.0.0.9", 80)) := by
  obtain ⟨trace, group, run, seen⟩ := Run.of_seen step sampleGroup (sampleSetup.announcedIn ()) sampleSteps
    (some (cStopOfferTTL, ("10.0.0.9", 80)) :: some (cInfiniteTtl, ("10.0.0.9", 80)) ::
      List.replicate 15 none) (by decide +kernel)
  have heard : sampleSetup.heard () trace = some (cStopOfferTTL, ("10.0.0.9", 80)) := by
    rw [SdSetup.heard, ← Function.id_comp (sampleSetup.announcedIn ()), ← List.findSome?_map, seen]
    rfl
  have knows := (clients_informed sampleGroup_constructed run).1 ()
  rw [heard] at knows
  exact ⟨trace, group, run, knows.ttl, knows.endpoint⟩

end SdGroup
end AdaptiveAutosar.Com
