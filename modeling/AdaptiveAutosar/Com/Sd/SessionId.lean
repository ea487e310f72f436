import AdaptiveAutosar.Foundations.Numbered
import AdaptiveAutosar.Com.Sd.RoundTrip
import AdaptiveAutosar.Com.Sd.Server.Offers

/-! # The session IDs and the reboot flags of service discovery

`SomeIpSdClient::sendFind`, `SomeIpSdServer::sendOffer` and `onServiceStopped` each keep a message of
their own, send it and increment its session ID behind that; the network layer serialises a message when it
is sent. Any number of clients and servers share the network.
-/

namespace AdaptiveAutosar.Com
open Foundations
set_option autoImplicit false

/-- What sending and receiving use of a client. -/
structure SdFinder where
  receiver : SdReceiver
  findServiceMessage : SomeIpSdMessage

namespace SdFinder

/-- The constructor. The signal flag of the timer is not initialised. -/
def make (serviceId : UInt16) (signalFlag : Bool) : Outcome SdFinder := do
  let findServiceMessage ← SomeIpSdMessage.make
  let findServiceEntry ← ServiceEntry.createFindServiceEntry serviceId cInfiniteTtl Entry.cAnyInstanceId
    Entry.cAnyMajorVersion ServiceEntry.cAnyMinorVersion
  pure ⟨.make serviceId signalFlag, findServiceMessage.addEntry (.service findServiceEntry)⟩

inductive Event where
  | sendFind
  | receive (message : SomeIpSdMessage)

/-- The bytes sent, and the client. -/
def step (client : SdFinder) : Event → Outcome (Option Bytes × SdFinder)
  | .sendFind => .ok (some client.findServiceMessage.payload,
      { client with findServiceMessage := client.findServiceMessage.incrementSessionId.2 })
  | .receive message => .ok (none,
      { client with receiver := (client.receiver.receiveSdMessage message).2 })

end SdFinder

/-- What sending and receiving use of a server. -/
structure SdOfferer (ι : Type) where
  service : OfferedService
  offering : OfferQueue ι
  stopOfferMessage : SomeIpSdMessage

namespace SdOfferer
variable {ι : Type}

/-- The constructor. -/
def make (service : OfferedService) (ipAddress : Ipv4Address) (port : UInt16) : Outcome (SdOfferer ι) := do
  let offerServiceMessage ← SomeIpSdMessage.make
  let stopOfferMessage ← SomeIpSdMessage.make
  let offerServiceEntry ← ServiceEntry.createOfferServiceEntry service.serviceId service.instanceId
    service.majorVersion service.minorVersion cInfiniteTtl
  let stopOfferEntry := ServiceEntry.createStopOfferEntry service.serviceId service.instanceId
    service.majorVersion service.minorVersion
  let offerEndpointOption := Ipv4EndpointOption.createUnitcastEndpoint false ipAddress .tcp port
  let stopOfferEndpointOption := Ipv4EndpointOption.createUnitcastEndpoint false ipAddress .tcp port
  let offerServiceEntry ← (AnyEntry.service offerServiceEntry).addFirstOption
    (.ipv4Endpoint offerEndpointOption)
  let stopOfferEntry ← (AnyEntry.service stopOfferEntry).addFirstOption
    (.ipv4Endpoint stopOfferEndpointOption)
  pure ⟨service, .make (offerServiceMessage.addEntry offerServiceEntry),
    stopOfferMessage.addEntry stopOfferEntry⟩

inductive Event (ι : Type) where
  | offer (step : OfferStep ι)
  | serviceStopped

/-- The bytes of the Offer and of the StopOffer sent, and the server. -/
def step [DecidableEq ι] (server : SdOfferer ι) :
    Event ι → Outcome ((Option Bytes × Option Bytes) × SdOfferer ι)
  | .offer step => do
    let (_, offering) ← server.offering.step server.service step
    let offer := offering.offers[server.offering.offers.length]?
    pure ((offer.map SomeIpSdMessage.payload, none), { server with offering })
  | .serviceStopped => .ok ((none, some server.stopOfferMessage.payload),
      { server with stopOfferMessage := server.stopOfferMessage.incrementSessionId.2 })

end SdOfferer

/-! ## Agents on a network -/

/-- The message objects that are sent. -/
inductive SdSender (γ δ : Type) where
  | find (client : γ)
  | offer (server : δ)
  | stopOffer (server : δ)
  deriving DecidableEq, Repr

structure SdAgents (γ δ ι : Type) where
  clients : γ → SdFinder
  servers : δ → SdOfferer ι

inductive SdEvent (γ δ ι : Type) where
  | client (client : γ) (event : SdFinder.Event)
  | server (server : δ) (event : SdOfferer.Event ι)

namespace SdAgents
variable {γ δ ι : Type}

/-- All agents are as their constructors leave them. -/
structure Made (agents : SdAgents γ δ ι) : Prop where
  clients : ∀ client, ∃ serviceId signalFlag, SdFinder.make serviceId signalFlag = .ok (agents.clients client)
  servers : ∀ server, ∃ service ipAddress port,
    SdOfferer.make service ipAddress port = .ok (agents.servers server)

variable [DecidableEq γ] [DecidableEq δ] [DecidableEq ι]

/-- What is sent, with the object it is sent from. -/
def step (agents : SdAgents γ δ ι) :
    SdEvent γ δ ι → Outcome (Option (SdSender γ δ × Bytes) × SdAgents γ δ ι)
  | .client client event => do
    let (find, next) ← (agents.clients client).step event
    pure (find.map (fun payload => (.find client, payload)),
      { agents with clients := Function.update agents.clients client next })
  | .server server event => do
    let ((offer, stopOffer), next) ← (agents.servers server).step event
    pure ((offer.map (fun payload => (.offer server, payload))).or
        (stopOffer.map (fun payload => (.stopOffer server, payload))),
      { agents with servers := Function.update agents.servers server next })

def sentFrom (sender : SdSender γ δ) (_ : SdEvent γ δ ι) (output : Option (SdSender γ δ × Bytes)) :
    Option Bytes :=
  match output with
  | some (other, payload) => if other = sender then some payload else none
  | none => none

def messageOf (agents : SdAgents γ δ ι) : SdSender γ δ → SomeIpSdMessage
  | .find client => (agents.clients client).findServiceMessage
  | .offer server => (agents.servers server).offering.offerServiceMessage
  | .stopOffer server => (agents.servers server).stopOfferMessage

end SdAgents

/-! ## One message object -/

namespace SomeIpSdMessage

/-- The receiver reads a message with the session ID behind `n` others, and the flag as long as none has
wrapped around. -/
def Carries (n : ℕ) (payload : Bytes) : Prop :=
  ∃ message, deserialize payload = .ok message ∧ message.sessionId = SomeIpMessage.numberedSessionId n ∧
    message.rebooted = decide (n < 65535)

/-- A message that was sent `n` times. -/
structure Counted (n : ℕ) (message : SomeIpSdMessage) : Prop where
  session : message.sessionId = SomeIpMessage.numberedSessionId n
  rebooted : message.rebooted = decide (n < 65535)
  readable : ∀ entry ∈ message.entries, Readable entry
  size : message.payload.length < 2 ^ 32

theorem Counted.carries {n : ℕ} {message : SomeIpSdMessage} (h : Counted n message) :
    Carries n message.payload := by
  have read := deserialize_append message [] h.readable h.size
  rw [List.append_nil] at read
  exact ⟨message, read, h.session, h.rebooted⟩

theorem Counted.increment {n : ℕ} {message : SomeIpSdMessage} (h : Counted n message) :
    Counted (n + 1) message.incrementSessionId.2 := by
  have base := SomeIpMessage.incrementSessionId_numbered h.session
  have next : message.incrementSessionId.2 =
      { message with
        sessionId := SomeIpMessage.numberedSessionId (n + 1)
        rebooted := message.rebooted && !decide (n % 65535 = 65534) } := by
    unfold incrementSessionId
    rw [base]
  constructor
  · rw [next]
  · rw [next]
    show (message.rebooted && !decide (n % 65535 = 65534)) = _
    rw [h.rebooted, Bool.eq_iff_iff]
    simp only [Bool.and_eq_true, decide_eq_true_eq, Bool.not_eq_true', decide_eq_false_iff_not]
    -- below the first wrap the only one to come is behind 65534 others
    omega
  · exact h.readable
  · have same := h.size
    rw [payload_length] at same ⊢
    exact same

/-- A message with one service entry of one option at most, behind its constructor. -/
theorem counted_make {entry : AnyEntry} (built : entry.Built) (ttl : entry.toEntry.ttl.toNat < 2 ^ 24)
    (options : ∃ option : Option EntryOption, entry.toEntry.firstOptions = option.toList ∧
      ∀ first ∈ option, first.IsOwn)
    (second : entry.toEntry.secondOptions = []) {message : SomeIpSdMessage} (made : make = .ok message) :
    Counted 0 (message.addEntry entry) := by
  obtain ⟨option, first, own⟩ := options
  have all : entry.options = option.toList := by
    rw [AnyEntry.options, first, second, List.append_nil]
  have few : option.toList.length ≤ 1 := by
    cases option <;> simp
  rw [make_eq] at made
  cases made
  have alone : (addEntry ⟨⟨cMessageId, cClientId, 1, cProtocolVersion, cInterfaceVersion, cMessageType,
      .eOK⟩, true, []⟩ entry).entries = [entry] := rfl
  refine ⟨rfl, rfl, ?_, ?_⟩
  · rw [alone, List.forall_mem_singleton]
    exact ⟨built.admitted, ttl, by rw [first]; omega, by rw [second]; exact Nat.zero_le _,
      fun o there => own o (by rw [all] at there; exact Option.mem_toList.mp there)⟩
  · rw [payload_length, alone]
    cases option with
    | none => simp [optionRecords, all]
    | some option =>
      have length := option.payload_length (own option rfl)
      have small := option.length.toNat_lt
      simp only [optionRecords, all, List.flatMap_cons, List.flatMap_nil, List.append_nil, List.length_cons,
        List.length_nil, Option.toList_some]
      omega

end SomeIpSdMessage

theorem SdFinder.counted {serviceId : UInt16} {signalFlag : Bool} {client : SdFinder}
    (made : make serviceId signalFlag = .ok client) :
    SomeIpSdMessage.Counted 0 client.findServiceMessage := by
  have finding : ServiceEntry.createFindServiceEntry serviceId cInfiniteTtl Entry.cAnyInstanceId
      Entry.cAnyMajorVersion ServiceEntry.cAnyMinorVersion =
        .ok (ServiceEntry.make .finding serviceId Entry.cAnyInstanceId cInfiniteTtl Entry.cAnyMajorVersion
          ServiceEntry.cAnyMinorVersion) := rfl
  have ttl : cInfiniteTtl.toNat < 2 ^ 24 := by decide
  cases made
  exact SomeIpSdMessage.counted_make (.findService finding) ttl ⟨none, rfl, by simp⟩ rfl rfl

theorem SdOfferer.counted {ι : Type} {service : OfferedService} {ipAddress : Ipv4Address} {port : UInt16}
    {server : SdOfferer ι} (made : make service ipAddress port = .ok server) :
    SomeIpSdMessage.Counted 0 server.offering.offerServiceMessage ∧
      SomeIpSdMessage.Counted 0 server.stopOfferMessage := by
  let endpoint := EntryOption.ipv4Endpoint (.createUnitcastEndpoint false ipAddress .tcp port)
  have own : ∀ first ∈ some endpoint, first.IsOwn := by
    intro first there
    cases there
    trivial
  let offer := AnyEntry.service (.make .offering service.serviceId service.instanceId cInfiniteTtl
    service.majorVersion service.minorVersion)
  let stopOffer := AnyEntry.service (.createStopOfferEntry service.serviceId service.instanceId
    service.majorVersion service.minorVersion)
  have offering : ServiceEntry.createOfferServiceEntry service.serviceId service.instanceId
      service.majorVersion service.minorVersion cInfiniteTtl = .ok (.make .offering service.serviceId
        service.instanceId cInfiniteTtl service.majorVersion service.minorVersion) := rfl
  have offered : offer.addFirstOption endpoint = .ok (offer.withOptions [endpoint] []) := rfl
  have stopped : stopOffer.addFirstOption endpoint = .ok (stopOffer.withOptions [endpoint] []) := rfl
  have infinite : cInfiniteTtl.toNat < 2 ^ 24 := by decide
  have stop : cStopOfferTTL.toNat < 2 ^ 24 := by decide
  cases made
  constructor
  · exact SomeIpSdMessage.counted_make (.addFirstOption (.offerService offering) offered) infinite
      ⟨some endpoint, rfl, own⟩ rfl rfl
  · exact SomeIpSdMessage.counted_make (.addFirstOption (.stopOffer _ _ _ _) stopped) stop
      ⟨some endpoint, rfl, own⟩ rfl rfl

/-! ## What a step sends -/

/-- A step of `sendOffer` leaves the message alone, or sends it and increments it. -/
theorem OfferQueue.step_offers {ι : Type} [DecidableEq ι] {service : OfferedService}
    {state state' : OfferQueue ι} {input : OfferStep ι}
    (taken : state.step service input = .ok ((), state')) :
    (state'.offers = state.offers ∧ state'.offerServiceMessage = state.offerServiceMessage) ∨
      (state'.offers = state.offers ++ [state.offerServiceMessage] ∧
        state'.offerServiceMessage = state.offerServiceMessage.incrementSessionId.2) := by
  cases input with
  | receive receiver message =>
    left
    simp only [step] at taken
    split at taken
    · split_ifs at taken
      · cases taken
        exact ⟨rfl, rfl⟩
      · cases taken
        exact ⟨rfl, rfl⟩
    · cases taken
      exact ⟨rfl, rfl⟩
  | attempt receiver =>
    left
    obtain ⟨⟨returned, messageBuffer⟩, -, taken⟩ := bind_eq_ok.mp taken
    dsimp only at taken
    split at taken
    · cases taken
      exact ⟨rfl, rfl⟩
    · cases taken
      exact ⟨rfl, rfl⟩
    · cases taken
      exact ⟨rfl, rfl⟩
  | expire =>
    left
    simp only [step] at taken
    split at taken
    · cases taken
      exact ⟨rfl, rfl⟩
    · cases taken
      exact ⟨rfl, rfl⟩
  | proceed =>
    cases machine : state.machine with
    | resting =>
      simp only [step, machine] at taken
      cases taken
      exact .inl ⟨rfl, rfl⟩
    | checking =>
      simp only [step, machine] at taken
      split_ifs at taken
      · cases taken
        exact .inl ⟨rfl, rfl⟩
      · cases taken
        exact .inl ⟨rfl, rfl⟩
    | dequeuing =>
      left
      simp only [step, machine] at taken
      obtain ⟨⟨returned, messageBuffer⟩, -, taken⟩ := bind_eq_ok.mp taken
      dsimp only at taken
      split at taken
      · cases taken
        exact ⟨rfl, rfl⟩
      · cases taken
        exact ⟨rfl, rfl⟩
      · cases taken
        exact ⟨rfl, rfl⟩
    | sending find =>
      simp only [step, machine] at taken
      cases taken
      exact .inr ⟨rfl, rfl⟩

namespace SdAgents
variable {γ δ ι : Type} [DecidableEq γ] [DecidableEq δ] [DecidableEq ι] {agents agents' : SdAgents γ δ ι}

/-- The object of a sender stays as it is, or it goes out as it is and is incremented. -/
def Sends (agents : SdAgents γ δ ι) (event : SdEvent γ δ ι) (output : Option (SdSender γ δ × Bytes))
    (agents' : SdAgents γ δ ι) (sender : SdSender γ δ) : Prop :=
  (sentFrom sender event output = none ∧ agents'.messageOf sender = agents.messageOf sender) ∨
    (sentFrom sender event output = some (agents.messageOf sender).payload ∧
      agents'.messageOf sender = (agents.messageOf sender).incrementSessionId.2)

theorem sendFind_sends {client : γ} {output : Option (SdSender γ δ × Bytes)}
    (taken : agents.step (.client client .sendFind) = .ok (output, agents')) (sender : SdSender γ δ) :
    agents.Sends (.client client .sendFind) output agents' sender := by
  cases taken
  by_cases same : SdSender.find client = sender
  · subst same
    right
    simp [sentFrom, messageOf]
  · left
    cases sender with
    | find other =>
      have different : other ≠ client := fun equal => same (equal ▸ rfl)
      simp [sentFrom, messageOf, different, different.symm]
    | offer _ => exact ⟨rfl, rfl⟩
    | stopOffer _ => exact ⟨rfl, rfl⟩

theorem receive_sends {client : γ} {message : SomeIpSdMessage} {output : Option (SdSender γ δ × Bytes)}
    (taken : agents.step (.client client (.receive message)) = .ok (output, agents')) (sender : SdSender γ δ) :
    agents.Sends (.client client (.receive message)) output agents' sender := by
  cases taken
  left
  refine ⟨rfl, ?_⟩
  cases sender with
  | find other =>
    by_cases same : other = client
    · subst same
      simp [messageOf]
    · simp [messageOf, same]
  | offer _ => rfl
  | stopOffer _ => rfl

theorem offer_sends {server : δ} {step : OfferStep ι} {output : Option (SdSender γ δ × Bytes)}
    (taken : agents.step (.server server (.offer step)) = .ok (output, agents')) (sender : SdSender γ δ) :
    agents.Sends (.server server (.offer step)) output agents' sender := by
  unfold Sends
  obtain ⟨⟨⟨offer, stopOffer⟩, next⟩, stepped, taken⟩ := bind_eq_ok.mp taken
  obtain ⟨⟨⟨⟩, offering⟩, offered, stepped⟩ := bind_eq_ok.mp stepped
  cases stepped
  cases taken
  rcases OfferQueue.step_offers offered with ⟨offers, message⟩ | ⟨offers, message⟩
  · left
    rw [offers]
    simp only [List.getElem?_eq_none le_rfl]
    refine ⟨rfl, ?_⟩
    cases sender with
    | find _ => rfl
    | offer other | stopOffer other =>
      by_cases same : other = server
      · subst same
        simp [messageOf, message]
      · simp [messageOf, same]
  · rw [offers]
    simp only [List.getElem?_concat_length]
    by_cases same : SdSender.offer server = sender
    · subst same
      right
      simp [sentFrom, messageOf, message]
    · left
      refine ⟨by simp [sentFrom, same], ?_⟩
      cases sender with
      | find _ => rfl
      | offer other =>
        have different : other ≠ server := fun equal => same (equal ▸ rfl)
        simp [messageOf, different]
      | stopOffer other =>
        by_cases here : other = server
        · subst here
          simp [messageOf]
        · simp [messageOf, here]

theorem serviceStopped_sends {server : δ} {output : Option (SdSender γ δ × Bytes)}
    (taken : agents.step (.server server .serviceStopped) = .ok (output, agents')) (sender : SdSender γ δ) :
    agents.Sends (.server server .serviceStopped) output agents' sender := by
  cases taken
  by_cases same : SdSender.stopOffer server = sender
  · subst same
    right
    simp [sentFrom, messageOf]
  · left
    refine ⟨by simp [sentFrom, same], ?_⟩
    cases sender with
    | find _ => rfl
    | stopOffer other =>
      have different : other ≠ server := fun equal => same (equal ▸ rfl)
      simp [messageOf, different]
    | offer other =>
      by_cases here : other = server
      · subst here
        simp [messageOf]
      · simp [messageOf, here]

theorem step_sends {event : SdEvent γ δ ι} {output : Option (SdSender γ δ × Bytes)}
    (taken : agents.step event = .ok (output, agents')) (sender : SdSender γ δ) :
    agents.Sends event output agents' sender := by
  cases event with
  | client client event =>
    cases event with
    | sendFind => exact sendFind_sends taken sender
    | receive message => exact receive_sends taken sender
  | server server event =>
    cases event with
    | offer step => exact offer_sends taken sender
    | serviceStopped => exact serviceStopped_sends taken sender

omit [DecidableEq γ] [DecidableEq δ] [DecidableEq ι] in
theorem Made.counted (made : agents.Made) (sender : SdSender γ δ) :
    (agents.messageOf sender).Counted 0 := by
  cases sender with
  | find client =>
    obtain ⟨_, _, made⟩ := made.clients client
    exact SdFinder.counted made
  | offer server =>
    obtain ⟨_, _, _, made⟩ := made.servers server
    exact (SdOfferer.counted made).1
  | stopOffer server =>
    obtain ⟨_, _, _, made⟩ := made.servers server
    exact (SdOfferer.counted made).2

/-- In every run of any clients and servers: the message sent from an object behind `k` others is read with
the session ID `k % 65535 + 1`, and with the reboot flag exactly as long as `k < 65535`. -/
theorem sdMessages_numbered (made : agents.Made)
    {trace : List (Taken (SdAgents γ δ ι) (SdEvent γ δ ι) (Option (SdSender γ δ × Bytes)))}
    (run : Run step agents trace agents') (sender : SdSender γ δ) {k : ℕ} {payload : Bytes}
    (sent : (sentFor sentFrom sender trace)[k]? = some payload) :
    ∃ message, SomeIpSdMessage.deserialize payload = .ok message ∧
      message.sessionId.toNat = k % 65535 + 1 ∧ message.sessionId ≠ 0 ∧
      (message.rebooted = true ↔ k + 1 ≤ 65535) := by
  let calls (_ : SdSender γ δ) : ℕ → Bytes → Prop := SomeIpSdMessage.Carries
  have carries : calls sender k payload := by
    let agrees (counts : SdSender γ δ → ℕ) (agents : SdAgents γ δ ι) : Prop :=
      ∀ sender, (agents.messageOf sender).Counted (counts sender)
    have start : agrees (fun _ => 0) agents := made.counted
    refine Run.numbered start ?_ run sender sent
    intro counts agents event output agents' counted taken
    constructor
    · intro sender
      rcases step_sends taken sender with ⟨unsent, message⟩ | ⟨sent, message⟩
      · rw [message, Run.counted, unsent]
        exact counted sender
      · rw [message, Run.counted, sent]
        exact (counted sender).increment
    · intro sender payload sent
      rcases step_sends taken sender with ⟨unsent, -⟩ | ⟨sent', -⟩
      · rw [unsent] at sent
        cases sent
      · rw [sent'] at sent
        cases sent
        exact (counted sender).carries
  obtain ⟨message, read, session, rebooted⟩ := carries
  refine ⟨message, read, ?_, ?_, ?_⟩
  · rw [session, SomeIpMessage.numberedSessionId_toNat]
  · rw [session]
    exact SomeIpMessage.numberedSessionId_ne_zero _
  · rw [rebooted, decide_eq_true_eq]
    exact Nat.lt_iff_add_one_le

/-- A client sends two Finds; in between an Offer comes in and the server stops. -/
def twoFinds : List (SdEvent Unit Unit Unit) :=
  [.client () .sendFind, .client () (.receive SdReceiver.foreignOffer), .server () .serviceStopped,
    .client () .sendFind]

theorem sdMessages_numbered_twoFinds : ∃ (agents : SdAgents Unit Unit Unit) (payload : Bytes)
    (message : SomeIpSdMessage), agents.Made ∧
      (∃ trace agents', Run.play step [] agents twoFinds = .ok (trace, agents') ∧
        (sentFor sentFrom (.find ()) trace)[1]? = some payload) ∧
      SomeIpSdMessage.deserialize payload = .ok message ∧ message.sessionId.toNat = 2 ∧
      message.rebooted = true := by
  obtain ⟨client, server, trace, agents', payload, client_made, server_made, played, sent⟩ :
      ∃ client server trace agents' payload, SdFinder.make 1 false = .ok client ∧
        SdOfferer.make ⟨2, 1, 1, 0⟩ ⟨10, 0, 0, 1⟩ 80 = .ok server ∧
        Run.play step [] (⟨fun _ => client, fun _ => server⟩ : SdAgents Unit Unit Unit) twoFinds =
          .ok (trace, agents') ∧
        (sentFor sentFrom (.find ()) trace)[1]? = some payload := ⟨_, _, _, _, _, rfl, rfl, rfl, rfl⟩
  have made : (⟨fun _ => client, fun _ => server⟩ : SdAgents Unit Unit Unit).Made :=
    ⟨fun _ => ⟨_, _, client_made⟩, fun _ => ⟨_, _, _, server_made⟩⟩
  obtain ⟨message, read, session, -, rebooted⟩ :=
    sdMessages_numbered made (Run.of_play .start played) (.find ()) sent
  exact ⟨_, payload, message, made, ⟨trace, agents', played, sent⟩, read, session, rebooted.mpr (by decide)⟩

end SdAgents
end AdaptiveAutosar.Com
