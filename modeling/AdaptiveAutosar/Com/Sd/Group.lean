import AdaptiveAutosar.Com.Sd.NetworkLayer
import AdaptiveAutosar.Com.Sd.SessionId

/-! # Discovery between clients and servers

Any number of `SomeIpSdClient` and `SomeIpSdServer` objects on one group, and nobody else. A datagram that
was sent may come to any of them any number of times, in any order, or never; behind the message the
buffer is as it was. What a client receives is read to its end in one step, and the threads of a server
may interleave anywhere.
-/

namespace AdaptiveAutosar.Com
open Foundations
set_option autoImplicit false

/-- The message that `SdNetworkLayer::onReceive` hands on from a datagram from the SD port. -/
def SdNetworkLayer.handedOn (datagram : Bytes) : Option SomeIpSdMessage :=
  let received := receive cBufferSize datagram
  match serviceIdOf received with
  | .error _ => none
  | .ok serviceId =>
    if serviceId ≠ cSdServiceId then none else (SomeIpSdMessage.deserialize received).toOption

theorem SdNetworkLayer.carries_iff {σ : Type} (layer : SdNetworkLayer σ) (datagram : Bytes) (port : UInt16)
    (message : SomeIpSdMessage) :
    layer.Carries datagram port message ↔ port = layer.destination.port ∧ handedOn datagram = some message := by
  unfold Carries handedOn
  refine and_congr_right fun _ => ?_
  generalize receive cBufferSize datagram = received
  dsimp only
  cases serviceIdOf received with
  | error fault => simp
  | ok serviceId =>
    simp only [Except.ok.injEq, ne_eq, ite_not]
    by_cases sd : serviceId = cSdServiceId
    · cases SomeIpSdMessage.deserialize received with
      | error fault => simp [sd, Except.toOption]
      | ok read => simp [sd, Except.toOption]
    · simp [sd]

/-! ## The group -/

/-- The arguments of the constructor of a server. -/
structure ServerArguments where
  service : OfferedService
  ipAddress : Ipv4Address
  port : UInt16
  deriving DecidableEq, Repr

namespace ServerArguments

def endpoint (arguments : ServerArguments) : OfferedEndpoint := (arguments.ipAddress.toString, arguments.port)

/-- The entry of the Offer and of the StopOffer. -/
def offerEntry (arguments : ServerArguments) (ttl : UInt32) : AnyEntry :=
  (AnyEntry.service (.make .offering arguments.service.serviceId arguments.service.instanceId ttl
    arguments.service.majorVersion arguments.service.minorVersion)).withOptions
      [.ipv4Endpoint (.createUnitcastEndpoint false arguments.ipAddress .tcp arguments.port)] []

end ServerArguments

/-- The services that the clients look for, and the servers. -/
structure SdSetup (γ δ : Type) where
  serviceId : γ → UInt16
  server : δ → ServerArguments

/-- `sent` are all datagrams sent, with the objects they were sent from. -/
structure SdGroup (γ δ ι : Type) where
  agents : SdAgents γ δ ι
  sent : List (SdSender γ δ × Bytes)

/-- `toClient` and `toServer` are the reception of a datagram sent, with what stands behind it in the
buffer. -/
inductive GroupStep (γ δ ι : Type) where
  | sendFind (client : γ)
  | serviceStopped (server : δ)
  | expire (server : δ)
  | proceed (server : δ)
  | attempt (server : δ) (receiver : ι)
  | toClient (client : γ) (k : ℕ) (behind : Bytes)
  | toServer (server : δ) (receiver : ι) (k : ℕ) (behind : Bytes)

namespace SdGroup
variable {γ δ ι : Type}

def arriving (group : SdGroup γ δ ι) (k : ℕ) (behind : Bytes) : Option SomeIpSdMessage :=
  group.sent[k]?.bind fun datagram => SdNetworkLayer.handedOn (datagram.2 ++ behind)

def event (group : SdGroup γ δ ι) : GroupStep γ δ ι → Option (SdEvent γ δ ι)
  | .sendFind client => some (.client client .sendFind)
  | .serviceStopped server => some (.server server .serviceStopped)
  | .expire server => some (.server server (.offer .expire))
  | .proceed server => some (.server server (.offer .proceed))
  | .attempt server receiver => some (.server server (.offer (.attempt receiver)))
  | .toClient client k behind => (group.arriving k behind).map fun message => .client client (.receive message)
  | .toServer server receiver k behind =>
    (group.arriving k behind).map fun message => .server server (.offer (.receive receiver message))

variable [DecidableEq γ] [DecidableEq δ] [DecidableEq ι]

def step (group : SdGroup γ δ ι) (input : GroupStep γ δ ι) : Outcome (Unit × SdGroup γ δ ι) :=
  match group.event input with
  | none => .ok ((), group)
  | some event => do
    let (output, agents) ← group.agents.step event
    pure ((), ⟨agents, group.sent ++ output.toList⟩)

/-- All agents are as their constructors leave them, and nothing is sent. -/
structure Constructed (setup : SdSetup γ δ) (group : SdGroup γ δ ι) : Prop where
  clients : ∀ client, ∃ signalFlag,
    SdFinder.make (setup.serviceId client) signalFlag = .ok (group.agents.clients client)
  servers : ∀ server, SdOfferer.make (setup.server server).service (setup.server server).ipAddress
    (setup.server server).port = .ok (group.agents.servers server)
  silent : group.sent = []

end SdGroup

/-! ## What a client is to know -/

/-- A TTL and an endpoint. -/
abbrev Announcement := UInt32 × OfferedEndpoint

namespace SdSetup
variable {γ δ ι : Type} (setup : SdSetup γ δ)

/-- What the messages of an object announce to the clients of a service. -/
def announces (serviceId : UInt16) : SdSender γ δ → Option Announcement
  | .find _ => none
  | .offer server =>
    if (setup.server server).service.serviceId = serviceId then
      some (cInfiniteTtl, (setup.server server).endpoint)
    else none
  | .stopOffer server =>
    if (setup.server server).service.serviceId = serviceId then
      some (cStopOfferTTL, (setup.server server).endpoint)
    else none

variable [DecidableEq γ]

/-- What a step announces to a client. -/
def announcedIn (client : γ) (taken : Taken (SdGroup γ δ ι) (GroupStep γ δ ι) Unit) : Option Announcement :=
  match taken.input with
  | .toClient receiver k _ =>
    if receiver = client then
      taken.before.sent[k]?.bind fun datagram => setup.announces (setup.serviceId client) datagram.1
    else none
  | _ => none

/-- The latest announcement that came to a client. -/
def heard (client : γ) (trace : List (Taken (SdGroup γ δ ι) (GroupStep γ δ ι) Unit)) : Option Announcement :=
  trace.findSome? (setup.announcedIn client)

theorem heard_cons (client : γ) (taken : Taken (SdGroup γ δ ι) (GroupStep γ δ ι) Unit)
    (trace : List (Taken (SdGroup γ δ ι) (GroupStep γ δ ι) Unit)) :
    setup.heard client (taken :: trace) = (setup.announcedIn client taken).or (setup.heard client trace) := by
  rw [heard, List.findSome?_cons]
  cases setup.announcedIn client taken with
  | none => rfl
  | some announcement => rfl

/-- The one entry of the messages of an object. -/
def entryOf (setup : SdSetup γ δ) : SdSender γ δ → AnyEntry
  | .find client => .service (.make .finding (setup.serviceId client) Entry.cAnyInstanceId cInfiniteTtl
      Entry.cAnyMajorVersion ServiceEntry.cAnyMinorVersion)
  | .offer server => (setup.server server).offerEntry cInfiniteTtl
  | .stopOffer server => (setup.server server).offerEntry cStopOfferTTL

end SdSetup

/-! ## One message -/

/-- A message of one entry that the network layer brings over. -/
structure Carrying (entry : AnyEntry) (message : SomeIpSdMessage) : Prop where
  deliverable : SdNetworkLayer.Deliverable message
  entries : message.entries = [entry]

section Message
variable {γ δ ι : Type} {entry : AnyEntry} {message : SomeIpSdMessage}

theorem Carrying.increment (h : Carrying entry message) : Carrying entry message.incrementSessionId.2 := by
  have same : message.incrementSessionId.2.messageId = message.messageId := by
    unfold SomeIpSdMessage.incrementSessionId SomeIpMessage.incrementSessionId
    split_ifs <;> rfl
  refine ⟨⟨same.trans h.deliverable.sd, h.deliverable.readable, ?_⟩, h.entries⟩
  have fits := h.deliverable.fits
  rw [SomeIpSdMessage.payload_length] at fits ⊢
  exact fits

/-- Whatever stands behind it, the layer hands the message on. -/
theorem Carrying.handedOn (h : Carrying entry message) (behind : Bytes) :
    SdNetworkLayer.handedOn (message.payload ++ behind) = some message := by
  have fits := h.deliverable.fits
  have received : receive SdNetworkLayer.cBufferSize (message.payload ++ behind) =
      message.payload ++ behind.take (SdNetworkLayer.cBufferSize - message.payload.length) := by
    rw [receive, List.take_append, List.take_of_length_le fits]
  have small : message.payload.length < 2 ^ 32 := lt_of_le_of_lt fits (by decide)
  unfold SdNetworkLayer.handedOn
  simp only [received, SdNetworkLayer.serviceIdOf_payload h.deliverable.sd,
    message.deserialize_append _ h.deliverable.readable small]
  rfl

/-- The message of every object behind the constructors. -/
theorem carrying_of_counted (counted : message.Counted 0) (sd : message.messageId = SomeIpSdMessage.cMessageId)
    (entries : message.entries = [entry]) (options : entry.options = [] ∨
      ∃ option : Ipv4EndpointOption, entry.options = [.ipv4Endpoint option]) : Carrying entry message := by
  refine ⟨⟨sd, counted.readable, ?_⟩, entries⟩
  rw [SomeIpSdMessage.payload_length, entries]
  rcases options with none | ⟨option, one⟩
  · simp [SomeIpSdMessage.optionRecords, none, SdNetworkLayer.cBufferSize]
  · have length := (EntryOption.ipv4Endpoint option).payload_length trivial
    have nine : (EntryOption.ipv4Endpoint option).length.toNat = 9 := rfl
    simp only [SomeIpSdMessage.optionRecords, one, List.flatMap_cons, List.flatMap_nil, List.append_nil,
      List.length_cons, List.length_nil, SdNetworkLayer.cBufferSize]
    omega

/-- A message of one entry is one of a service as the entry is. -/
theorem OfferedService.matchOfferingService_one (service : OfferedService) (entry : AnyEntry) :
    service.matchOfferingService [entry] = service.Finds entry := by
  cases entry with
  | eventgroup entry => rfl
  | service entry =>
    simp only [matchOfferingService, Finds]
    split_ifs with finding <;> simp [finding]

end Message

namespace ServerArguments
variable (arguments : ServerArguments) (serviceId : UInt16) (ttl : UInt32)

theorem matchRequestedService_offerEntry :
    SomeIpSdClient.matchRequestedService serviceId [arguments.offerEntry ttl] =
      if arguments.service.serviceId = serviceId then some ttl else none := rfl

theorem tryExtractOfferedEndpoint_offerEntry :
    SomeIpSdClient.tryExtractOfferedEndpoint [arguments.offerEntry ttl] = .ok (some arguments.endpoint) := rfl

end ServerArguments

end AdaptiveAutosar.Com
