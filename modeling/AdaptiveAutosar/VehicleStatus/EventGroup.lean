import Mathlib.Data.List.Forall2
import Mathlib.Logic.Function.Basic
import AdaptiveAutosar.VehicleStatus.Service
import AdaptiveAutosar.Foundations.Transition

/-! # An event group

Any number of vehicle status skeletons, other publishers, and a proxy, all in one event group. A datagram that was sent
may reach the proxy at any time, any number of times or never.
-/

namespace AdaptiveAutosar.VehicleStatus
open Foundations Com
set_option autoImplicit false

/-- Who published what a datagram carries. -/
inductive Origin (ι : Type) where
  | skeleton (i : ι) (event : VehicleStatusData)
  | other
  deriving DecidableEq, Repr

structure EventGroup (ι : Type) where
  skeleton : ι → VehicleStatusSkeleton
  /-- The events in the sending queue of each skeleton. -/
  pending : ι → List VehicleStatusData
  datagrams : List (Origin ι × Bytes)
  proxy : VehicleStatusProxy

inductive Action (ι : Type) where
  | offerService (i : ι)
  | stopOfferService (i : ι)
  | subscription (i : ι) (message : SomeIpSdMessage)
  | send (i : ι) (event : VehicleStatusData) (locked : Bool)
  /-- One round of the loop that sends what is in the queue. -/
  | transmit (i : ι)
  | publish (datagram : Bytes)
  | setReceiveHandler
  | unsetReceiveHandler
  | receive (n : ℕ)
  deriving DecidableEq, Repr

namespace EventGroup
variable {ι : Type} [DecidableEq ι]

def start (offered : ι → OfferedEventgroup) (destination : ι → Destination) (proxy : VehicleStatusProxy) :
    EventGroup ι :=
  ⟨fun i => .make (offered i) (destination i), fun _ => [], [], proxy⟩

def update (group : EventGroup ι) (i : ι) (skeleton : VehicleStatusSkeleton) (events : List VehicleStatusData) :
    EventGroup ι :=
  { group with
    skeleton := Function.update group.skeleton i skeleton
    pending := Function.update group.pending i events }

/-- A call of the skeleton's publish-subscribe server. -/
def callServer (group : EventGroup ι) (i : ι) (call : PubSubCall) : Outcome (EventGroup ι) := do
  let (_, pubSubServer) ← (group.skeleton i).pubSubServer.step call
  pure (group.update i { group.skeleton i with pubSubServer } (group.pending i))

/-- The event is in the queue behind the call if the queue has grown. -/
def send (group : EventGroup ι) (i : ι) (event : VehicleStatusData) (locked : Bool) : EventGroup ι :=
  let skeleton := (group.skeleton i).eventsVehicleStatusSend event locked
  group.update i skeleton
    (if skeleton.eventLayer.sendingQueue = (group.skeleton i).eventLayer.sendingQueue then group.pending i
      else group.pending i ++ [event])

def transmit (group : EventGroup ι) (i : ι) : Outcome (EventGroup ι) := do
  let (sent, eventLayer) ← (group.skeleton i).eventLayer.onSend [true]
  match group.pending i with
  | [] => pure group
  | event :: rest =>
    pure { group.update i { group.skeleton i with eventLayer } rest with
      datagrams := group.datagrams ++ sent.map fun datagram => (.skeleton i event, datagram.bytes) }

/-- A step, and what the handler is called with in it. -/
def step (group : EventGroup ι) : Action ι → Outcome (List (Origin ι × VehicleStatusData) × EventGroup ι)
  | .offerService i => do pure ([], ← group.callServer i .start)
  | .stopOfferService i => do pure ([], ← group.callServer i .stop)
  | .subscription i message => do pure ([], ← group.callServer i (.receive message))
  | .send i event locked => .ok ([], group.send i event locked)
  | .transmit i => do pure ([], ← group.transmit i)
  | .publish datagram => .ok ([], { group with datagrams := group.datagrams ++ [(.other, datagram)] })
  | .setReceiveHandler => .ok ([], { group with proxy := { group.proxy with receiveHandler := true } })
  | .unsetReceiveHandler => .ok ([], { group with proxy := { group.proxy with receiveHandler := false } })
  | .receive n =>
    match group.datagrams[n]? with
    | none => .ok ([], group)
    | some (origin, datagram) => do
      let called ← group.proxy.onReceive datagram
      pure (called.map fun data => (origin, data), group)

/-! ## What is sent for an event -/

section Sent
variable {offered : OfferedEventgroup} {event : VehicleStatusData}

/-- What the skeleton writes for the event. -/
def payloadOf (offered : OfferedEventgroup) (event : VehicleStatusData) : Bytes :=
  (event.sentBy offered.instanceId).serialize

def Notifies (offered : OfferedEventgroup) (event : VehicleStatusData) (notification : Bytes) : Prop :=
  ∃ server : SomeIpPubSubServer, server.offered = offered ∧
    notification = server.notificationHeader cTelematicEventId (payloadOf offered event) ++ payloadOf offered event

/-- The event's notification, padded to the whole buffer. -/
def Carries (offered : OfferedEventgroup) (event : VehicleStatusData) (datagram : Bytes) : Prop :=
  ∃ server : SomeIpPubSubServer, server.offered = offered ∧
    datagram = server.notificationHeader cTelematicEventId (payloadOf offered event) ++
      (payloadOf offered event ++ List.replicate 221 0)

theorem payloadOf_length (offered : OfferedEventgroup) (event : VehicleStatusData) :
    (payloadOf offered event).length = 19 := VehicleStatusData.serialize_length _

theorem Carries.of_notifies {notification : Bytes} (notifies : Notifies offered event notification)
    (destination : Destination) : ∃ sent : List Datagram,
      destination.transmit (Buffer.zero PubSubEventNetworkLayer.cBufferSize) notification = .ok sent ∧
        ∀ datagram ∈ sent, Carries offered event datagram.bytes := by
  obtain ⟨server, same, rfl⟩ := notifies
  have size := payloadOf_length offered event
  have short : (payloadOf offered event).length ≤ 240 := by omega
  obtain ⟨filled, transmitted, content⟩ := server.transmit_notification destination cTelematicEventId short
  refine ⟨_, transmitted, ?_⟩
  intro datagram there
  rw [Destination.bytes_of_mem there, content, size]
  exact ⟨server, same, rfl⟩

variable {datagram : Bytes}

theorem Carries.service (carries : Carries offered event datagram) :
    serviceIdOf datagram = .ok offered.serviceId := by
  obtain ⟨server, rfl, rfl⟩ := carries
  exact server.serviceIdOf_notification cTelematicEventId _ _

theorem Carries.sender (carries : Carries offered event datagram) :
    datagram[34]? = some offered.instanceId.toUInt8 := by
  obtain ⟨server, rfl, rfl⟩ := carries
  obtain ⟨vin, size, same⟩ := (event.sentBy server.offered.instanceId).serialize_vin
  have header : (server.notificationHeader cTelematicEventId (payloadOf server.offered event)).length = 16 :=
    server.notificationHeader_length _ _
  rw [List.getElem?_append_right (by rw [header]; decide), header, payloadOf, same, List.append_assoc,
    List.getElem?_append_right (by rw [size]; decide), size]
  rfl

/-- Behind the header of what is received there is the payload. -/
theorem Carries.received (carries : Carries offered event datagram) :
    (receive PubSubEventReceiver.cBufferSize datagram).drop PubSubEventReceiver.cSomeIpHeaderSize =
      payloadOf offered event ++ List.replicate 221 0 := by
  obtain ⟨server, rfl, rfl⟩ := carries
  have header : (server.notificationHeader cTelematicEventId (payloadOf server.offered event)).length = 16 :=
    server.notificationHeader_length _ _
  have size := payloadOf_length server.offered event
  rw [receive, List.take_of_length_le]
  · exact List.drop_left' header
  · rw [List.length_append, List.length_append, List.length_replicate, header, size, PubSubEventReceiver.cBufferSize]

end Sent

/-! ## The queues and the datagrams of a run -/

/-- The skeleton as it was configured, with the notifications of the events in its queue. -/
structure Queued (offered : OfferedEventgroup) (skeleton : VehicleStatusSkeleton) (events : List VehicleStatusData) :
    Prop where
  offers : skeleton.pubSubServer.offered = offered
  instance_id : skeleton.instanceId = offered.instanceId
  counted : skeleton.pubSubServer.Counted
  queue : List.Forall₂ (Notifies offered) events skeleton.eventLayer.sendingQueue

structure Consistent (offered : ι → OfferedEventgroup) (group : EventGroup ι) : Prop where
  queued : ∀ i, Queued (offered i) (group.skeleton i) (group.pending i)
  carried : ∀ i event datagram, (.skeleton i event, datagram) ∈ group.datagrams → Carries (offered i) event datagram

section Steps
variable {offered : OfferedEventgroup} {skeleton : VehicleStatusSkeleton} {events : List VehicleStatusData}

theorem queued_make (offered : OfferedEventgroup) (destination : Destination) :
    Queued offered (.make offered destination) [] where
  offers := rfl
  instance_id := rfl
  counted := SomeIpPubSubServer.counted_of_other
    (by simp [VehicleStatusSkeleton.make, SomeIpPubSubServer.make, SomeIpPubSubServer.setEventLayer])
  queue := .nil

theorem Queued.callServer (queued : Queued offered skeleton events) {call : PubSubCall} {sent : List SomeIpSdMessage}
    {pubSubServer : SomeIpPubSubServer} (taken : skeleton.pubSubServer.step call = .ok (sent, pubSubServer)) :
    Queued offered { skeleton with pubSubServer } events := by
  obtain ⟨counted, same⟩ := queued.counted.step taken
  exact ⟨same.trans queued.offers, queued.instance_id, counted, queued.queue⟩

theorem Queued.send (queued : Queued offered skeleton events) (event : VehicleStatusData) (locked : Bool) :
    Queued offered (skeleton.eventsVehicleStatusSend event locked)
      (if (skeleton.eventsVehicleStatusSend event locked).eventLayer.sendingQueue =
          skeleton.eventLayer.sendingQueue then events else events ++ [event]) := by
  obtain ⟨given, pubSubServer, published, left⟩ := skeleton.eventsVehicleStatusSend_cases event locked
  have stepped : skeleton.pubSubServer.step
      (.publish cTelematicEventId (event.sentBy skeleton.instanceId).serialize) = .ok ([], pubSubServer) := by
    rw [SomeIpPubSubServer.step, published]
  obtain ⟨counted, same⟩ := queued.counted.step stepped
  have offers := same.trans queued.offers
  rcases left with left | ⟨notification, rfl, left⟩
  · rw [left, if_pos rfl]
    exact ⟨offers, queued.instance_id, counted, queued.queue⟩
  · have first : (skeleton.pubSubServer.publish cTelematicEventId (event.sentBy skeleton.instanceId).serialize).1 =
        some notification := congrArg Prod.fst published
    rw [queued.instance_id] at first
    obtain ⟨-, same⟩ := (SomeIpPubSubServer.publish_eq_some _ _ _).mp first
    have notifies : Notifies offered event notification := ⟨skeleton.pubSubServer, queued.offers, same⟩
    have grown : skeleton.eventLayer.sendingQueue ++ [notification] ≠ skeleton.eventLayer.sendingQueue := by simp
    rw [left, if_neg grown]
    exact ⟨offers, queued.instance_id, counted, List.rel_append queued.queue (.cons notifies .nil)⟩

theorem onSend_nil {layer : PubSubEventNetworkLayer} (none : layer.sendingQueue = []) :
    layer.onSend [true] = .ok ([], layer) := by
  cases layer
  subst none
  rfl

theorem onSend_cons {layer : PubSubEventNetworkLayer} {notification : Bytes} {rest : List Bytes} {sent : List Datagram}
    (queue : layer.sendingQueue = notification :: rest)
    (transmitted :
      layer.destination.transmit (Buffer.zero PubSubEventNetworkLayer.cBufferSize) notification = .ok sent) :
    layer.onSend [true] = .ok (sent, { layer with sendingQueue := rest }) := by
  simp [PubSubEventNetworkLayer.onSend, queue, Destination.drain, ConcurrentQueue.tryDequeue, transmitted, bind,
    Except.bind, pure, Except.pure]

end Steps

variable {offered : ι → OfferedEventgroup} {group group' : EventGroup ι}

theorem Consistent.update (consistent : Consistent offered group) {i : ι} {skeleton : VehicleStatusSkeleton}
    {events : List VehicleStatusData} (queued : Queued (offered i) skeleton events) :
    Consistent offered (group.update i skeleton events) where
  queued := by
    intro j
    by_cases same : j = i
    · subst same
      unfold EventGroup.update
      dsimp only
      rw [Function.update_self, Function.update_self]
      exact queued
    · unfold EventGroup.update
      dsimp only
      rw [Function.update_of_ne same, Function.update_of_ne same]
      exact consistent.queued j
  carried := consistent.carried

theorem Consistent.callServer (consistent : Consistent offered group) {i : ι} {call : PubSubCall}
    (taken : group.callServer i call = .ok group') : Consistent offered group' := by
  unfold EventGroup.callServer at taken
  obtain ⟨⟨sent, pubSubServer⟩, stepped, done⟩ := bind_eq_ok.mp taken
  cases done
  exact consistent.update ((consistent.queued i).callServer stepped)

theorem Consistent.transmit (consistent : Consistent offered group) {i : ι}
    (taken : group.transmit i = .ok group') : Consistent offered group' := by
  have queued := consistent.queued i
  have queue := queued.queue
  unfold EventGroup.transmit at taken
  cases pending : group.pending i with
  | nil =>
    rw [pending] at queue taken
    rw [onSend_nil (List.forall₂_nil_left_iff.mp queue)] at taken
    cases taken
    exact consistent
  | cons event rest =>
    rw [pending] at queue taken
    obtain ⟨notification, left, notifies, later, same⟩ := List.forall₂_cons_left_iff.mp queue
    obtain ⟨sent, transmitted, carries⟩ := Carries.of_notifies notifies (group.skeleton i).eventLayer.destination
    rw [onSend_cons same transmitted] at taken
    cases taken
    have shorter : Queued (offered i)
        { group.skeleton i with eventLayer := { (group.skeleton i).eventLayer with sendingQueue := left } } rest :=
      ⟨queued.offers, queued.instance_id, queued.counted, later⟩
    refine ⟨(consistent.update shorter).queued, ?_⟩
    intro j other datagram there
    rcases List.mem_append.mp there with earlier | now
    · exact consistent.carried j other datagram earlier
    · obtain ⟨sent_, inside, same⟩ := List.mem_map.mp now
      cases same
      exact carries sent_ inside

omit [DecidableEq ι] in
theorem Consistent.publish (consistent : Consistent offered group) (datagram : Bytes) :
    Consistent offered { group with datagrams := group.datagrams ++ [(.other, datagram)] } where
  queued := consistent.queued
  carried := by
    intro i event carried there
    rcases List.mem_append.mp there with earlier | now
    · exact consistent.carried i event carried earlier
    · cases List.mem_singleton.mp now

/-- Every step keeps the queues and the datagrams those of what was published. -/
theorem Consistent.step (consistent : Consistent offered group) {action : Action ι}
    {called : List (Origin ι × VehicleStatusData)} (taken : group.step action = .ok (called, group')) :
    Consistent offered group' := by
  cases action with
  | offerService i | stopOfferService i | subscription i _ =>
    obtain ⟨after, stepped, done⟩ := bind_eq_ok.mp taken
    cases done
    exact consistent.callServer stepped
  | send i event locked =>
    cases taken
    exact consistent.update ((consistent.queued i).send event locked)
  | transmit i =>
    obtain ⟨after, stepped, done⟩ := bind_eq_ok.mp taken
    cases done
    exact consistent.transmit stepped
  | publish datagram =>
    cases taken
    exact consistent.publish datagram
  | setReceiveHandler | unsetReceiveHandler =>
    cases taken
    exact ⟨consistent.queued, consistent.carried⟩
  | receive n =>
    cases found : group.datagrams[n]? with
    | none =>
      rw [EventGroup.step, found] at taken
      cases taken
      exact consistent
    | some datagram =>
      rw [EventGroup.step, found] at taken
      obtain ⟨received, -, done⟩ := bind_eq_ok.mp taken
      cases done
      exact consistent

/-! ## Whose events the handler is called for -/

/-- The skeleton of the proxy's service and peer instance. -/
def IsPeer (group : EventGroup ι) (i : ι) : Prop :=
  (group.skeleton i).pubSubServer.offered.serviceId = group.proxy.serviceId ∧
    (group.skeleton i).instanceId = group.proxy.peerInstanceId

/-- The handler is called for events of the peer only, and with what was published if its VIN fits. -/
def FromPeer (taken : Taken (EventGroup ι) (Action ι) (List (Origin ι × VehicleStatusData))) : Prop :=
  ∀ origin data, (origin, data) ∈ taken.output → ∃ i event, origin = .skeleton i event ∧ taken.before.IsPeer i ∧
    (event.HasVin → data = event.sentBy (taken.before.skeleton i).instanceId)

/-- The datagram is the peer's, or of the service discovery, or the low byte of the peer is not where the sender of an
event stands. In an event of a skeleton that byte is the low one of its instance. -/
def Harmless (group : EventGroup ι) (datagram : Bytes) : Origin ι → Prop
  | .skeleton i _ =>
    group.IsPeer i ∨ (group.skeleton i).pubSubServer.offered.serviceId = cSdServiceId ∨
      (group.skeleton i).instanceId.toUInt8 ≠ group.proxy.peerInstanceId.toUInt8
  | .other => serviceIdOf datagram = .ok cSdServiceId ∨ datagram[34]? ≠ some group.proxy.peerInstanceId.toUInt8

/-- What arrives while a handler is set is harmless. -/
def Allowed (group : EventGroup ι) : Action ι → Prop
  | .receive n =>
    ∀ origin datagram, group.datagrams[n]? = some (origin, datagram) → group.proxy.receiveHandler = true →
      group.Harmless datagram origin
  | _ => True

omit [DecidableEq ι] in
/-- What the proxy forwards is an event of the peer exactly when it is harmless. -/
theorem Consistent.harmless_iff (consistent : Consistent offered group) {origin : Origin ι} {datagram : Bytes}
    (there : (origin, datagram) ∈ group.datagrams) (set : group.proxy.receiveHandler = true) :
    group.Harmless datagram origin ↔
      (group.proxy.Forwards datagram → ∃ i event, origin = .skeleton i event ∧ group.IsPeer i) := by
  cases origin with
  | other =>
    constructor
    · rintro (sd | another) ⟨-, service, low⟩
      · exact absurd sd service
      · exact absurd low another
    · intro forwarded
      by_contra harmful
      obtain ⟨service, low⟩ := not_or.mp harmful
      obtain ⟨_, _, impossible, _⟩ := forwarded ⟨set, service, not_not.mp low⟩
      cases impossible
  | skeleton i event =>
    have carries := consistent.carried i event datagram there
    have service := carries.service
    have sender := carries.sender
    rw [← (consistent.queued i).offers] at service
    rw [← (consistent.queued i).instance_id] at sender
    constructor
    · rintro (peer | sd | another) ⟨-, notSd, low⟩
      · exact ⟨i, event, rfl, peer⟩
      · exact absurd (by rw [service, sd]) notSd
      · exact absurd (Option.some.inj (sender.symm.trans low)) another
    · intro forwarded
      by_contra harmful
      obtain ⟨notPeer, harmful⟩ := not_or.mp harmful
      obtain ⟨notSd, low⟩ := not_or.mp harmful
      have forwards : group.proxy.Forwards datagram := by
        refine ⟨set, ?_, by rw [sender, not_not.mp low]⟩
        rw [service]
        exact fun sd => notSd (Except.ok.inj sd)
      obtain ⟨i', event', same, peer⟩ := forwarded forwards
      cases same
      exact notPeer peer

omit [DecidableEq ι] in
/-- What the handler is called with for a datagram on the group. -/
theorem Consistent.fromPeer_received (consistent : Consistent offered group) {origin : Origin ι} {datagram : Bytes}
    (there : (origin, datagram) ∈ group.datagrams) {called : List VehicleStatusData}
    (received : group.proxy.onReceive datagram = .ok called) (action : Action ι) :
    FromPeer ⟨group, action, called.map fun data => (origin, data)⟩ ↔
      (group.proxy.receiveHandler = true → group.Harmless datagram origin) := by
  obtain ⟨_, done, forwarded, reads⟩ := group.proxy.onReceive_cases datagram
  cases received.symm.trans done
  constructor
  · intro fromPeer set
    rw [consistent.harmless_iff there set]
    intro forwards
    obtain ⟨data, call⟩ := List.exists_mem_of_ne_nil _ (forwarded.mpr forwards)
    obtain ⟨i, event, same, peer, -⟩ := fromPeer origin data (List.mem_map_of_mem call)
    exact ⟨i, event, same, peer⟩
  · intro harmless origin' data there'
    obtain ⟨data', call, same⟩ := List.mem_map.mp there'
    cases same
    have forwards := forwarded.mp (List.ne_nil_of_mem call)
    obtain ⟨i, event, rfl, peer⟩ := (consistent.harmless_iff there forwards.1).mp (harmless forwards.1) forwards
    refine ⟨i, event, rfl, peer, ?_⟩
    intro hasVin
    have read := reads data call
    have injected : (event.sentBy (offered i).instanceId).HasVin := hasVin
    have written : VehicleStatusData.deserialize (payloadOf (offered i) event ++ List.replicate 221 0) =
        .ok (event.sentBy (offered i).instanceId) := VehicleStatusData.deserialize_serialize injected _
    rw [(consistent.carried i event datagram there).received, written] at read
    show data = event.sentBy (group.skeleton i).instanceId
    rw [(consistent.queued i).instance_id]
    exact (Except.ok.inj read).symm

theorem Consistent.fromPeer_iff_allowed (consistent : Consistent offered group) {action : Action ι}
    {called : List (Origin ι × VehicleStatusData)} (taken : group.step action = .ok (called, group')) :
    FromPeer ⟨group, action, called⟩ ↔ group.Allowed action := by
  have silent (none : called = []) : FromPeer ⟨group, action, called⟩ := by
    subst none
    intro origin data there
    cases there
  cases action with
  | offerService i | stopOfferService i | subscription i _ | transmit i =>
    obtain ⟨after, -, done⟩ := bind_eq_ok.mp taken
    cases done
    exact iff_of_true (silent rfl) trivial
  | send _ _ _ | publish _ | setReceiveHandler | unsetReceiveHandler =>
    cases taken
    exact iff_of_true (silent rfl) trivial
  | receive n =>
    cases found : group.datagrams[n]? with
    | none =>
      rw [EventGroup.step, found] at taken
      cases taken
      exact iff_of_true (silent rfl) (fun _ _ impossible => by cases found.symm.trans impossible)
    | some sent =>
      obtain ⟨origin, datagram⟩ := sent
      rw [EventGroup.step, found] at taken
      obtain ⟨received, done, handed⟩ := bind_eq_ok.mp taken
      cases handed
      rw [consistent.fromPeer_received (List.mem_of_getElem? found) done]
      constructor
      · intro harmless origin' datagram' there
        cases found.symm.trans there
        exact harmless
      · exact fun all => all origin datagram found

/-- For every set of skeletons and every proxy, on every run of the event group: the handler is called for events of
the peer only, and with what was published, exactly when all that arrives while a handler is set is harmless. -/
theorem calls_fromPeer_iff_harmless (offered : ι → OfferedEventgroup) (destination : ι → Destination)
    (proxy : VehicleStatusProxy) {trace : List (Taken (EventGroup ι) (Action ι) (List (Origin ι × VehicleStatusData)))}
    {group : EventGroup ι} (run : Run step (start offered destination proxy) trace group) :
    (∀ taken ∈ trace, FromPeer taken) ↔ Run.Every Allowed trace := by
  have started : Consistent offered (start offered destination proxy) :=
    ⟨fun i => queued_make (offered i) (destination i), fun _ _ _ there => by cases there⟩
  refine Run.all_iff_every started ?_ ?_ run
  · intro group action called group' consistent taken
    exact consistent.step taken
  · intro group action called group' consistent taken
    exact consistent.fromPeer_iff_allowed taken

/-! ## Instances 1 and 257 -/

def twoInstances : Bool → OfferedEventgroup
  | false => ⟨5, 1, 1, 1, ⟨239, 0, 0, 1⟩, 5555⟩
  | true => ⟨5, 257, 1, 1, ⟨239, 0, 0, 1⟩, 5555⟩

def sameGroup (_ : Bool) : Destination := ⟨"239.0.0.1", 5555, []⟩

def subscribingTo (instanceId : UInt16) : SomeIpSdMessage :=
  { messageId := SomeIpSdMessage.cMessageId, clientId := 0, sessionId := 1, protocolVersion := 1,
    interfaceVersion := 1, messageType := .notification, returnCode := .eOK, rebooted := true,
    entries := [.eventgroup
      { toEntry := Entry.make .subscribing 5 instanceId 3 1, counter := 0, eventgroupId := 1,
        counter_le := UInt8.zero_le }] }

def vehicleEvent : VehicleStatusData := ⟨[0x57, 0x56, 0x57], true, 0⟩

def proxyOfFirst : VehicleStatusProxy := ⟨5, 1, true⟩

set_option maxRecDepth 4000 in
theorem calls_fromPeer_iff_harmless_first : ∃ trace group,
    Run.play step [] (start twoInstances sameGroup proxyOfFirst)
        [.offerService false, .subscription false (subscribingTo 1), .send false vehicleEvent true,
          .transmit false, .receive 0] = .ok (trace, group) ∧
      trace.head?.map Taken.output = some [(.skeleton false vehicleEvent, vehicleEvent.sentBy 1)] ∧
      ∀ taken ∈ trace, FromPeer taken := by
  obtain ⟨trace, group, played, output, every⟩ : ∃ trace group,
      Run.play step [] (start twoInstances sameGroup proxyOfFirst)
          [.offerService false, .subscription false (subscribingTo 1), .send false vehicleEvent true,
            .transmit false, .receive 0] = .ok (trace, group) ∧
        trace.head?.map Taken.output = some [(.skeleton false vehicleEvent, vehicleEvent.sentBy 1)] ∧
        Run.Every Allowed trace := by
    refine ⟨_, _, rfl, rfl, ?_⟩
    refine Run.every_cons.mpr ⟨?_, Run.every_cons.mpr ⟨trivial, Run.every_cons.mpr ⟨trivial,
      Run.every_cons.mpr ⟨trivial, Run.every_cons.mpr ⟨trivial, Run.every_nil _⟩⟩⟩⟩⟩
    intro origin datagram there _
    cases there
    exact .inl ⟨rfl, rfl⟩
  exact ⟨trace, group, played, output,
    (calls_fromPeer_iff_harmless twoInstances sameGroup proxyOfFirst (Run.of_play .start played)).mpr every⟩

set_option maxRecDepth 4000 in
/-- An event of instance 257, and one of another service, at the proxy of instance 1. -/
theorem not_always_fromPeer : ∃ trace group,
    Run.play step [] (start twoInstances sameGroup proxyOfFirst)
        [.offerService true, .subscription true (subscribingTo 257), .send true vehicleEvent true, .transmit true,
          .receive 0, .publish ([0x00, 0x07] ++ List.replicate 32 0 ++ [0x01]), .receive 1] = .ok (trace, group) ∧
      Function.Injective (fun i => (twoInstances i).instanceId) ∧
      trace.map Taken.output = [[(.other, ⟨[], false, 1⟩)], [],
        [(.skeleton true vehicleEvent, vehicleEvent.sentBy 257)], [], [], [], []] ∧
      ¬ ∀ taken ∈ trace, FromPeer taken := by
  refine ⟨_, _, rfl, ?_, rfl, ?_⟩
  · intro i j same
    cases i <;> cases j <;> first | rfl | exact absurd same (by decide)
  · intro all
    obtain ⟨i, event, impossible, -⟩ := all _ List.mem_cons_self .other _ List.mem_cons_self
    cases impossible

end EventGroup
end AdaptiveAutosar.VehicleStatus
