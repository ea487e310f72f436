import AdaptiveAutosar.Com.PubSub.Server
import AdaptiveAutosar.Com.Sd.NetworkLayer
import AdaptiveAutosar.Com.Sd.RoundTrip

/-! # Events, and the datagrams they travel in

`PubSubEventNetworkLayer` and `PubSubEventReceiver`. A layer sends its buffer whole, whatever the size of
the payload in it, and the receiver takes everything behind the header for the event.
-/

namespace AdaptiveAutosar.Com
open Foundations Foundations.BigEndian
set_option autoImplicit false

structure PubSubEventNetworkLayer where
  destination : Destination
  sendingQueue : List Bytes
  deriving DecidableEq, Repr

namespace PubSubEventNetworkLayer

def cBufferSize : ℕ := 256

def sendRaw (layer : PubSubEventNetworkLayer) (bytes : Bytes) (locked : Bool) : PubSubEventNetworkLayer :=
  { layer with sendingQueue := (ConcurrentQueue.tryEnqueue layer.sendingQueue locked bytes).2 }

/-- The buffer of each round is zeroed. -/
def onSend (layer : PubSubEventNetworkLayer) (attempts : List Bool) :
    Outcome (List Datagram × PubSubEventNetworkLayer) := do
  let rounds := attempts.map fun locked => ⟨locked, Buffer.zero cBufferSize⟩
  let (datagrams, sendingQueue) ← layer.destination.drain rounds layer.sendingQueue
  pure (datagrams, { layer with sendingQueue })

end PubSubEventNetworkLayer

namespace PubSubEventReceiver

def cBufferSize : ℕ := 256
def cSomeIpHeaderSize : ℕ := 16

def onReceive (datagram : Bytes) : Outcome (List Bytes) := do
  let received := receive cBufferSize datagram
  if cSomeIpHeaderSize < received.length then
    let serviceId ← serviceIdOf received
    if serviceId = cSdServiceId then pure [] else pure [received.drop cSomeIpHeaderSize]
  else pure []

end PubSubEventReceiver

/-! ## Sending inside the buffer -/

/-- However far the poller comes with payloads that fit and with the message given to `Send` behind them,
no copy leaves the buffer, and what is taken out of the queue is sent whole. -/
def SdNetworkLayer.SendsWhole {σ : Type} (layer : SdNetworkLayer σ) (message : SomeIpSdMessage) : Prop :=
  ∀ pending, (∀ older ∈ pending, older.length ≤ cBufferSize) →
    ∀ locked (rounds : List (SendRound cBufferSize)),
      let given := { layer with sendingQueue := pending }.send message locked
      ∃ payloads datagrams layer', given.onSend rounds = .ok (datagrams, layer') ∧
        given.sendingQueue = payloads ++ layer'.sendingQueue ∧
        Destination.Whole cBufferSize layer.destination payloads datagrams

def PubSubEventNetworkLayer.SendsWhole (layer : PubSubEventNetworkLayer) (bytes : Bytes) : Prop :=
  ∀ pending, (∀ older ∈ pending, older.length ≤ cBufferSize) → ∀ locked (attempts : List Bool),
    let given := { layer with sendingQueue := pending }.sendRaw bytes locked
    ∃ payloads datagrams layer', given.onSend attempts = .ok (datagrams, layer') ∧
      given.sendingQueue = payloads ++ layer'.sendingQueue ∧
      Destination.Whole cBufferSize layer.destination payloads datagrams

/-- What `Publish` gives to the layer, if anything. -/
def SomeIpPubSubServer.PublishesWhole (server : SomeIpPubSubServer) (layer : PubSubEventNetworkLayer)
    (eventId : UInt16) (payload : Bytes) : Prop :=
  ∀ notification, (server.publish eventId payload).1 = some notification → layer.SendsWhole notification

def SomeIpSdMessage.optionBytes (message : SomeIpSdMessage) : ℕ :=
  ((message.entries.flatMap AnyEntry.options).map fun option => option.payload.length).sum

theorem SomeIpSdMessage.optionBytes_eq (message : SomeIpSdMessage) :
    message.optionBytes = (message.entries.flatMap optionRecords).length := by
  unfold optionBytes
  induction message.entries with
  | nil => rfl
  | cons entry rest ih =>
    have here : (optionRecords entry).length =
        (entry.options.map fun option => option.payload.length).sum := List.length_flatMap
    rw [List.flatMap_cons, List.map_append, List.sum_append, ih, List.flatMap_cons, List.length_append,
      here]

theorem SdNetworkLayer.sendsWhole_iff {σ : Type} (layer : SdNetworkLayer σ) (message : SomeIpSdMessage) :
    layer.SendsWhole message ↔
      28 + 16 * message.entries.length + message.optionBytes ≤ SdNetworkLayer.cBufferSize := by
  rw [message.optionBytes_eq, ← message.payload_length]
  constructor
  · intro sends
    by_contra exceeds
    obtain ⟨payloads, datagrams, layer', sent, -⟩ :=
      sends [] (fun _ there => by cases there) true [⟨true, Buffer.zero cBufferSize⟩]
    have undefined := layer.destination.drain_over (Buffer.zero cBufferSize) exceeds
    simp [onSend, send, ConcurrentQueue.tryEnqueue, undefined, bind, Except.bind] at sent
  · intro fits pending fit locked rounds
    obtain ⟨payloads, datagrams, left, drained, split, whole⟩ :=
      layer.destination.drain_fits rounds _ (Destination.tryEnqueue_fit fit fits locked)
    refine ⟨payloads, datagrams, { layer with sendingQueue := left }, ?_, split, whole⟩
    simp only [onSend, send, drained, bind, Except.bind, pure, Except.pure]

theorem PubSubEventNetworkLayer.sendsWhole_iff (layer : PubSubEventNetworkLayer) (bytes : Bytes) :
    layer.SendsWhole bytes ↔ bytes.length ≤ PubSubEventNetworkLayer.cBufferSize := by
  constructor
  · intro sends
    by_contra exceeds
    obtain ⟨payloads, datagrams, layer', sent, -⟩ := sends [] (fun _ there => by cases there) true [true]
    have undefined := layer.destination.drain_over (Buffer.zero cBufferSize) exceeds
    simp [onSend, sendRaw, ConcurrentQueue.tryEnqueue, undefined, bind, Except.bind] at sent
  · intro fits pending fit locked attempts
    obtain ⟨payloads, datagrams, left, drained, split, whole⟩ :=
      layer.destination.drain_fits (attempts.map fun locked => ⟨locked, Buffer.zero cBufferSize⟩) _
        (Destination.tryEnqueue_fit fit fits locked)
    refine ⟨payloads, datagrams, { layer with sendingQueue := left }, ?_, split, whole⟩
    simp only [onSend, sendRaw, drained, bind, Except.bind, pure, Except.pure]

namespace SomeIpPubSubServer

theorem notificationHeader_length (server : SomeIpPubSubServer) (eventId : UInt16) (payload : Bytes) :
    (server.notificationHeader eventId payload).length = 16 := rfl

theorem publish_eq_some {server : SomeIpPubSubServer} (eventId : UInt16) (payload notification : Bytes) :
    (server.publish eventId payload).1 = some notification ↔
      (server.eventLayer = true ∧ server.getState = .subscribed) ∧
        notification = server.notificationHeader eventId payload ++ payload := by
  unfold publish
  split_ifs with bare idle
  · simp [bare]
  · simp [idle]
  · have layered : server.eventLayer = true := by simpa using bare
    have current : server.getState = .subscribed := not_not.mp idle
    simp [layered, current, eq_comm]

theorem publishesWhole_iff (server : SomeIpPubSubServer) (layer : PubSubEventNetworkLayer)
    (eventId : UInt16) (payload : Bytes) : server.PublishesWhole layer eventId payload ↔
      (server.eventLayer = true → server.getState = .subscribed →
        16 + payload.length ≤ PubSubEventNetworkLayer.cBufferSize) := by
  have size : (server.notificationHeader eventId payload ++ payload).length = 16 + payload.length := by
    rw [List.length_append, notificationHeader_length]
  unfold PublishesWhole
  constructor
  · intro whole layered current
    have sends := whole _ ((publish_eq_some eventId payload _).mpr ⟨⟨layered, current⟩, rfl⟩)
    rw [layer.sendsWhole_iff, size] at sends
    exact sends
  · intro fits notification published
    obtain ⟨⟨layered, current⟩, rfl⟩ := (publish_eq_some eventId payload notification).mp published
    rw [layer.sendsWhole_iff, size]
    exact fits layered current

end SomeIpPubSubServer

/-- For every message, payload and event: what is sent of it is written inside the buffer and sent whole
or not at all exactly when the buffer is large enough for it. -/
theorem datagrams_fit_iff {σ : Type} (sdLayer : SdNetworkLayer σ) (message : SomeIpSdMessage)
    (layer : PubSubEventNetworkLayer) (bytes : Bytes) (server : SomeIpPubSubServer) (eventId : UInt16)
    (payload : Bytes) :
    (sdLayer.SendsWhole message ↔ 28 + 16 * message.entries.length + message.optionBytes ≤ 256) ∧
      (layer.SendsWhole bytes ↔ bytes.length ≤ 256) ∧
      (server.PublishesWhole layer eventId payload ↔
        (server.eventLayer = true → server.getState = .subscribed → 16 + payload.length ≤ 256)) :=
  ⟨sdLayer.sendsWhole_iff message, layer.sendsWhole_iff bytes,
    server.publishesWhole_iff layer eventId payload⟩

/-- Fifteen entries without options make a message of 268 bytes. -/
def fifteenFinds : SomeIpSdMessage :=
  { SdReceiver.foreignOffer with
    entries := List.replicate 15 (.service (ServiceEntry.make .finding 1 1 3 1 0)) }

def publishingServer : SomeIpPubSubServer :=
  ⟨⟨1, 1, 1, 4, ⟨239, 0, 0, 1⟩, 5555⟩, 1, true, ⟨.subscribed⟩, some 1⟩

theorem not_always_fits :
    ¬ SdNetworkLayer.quietLayer.SendsWhole fifteenFinds ∧
      ¬ (⟨⟨"239.0.0.1", 5555, []⟩, []⟩ : PubSubEventNetworkLayer).SendsWhole (List.replicate 257 0) ∧
      ¬ publishingServer.PublishesWhole ⟨⟨"239.0.0.1", 5555, []⟩, []⟩ 1 (List.replicate 241 0) := by
  refine ⟨?_, ?_, ?_⟩
  · rw [SdNetworkLayer.sendsWhole_iff]
    decide
  · rw [PubSubEventNetworkLayer.sendsWhole_iff, List.length_replicate]
    decide
  · rw [SomeIpPubSubServer.publishesWhole_iff]
    intro fits
    have small := fits rfl rfl
    rw [List.length_replicate] at small
    exact absurd small (by decide)

/-! ## An event at its receivers -/

/-- The event is sent, and each of its datagrams makes a receiver call its callback once, with exactly the
payload. -/
def SomeIpPubSubServer.Delivers (server : SomeIpPubSubServer) (layer : PubSubEventNetworkLayer)
    (eventId : UInt16) (payload : Bytes) : Prop :=
  ∃ notification datagrams layer', (server.publish eventId payload).1 = some notification ∧
    ({ layer with sendingQueue := [] }.sendRaw notification true).onSend [true] =
      .ok (datagrams, layer') ∧
    datagrams ≠ [] ∧ ∀ datagram ∈ datagrams, PubSubEventReceiver.onReceive datagram.bytes = .ok [payload]

theorem PubSubEventNetworkLayer.onSend_one (layer : PubSubEventNetworkLayer) {bytes : Bytes}
    {datagrams : List Datagram}
    (sent : layer.destination.transmit (Buffer.zero cBufferSize) bytes = .ok datagrams) :
    ({ layer with sendingQueue := [] }.sendRaw bytes true).onSend [true] =
      .ok (datagrams, { layer with sendingQueue := [] }) := by
  simp [onSend, sendRaw, ConcurrentQueue.tryEnqueue, ConcurrentQueue.tryDequeue, Destination.drain, sent,
    bind, Except.bind, pure, Except.pure]

theorem Buffer.copyN_zero (size : ℕ) {payload : Bytes} (fits : payload.length ≤ size) :
    ∃ filled, (Buffer.zero size).copyN payload = .ok filled ∧
      filled.1 = payload ++ List.replicate (size - payload.length) 0 := by
  rw [copyN, dif_pos fits]
  refine ⟨_, rfl, ?_⟩
  simp only [zero, List.drop_replicate]

namespace SomeIpPubSubServer
variable {server : SomeIpPubSubServer}

theorem serviceIdOf_notification (server : SomeIpPubSubServer) (eventId : UInt16) (payload rest : Bytes) :
    serviceIdOf (server.notificationHeader eventId payload ++ rest) = .ok server.offered.serviceId :=
  congrArg Except.ok (packed16_high server.offered.serviceId eventId)

/-- The receiver hands on all that a full buffer has behind the header. -/
theorem onReceive_notification (server : SomeIpPubSubServer) (eventId : UInt16) (payload : Bytes)
    {rest : Bytes} (full : 16 + rest.length = 256) :
    PubSubEventReceiver.onReceive (server.notificationHeader eventId payload ++ rest) =
      .ok (if server.offered.serviceId = cSdServiceId then [] else [rest]) := by
  have size : (server.notificationHeader eventId payload ++ rest).length = 16 + rest.length := by
    rw [List.length_append, notificationHeader_length]
  have whole : receive PubSubEventReceiver.cBufferSize
      (server.notificationHeader eventId payload ++ rest) =
        server.notificationHeader eventId payload ++ rest := by
    apply List.take_of_length_le
    rw [size, full, PubSubEventReceiver.cBufferSize]
  have long : PubSubEventReceiver.cSomeIpHeaderSize <
      (server.notificationHeader eventId payload ++ rest).length := by
    rw [size, PubSubEventReceiver.cSomeIpHeaderSize]
    omega
  have behind : (server.notificationHeader eventId payload ++ rest).drop
      PubSubEventReceiver.cSomeIpHeaderSize = rest := rfl
  unfold PubSubEventReceiver.onReceive
  simp only [whole, long, if_true, serviceIdOf_notification, bind, Except.bind, behind]
  split_ifs <;> rfl

/-- The event in its datagrams, padded with zeros to the end of the buffer. -/
theorem transmit_notification (server : SomeIpPubSubServer) (destination : Destination) (eventId : UInt16)
    {payload : Bytes} (short : payload.length ≤ 240) :
    ∃ filled : Buffer PubSubEventNetworkLayer.cBufferSize,
      destination.transmit (Buffer.zero PubSubEventNetworkLayer.cBufferSize)
          (server.notificationHeader eventId payload ++ payload) = .ok (destination.datagrams filled) ∧
        filled.1 = server.notificationHeader eventId payload ++
          (payload ++ List.replicate (240 - payload.length) 0) := by
  have size : (server.notificationHeader eventId payload ++ payload).length = 16 + payload.length := by
    rw [List.length_append, notificationHeader_length]
  have fits : (server.notificationHeader eventId payload ++ payload).length ≤
      PubSubEventNetworkLayer.cBufferSize := by
    rw [size, PubSubEventNetworkLayer.cBufferSize]
    omega
  have left : PubSubEventNetworkLayer.cBufferSize - (16 + payload.length) = 240 - payload.length := by
    rw [PubSubEventNetworkLayer.cBufferSize]
    omega
  obtain ⟨filled, copied, content⟩ := Buffer.copyN_zero PubSubEventNetworkLayer.cBufferSize fits
  refine ⟨filled, ?_, ?_⟩
  · rw [Destination.transmit, copied]
    rfl
  · rw [content, size, left, List.append_assoc]

/-- For every payload that fits, published while subscribed: the receivers get exactly it exactly when it
fills the datagram and the service does not have the ID of the service discovery. -/
theorem delivers_iff (layer : PubSubEventNetworkLayer) (eventId : UInt16) (payload : Bytes)
    (layered : server.eventLayer = true) (current : server.getState = .subscribed)
    (short : payload.length ≤ 240) :
    server.Delivers layer eventId payload ↔
      payload.length = 240 ∧ server.offered.serviceId ≠ cSdServiceId := by
  have published := (publish_eq_some eventId payload _).mpr ⟨⟨layered, current⟩, rfl⟩
  obtain ⟨filled, transmitted, content⟩ := server.transmit_notification layer.destination eventId short
  have sent := layer.onSend_one transmitted
  have full : 16 + (payload ++ List.replicate (240 - payload.length) 0).length = 256 := by
    rw [List.length_append, List.length_replicate]
    omega
  have received := server.onReceive_notification eventId payload full
  rw [← content] at received
  constructor
  · rintro ⟨notification, datagrams, layer', published', sent', some_, exact_⟩
    cases published.symm.trans published'
    cases sent.symm.trans sent'
    obtain ⟨datagram, there⟩ := List.exists_mem_of_ne_nil _ some_
    have called := exact_ datagram there
    rw [Destination.bytes_of_mem there, received] at called
    split_ifs at called with isSd
    · cases called
    · have padded : payload ++ List.replicate (240 - payload.length) 0 = payload := by
        simpa using called
      have same := congrArg List.length padded
      rw [List.length_append, List.length_replicate] at same
      exact ⟨by omega, isSd⟩
  · rintro ⟨isFull, notSd⟩
    refine ⟨_, _, _, published, sent, layer.destination.datagrams_ne_nil filled, ?_⟩
    intro datagram there
    have unpadded : payload ++ List.replicate (240 - payload.length) 0 = payload := by
      rw [isFull, Nat.sub_self, List.replicate_zero, List.append_nil]
    rw [Destination.bytes_of_mem there, received, if_neg notSd, unpadded]

theorem delivers_iff_full :
    publishingServer.Delivers ⟨⟨"239.0.0.1", 5555, []⟩, []⟩ 1 (List.replicate 240 7) :=
  (delivers_iff _ 1 (List.replicate 240 7) rfl rfl (by rw [List.length_replicate])).mpr
    ⟨List.length_replicate, by decide⟩

/-- Of an event of one byte the receivers are told 240. -/
theorem not_always_delivers :
    (∃ datagrams layer', (PubSubEventNetworkLayer.sendRaw ⟨⟨"239.0.0.1", 5555, []⟩, []⟩
          (publishingServer.notificationHeader 1 [7] ++ [7]) true).onSend [true] =
        .ok (datagrams, layer') ∧
      datagrams.map (fun datagram => PubSubEventReceiver.onReceive datagram.bytes) =
        [.ok [7 :: List.replicate 239 0]]) ∧
      ¬ publishingServer.Delivers ⟨⟨"239.0.0.1", 5555, []⟩, []⟩ 1 [7] := by
  constructor
  · obtain ⟨filled, transmitted, content⟩ := publishingServer.transmit_notification
      ⟨"239.0.0.1", 5555, []⟩ 1 (show [(7 : UInt8)].length ≤ 240 by decide)
    have sent := PubSubEventNetworkLayer.onSend_one ⟨⟨"239.0.0.1", 5555, []⟩, []⟩ transmitted
    have full : 16 + (7 :: List.replicate 239 (0 : UInt8)).length = 256 := by
      rw [List.length_cons, List.length_replicate]
    have received := publishingServer.onReceive_notification 1 [7] full
    refine ⟨_, _, sent, ?_⟩
    show [PubSubEventReceiver.onReceive filled.1] = _
    rw [content]
    exact congrArg (fun called => [called]) received
  · rw [delivers_iff _ 1 [7] rfl rfl (by decide)]
    decide

end SomeIpPubSubServer
end AdaptiveAutosar.Com
