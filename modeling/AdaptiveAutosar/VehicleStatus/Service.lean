import AdaptiveAutosar.Com.PubSub.Event

/-! # The vehicle status service

The generated `VehicleStatusData`, `VehicleStatusSkeleton` and `VehicleStatusProxy`. The skeleton writes its instance
into the last byte of the payload, and that byte is all that the proxy looks at.
-/

namespace AdaptiveAutosar.VehicleStatus
open Foundations Foundations.BigEndian Com
set_option autoImplicit false

structure VehicleStatusData where
  vin : Bytes
  connectedToCloud : Bool
  senderInstanceId : UInt8
  deriving DecidableEq, Repr

namespace VehicleStatusData

def cVinLength : ℕ := 17
def cPayloadSize : ℕ := 19

def serialize (data : VehicleStatusData) : Bytes :=
  let copyLen := if data.vin.length < cVinLength then data.vin.length else cVinLength
  data.vin.take copyLen ++ List.replicate (cVinLength - copyLen) 0 ++
    [if data.connectedToCloud then 1 else 0, data.senderInstanceId]

/-- The first zero of the VIN, or the end of its field. -/
def vinEnd (payload : Bytes) : ℕ := (payload.take cVinLength).findIdx (· == 0)

/-- A payload shorter than `cPayloadSize` is read behind its end. -/
def deserialize (payload : Bytes) : Outcome VehicleStatusData :=
  match payload.drop cVinLength with
  | connectedToCloud :: senderInstanceId :: _ =>
    .ok ⟨payload.take (vinEnd payload), connectedToCloud != 0, senderInstanceId⟩
  | _ => .error .undefined

/-- A VIN that the payload has room for, and that no zero ends early. -/
def HasVin (data : VehicleStatusData) : Prop := data.vin.length ≤ cVinLength ∧ ∀ c ∈ data.vin, c ≠ 0

/-- With the sender that a skeleton injects. -/
def sentBy (data : VehicleStatusData) (instanceId : UInt16) : VehicleStatusData :=
  { data with senderInstanceId := instanceId.toUInt8 }

theorem serialize_vin (data : VehicleStatusData) :
    ∃ vin : Bytes, vin.length = cVinLength ∧
      data.serialize = vin ++ [if data.connectedToCloud then 1 else 0, data.senderInstanceId] := by
  refine ⟨_, ?_, rfl⟩
  rw [List.length_append, List.length_take, List.length_replicate]
  split_ifs <;> omega

theorem serialize_length (data : VehicleStatusData) : data.serialize.length = cPayloadSize := by
  obtain ⟨vin, size, same⟩ := data.serialize_vin
  rw [same, List.length_append, size]
  rfl

/-- What a payload that is large enough tells of its sender. -/
theorem deserialize_ok {payload : Bytes} (large : cPayloadSize ≤ payload.length) :
    ∃ data, deserialize payload = .ok data ∧ payload[18]? = some data.senderInstanceId := by
  have size : (payload.drop cVinLength).length = payload.length - cVinLength := List.length_drop
  have at18 : (payload.drop cVinLength)[1]? = payload[18]? := List.getElem?_drop
  unfold cPayloadSize at large
  unfold cVinLength at size at18
  unfold deserialize cVinLength
  generalize payload.drop 17 = fields at size at18 ⊢
  match fields with
  | [] => rw [List.length_nil] at size; omega
  | [_] => rw [List.length_singleton] at size; omega
  | connectedToCloud :: senderInstanceId :: _ => exact ⟨_, rfl, at18.symm⟩

theorem vinEnd_of_hasVin {data : VehicleStatusData} (h : data.HasVin) (padding : Bytes) :
    (data.serialize ++ padding).take (vinEnd (data.serialize ++ padding)) = data.vin := by
  obtain ⟨short, nonzero⟩ := h
  have copied : (if data.vin.length < cVinLength then data.vin.length else cVinLength) = data.vin.length := by
    split_ifs
    · rfl
    · omega
  have field : data.serialize ++ padding = data.vin ++ (List.replicate (cVinLength - data.vin.length) 0 ++
      ([if data.connectedToCloud then 1 else 0, data.senderInstanceId] ++ padding)) := by
    rw [serialize, copied, List.take_length, List.append_assoc, List.append_assoc]
  have front : (data.serialize ++ padding).take cVinLength =
      data.vin ++ List.replicate (cVinLength - data.vin.length) 0 := by
    rw [field, ← List.append_assoc]
    apply List.take_left'
    rw [List.length_append, List.length_replicate]
    omega
  have ends : vinEnd (data.serialize ++ padding) = data.vin.length := by
    have none : data.vin.findIdx (· == 0) = data.vin.length :=
      List.findIdx_eq_length.mpr fun c there => beq_false_of_ne (nonzero c there)
    rw [vinEnd, front, List.findIdx_append, if_neg (by omega)]
    cases cVinLength - data.vin.length with
    | zero => exact Nat.zero_add _
    | succ n => exact Nat.zero_add _
  rw [ends, field, List.take_left']
  rfl

theorem deserialize_serialize {data : VehicleStatusData} (h : data.HasVin) (padding : Bytes) :
    deserialize (data.serialize ++ padding) = .ok data := by
  have vin := vinEnd_of_hasVin h padding
  unfold deserialize
  rw [vin]
  obtain ⟨front, size, same⟩ := data.serialize_vin
  rw [same, List.append_assoc, List.drop_left' size]
  cases data with
  | mk vin connectedToCloud senderInstanceId => cases connectedToCloud <;> rfl

end VehicleStatusData

def cTelematicEventId : UInt16 := 0x8001

structure VehicleStatusSkeleton where
  pubSubServer : SomeIpPubSubServer
  eventLayer : PubSubEventNetworkLayer
  instanceId : UInt16
  deriving DecidableEq, Repr

namespace VehicleStatusSkeleton

/-- What the constructor makes of the manifest. -/
def make (offered : OfferedEventgroup) (destination : Destination) : VehicleStatusSkeleton :=
  ⟨(SomeIpPubSubServer.make offered).setEventLayer true, ⟨destination, []⟩, offered.instanceId⟩

def eventsVehicleStatusSend (skeleton : VehicleStatusSkeleton) (data : VehicleStatusData) (locked : Bool) :
    VehicleStatusSkeleton :=
  let injected := { data with senderInstanceId := skeleton.instanceId.toUInt8 }
  match skeleton.pubSubServer.publish cTelematicEventId injected.serialize with
  | (none, pubSubServer) => { skeleton with pubSubServer }
  | (some notification, pubSubServer) =>
    { skeleton with pubSubServer, eventLayer := skeleton.eventLayer.sendRaw notification locked }

/-- Of an event the queue gets at most the notification that is published. -/
theorem eventsVehicleStatusSend_cases (skeleton : VehicleStatusSkeleton) (data : VehicleStatusData) (locked : Bool) :
    ∃ given pubSubServer,
      skeleton.pubSubServer.publish cTelematicEventId (data.sentBy skeleton.instanceId).serialize =
        (given, pubSubServer) ∧
      (skeleton.eventsVehicleStatusSend data locked = { skeleton with pubSubServer } ∨
        ∃ notification, given = some notification ∧
          skeleton.eventsVehicleStatusSend data locked =
            { skeleton with
              pubSubServer
              eventLayer :=
                { skeleton.eventLayer with sendingQueue := skeleton.eventLayer.sendingQueue ++ [notification] } }) := by
  have unfolded : skeleton.eventsVehicleStatusSend data locked =
      match skeleton.pubSubServer.publish cTelematicEventId (data.sentBy skeleton.instanceId).serialize with
      | (none, pubSubServer) => { skeleton with pubSubServer }
      | (some notification, pubSubServer) =>
        { skeleton with pubSubServer, eventLayer := skeleton.eventLayer.sendRaw notification locked } := rfl
  rw [unfolded]
  generalize skeleton.pubSubServer.publish cTelematicEventId (data.sentBy skeleton.instanceId).serialize = published
  obtain ⟨given, pubSubServer⟩ := published
  refine ⟨given, pubSubServer, rfl, ?_⟩
  cases given with
  | none => exact .inl rfl
  | some notification =>
    cases locked with
    | false => exact .inl rfl
    | true => exact .inr ⟨notification, rfl, rfl⟩

end VehicleStatusSkeleton

structure VehicleStatusProxy where
  serviceId : UInt16
  peerInstanceId : UInt16
  /-- Whether a handler is set. -/
  receiveHandler : Bool
  deriving DecidableEq, Repr

namespace VehicleStatusProxy

/-- What the event callback calls the handler with, if it does. -/
def callback (proxy : VehicleStatusProxy) (raw : Bytes) : Outcome (Option VehicleStatusData) :=
  if raw.length < VehicleStatusData.cPayloadSize then .ok none
  else do
    let data ← VehicleStatusData.deserialize raw
    if data.senderInstanceId ≠ proxy.peerInstanceId.toUInt8 then pure none
    else if proxy.receiveHandler then pure (some data)
    else pure none

/-- What a datagram at the event receiver makes of the handler's calls. -/
def onReceive (proxy : VehicleStatusProxy) (datagram : Bytes) : Outcome (List VehicleStatusData) := do
  let payloads ← PubSubEventReceiver.onReceive datagram
  let called ← payloads.mapM proxy.callback
  pure called.reduceOption

/-- The only thing that the proxy looks at: the handler is set, the service is not that of the service discovery, and
the byte of the sender is the low one of the peer. -/
def Forwards (proxy : VehicleStatusProxy) (datagram : Bytes) : Prop :=
  proxy.receiveHandler = true ∧ serviceIdOf datagram ≠ .ok cSdServiceId ∧
    datagram[34]? = some proxy.peerInstanceId.toUInt8

theorem callback_eq (proxy : VehicleStatusProxy) {raw : Bytes} (large : VehicleStatusData.cPayloadSize ≤ raw.length) :
    ∃ data, VehicleStatusData.deserialize raw = .ok data ∧ raw[18]? = some data.senderInstanceId ∧
      proxy.callback raw =
        .ok (if proxy.receiveHandler = true ∧ data.senderInstanceId = proxy.peerInstanceId.toUInt8 then some data
          else none) := by
  obtain ⟨data, read, sender⟩ := VehicleStatusData.deserialize_ok large
  refine ⟨data, read, sender, ?_⟩
  rw [callback, if_neg (Nat.not_lt.mpr large), read]
  by_cases own : data.senderInstanceId = proxy.peerInstanceId.toUInt8
  · cases set : proxy.receiveHandler <;> simp [own, bind, Except.bind, pure, Except.pure]
  · simp [own, bind, Except.bind, pure, Except.pure]

theorem call_one (proxy : VehicleStatusProxy) {raw : Bytes} {result : Option VehicleStatusData}
    (called : proxy.callback raw = .ok result) :
    ([raw].mapM proxy.callback >>= fun called => pure called.reduceOption) = .ok result.toList := by
  simp only [List.mapM_cons, List.mapM_nil, called, bind, Except.bind, pure, Except.pure]
  cases result with
  | none => rfl
  | some data => rfl

theorem receiver_onReceive (datagram : Bytes) :
    PubSubEventReceiver.onReceive datagram =
      .ok (if PubSubEventReceiver.cSomeIpHeaderSize < datagram.length ∧ serviceIdOf datagram ≠ .ok cSdServiceId then
        [(receive PubSubEventReceiver.cBufferSize datagram).drop PubSubEventReceiver.cSomeIpHeaderSize] else []) := by
  have size : (receive PubSubEventReceiver.cBufferSize datagram).length =
      min PubSubEventReceiver.cBufferSize datagram.length := List.length_take
  have long : PubSubEventReceiver.cSomeIpHeaderSize < (receive PubSubEventReceiver.cBufferSize datagram).length ↔
      PubSubEventReceiver.cSomeIpHeaderSize < datagram.length := by
    rw [size, Nat.lt_min]
    exact and_iff_right (by decide)
  unfold PubSubEventReceiver.onReceive
  dsimp only
  by_cases header : PubSubEventReceiver.cSomeIpHeaderSize < datagram.length
  · rw [if_pos (long.mpr header)]
    match datagram with
    | [] | [_] => exact absurd header (by simp [PubSubEventReceiver.cSomeIpHeaderSize])
    | b0 :: b1 :: rest =>
      have service : serviceIdOf (receive PubSubEventReceiver.cBufferSize (b0 :: b1 :: rest)) =
          .ok (word16 b0 b1) := rfl
      have same : serviceIdOf (b0 :: b1 :: rest) = .ok (word16 b0 b1) := rfl
      rw [service, same]
      by_cases sd : word16 b0 b1 = cSdServiceId
      · simp [sd, bind, Except.bind, pure, Except.pure]
      · simp only [sd, header, bind, Except.bind, pure, Except.pure, if_false, ne_eq, Except.ok.injEq,
          not_false_eq_true, and_self, if_true]
  · rw [if_neg (fun whole => header (long.mp whole)), if_neg (fun whole => header whole.1)]
    rfl

/-- The handler is called exactly for the datagrams that the proxy forwards, with what it reads from them. -/
theorem onReceive_cases (proxy : VehicleStatusProxy) (datagram : Bytes) :
    ∃ called, proxy.onReceive datagram = .ok called ∧ (called ≠ [] ↔ proxy.Forwards datagram) ∧
      ∀ data ∈ called, VehicleStatusData.deserialize ((receive PubSubEventReceiver.cBufferSize datagram).drop
        PubSubEventReceiver.cSomeIpHeaderSize) = .ok data := by
  have at34 : ((receive PubSubEventReceiver.cBufferSize datagram).drop PubSubEventReceiver.cSomeIpHeaderSize)[18]? =
      datagram[34]? := by
    rw [List.getElem?_drop]
    exact List.getElem?_take_of_lt (by decide)
  unfold onReceive
  rw [receiver_onReceive]
  generalize (receive PubSubEventReceiver.cBufferSize datagram).drop PubSubEventReceiver.cSomeIpHeaderSize = raw
    at at34 ⊢
  by_cases event : PubSubEventReceiver.cSomeIpHeaderSize < datagram.length ∧ serviceIdOf datagram ≠ .ok cSdServiceId
  · rw [if_pos event]
    by_cases large : VehicleStatusData.cPayloadSize ≤ raw.length
    · obtain ⟨data, read, sender, called⟩ := proxy.callback_eq large
      rw [at34] at sender
      by_cases own : proxy.receiveHandler = true ∧ data.senderInstanceId = proxy.peerInstanceId.toUInt8
      · rw [if_pos own] at called
        refine ⟨[data], proxy.call_one called, ?_, ?_⟩
        · exact iff_of_true (List.cons_ne_nil _ _) ⟨own.1, event.2, by rw [sender, own.2]⟩
        · intro other there
          rw [List.mem_singleton.mp there, read]
      · rw [if_neg own] at called
        refine ⟨[], proxy.call_one called, ?_, ?_⟩
        · refine iff_of_false (fun some_ => some_ rfl) ?_
          rintro ⟨set, -, low⟩
          rw [sender] at low
          exact own ⟨set, Option.some.inj low⟩
        · intro other there
          cases there
    · have called : proxy.callback raw = .ok none := if_pos (Nat.lt_of_not_le large)
      refine ⟨[], proxy.call_one called, ?_, ?_⟩
      · refine iff_of_false (fun some_ => some_ rfl) ?_
        rintro ⟨-, -, low⟩
        rw [← at34] at low
        obtain ⟨inside, -⟩ := List.getElem?_eq_some_iff.mp low
        exact large inside
      · intro other there
        cases there
  · rw [if_neg event]
    refine ⟨[], rfl, ?_, ?_⟩
    · refine iff_of_false (fun some_ => some_ rfl) ?_
      rintro ⟨-, service, low⟩
      obtain ⟨inside, -⟩ := List.getElem?_eq_some_iff.mp low
      exact event ⟨Nat.lt_of_le_of_lt (by decide) inside, service⟩
    · intro other there
      cases there

end VehicleStatusProxy
end AdaptiveAutosar.VehicleStatus
