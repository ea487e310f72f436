import AdaptiveAutosar.Application.DiagMessageHandler
import AdaptiveAutosar.Application.DoipServer

/-! # The DoIP client

`application::doip::DoipClient`, and the two handlers of the vehicle that it talks to. The library that both
write and read their messages with is a parameter.
-/

namespace AdaptiveAutosar.Application
open Foundations Com
set_option autoImplicit false

/-- The version of the converter and of the vehicle. -/
def cProtocolVersion : UInt8 := 2

/-! ## Messages -/

structure VehicleIdResponse where
  protocolVersion : UInt8
  vin : Bytes
  logicalAddress : UInt16
  eid : Bytes
  gid : Bytes
  furtherAction : UInt8
  deriving DecidableEq, Repr

/-- What a client and a vehicle send each other here. -/
inductive DoipMessage where
  | vehicleIdRequest (protocolVersion : UInt8)
  | vehicleIdResponse (response : VehicleIdResponse)
  | diagMessage (protocolVersion : UInt8) (message : DiagMessage)
  | diagMessageAck (ack : DiagMessageAck)
  deriving DecidableEq, Repr

namespace DoipMessage

def cHeaderSize : ℕ := 8

def payloadLength : DoipMessage → ℕ
  | .vehicleIdRequest _ => 0
  | .vehicleIdResponse _ => 32
  | .diagMessage _ message => 4 + message.userData.length
  | .diagMessageAck ack => 5 + ack.previousMessage.length

/-- The fields of a fixed size have it, and the message is no larger than a packet. -/
def Fits (message : DoipMessage) : Prop :=
  cHeaderSize + message.payloadLength ≤ cDoipPacketSize ∧
    ∀ response, message = .vehicleIdResponse response →
      response.vin.length = 17 ∧ response.eid.length = 6 ∧ response.gid.length = 6

/-- The messages that a handler is registered for. -/
def IsRequest : DoipMessage → Prop
  | .vehicleIdRequest protocolVersion => protocolVersion = cProtocolVersion
  | .diagMessage protocolVersion _ => protocolVersion = cProtocolVersion
  | _ => False

end DoipMessage

/-- `DoipLib` with the configuration of the vehicle. -/
structure DoipLib extends FrontDecoder UInt8 where
  serialize : DoipMessage → Bytes
  /-- `TryExtractPayloadType`, and `TryDeserialize` of the class of that payload. -/
  read : Bytes → Option DoipMessage
  tryGetPreviousMessage : DiagMessageAck → Option Bytes
  /-- What the controller responds where it finds no message for a handler. -/
  refuse : Bytes → Option Bytes
  serialize_length : ∀ message, message.Fits →
    (serialize message).length = DoipMessage.cHeaderSize + message.payloadLength
  read_serialize : ∀ message, message.Fits → ∀ rest, read (serialize message ++ rest) = some message
  decode_serialize : ∀ message, message.Fits → message.IsRequest →
    decode (serialize message) = some (serialize message)
  tryGetPreviousMessage_eq : ∀ ack, ack.previousMessage ≠ [] → tryGetPreviousMessage ack = some ack.previousMessage

/-! ## The handlers of the vehicle -/

structure VehicleIdRequestHandler where
  response : VehicleIdResponse
  deriving DecidableEq, Repr

namespace VehicleIdRequestHandler

def cMacAddressSize : ℕ := 6

def cFurtherAction : UInt8 := 0

/-- The octets at these indices, with the mask at the first of them. -/
def octetsFrom (id mask : UInt64) : List ℕ → Bytes
  | [] => []
  | i :: rest =>
    ((id &&& mask) >>> UInt64.ofNat (i * 8)).toUInt8 :: octetsFrom id (mask <<< UInt64.ofNat (i * 8)) rest

def convertToMacAddress (id : UInt64) : Bytes := octetsFrom id 0xff (List.range cMacAddressSize)

def make (protocolVersion : UInt8) (vin : Bytes) (logicalAddress : UInt16) (eid gid : UInt64) :
    VehicleIdRequestHandler :=
  ⟨protocolVersion, vin, logicalAddress, convertToMacAddress eid, convertToMacAddress gid, cFurtherAction⟩

end VehicleIdRequestHandler

/-- What `ExtendedVehicle::configureDoipServer` makes a server of, with the libraries behind the diagnostic service. -/
structure DoipVehicle where
  library : DoipLib
  reader : JsonReader
  values : Per.JsonValues
  doubles : Doubles
  resourcesUrl : Bytes
  logicalAddress : UInt16
  eid : UInt64
  gid : UInt64

/-- What the resource server answers while a request is handled, and when the cache is looked up and added to. -/
structure LookUp where
  tryExecute : Bytes → Option Bytes
  lookupTime : ℤ
  additionTime : ℤ

namespace DoipVehicle

def cVin : Bytes := Per.text "DEMO0000000000001"

def vehicleIdRequestHandler (vehicle : DoipVehicle) : VehicleIdRequestHandler :=
  .make cProtocolVersion cVin vehicle.logicalAddress vehicle.eid vehicle.gid

def environment (vehicle : DoipVehicle) (lookUp : LookUp) : Environment where
  reader := vehicle.reader
  values := vehicle.values
  doubles := vehicle.doubles
  resourcesUrl := vehicle.resourcesUrl
  tryExecute := lookUp.tryExecute
  lookupTime := lookUp.lookupTime
  additionTime := lookUp.additionTime

/-- `TryHandle` of the handler that is registered for the message. -/
def handle (vehicle : DoipVehicle) (lookUp : LookUp) (cache : ResponseCache) (message : Bytes) :
    Outcome (Option Bytes) × ResponseCache :=
  match vehicle.library.read message with
  | some (.vehicleIdRequest _) =>
    (.ok (some (vehicle.library.serialize (.vehicleIdResponse vehicle.vehicleIdRequestHandler.response))), cache)
  | some (.diagMessage _ diagMessage) =>
    DiagMessageHandler.tryHandle (fun ack => vehicle.library.serialize (.diagMessageAck ack)) cProtocolVersion
      (vehicle.environment lookUp) cache (some diagMessage)
  | _ => (.ok none, cache)

theorem vehicleIdRequest_fits : (DoipMessage.vehicleIdRequest cProtocolVersion).Fits := by
  refine ⟨by decide, fun _ impossible => ?_⟩
  cases impossible

theorem diagMessage_fits {diagMessage : DiagMessage} (short : diagMessage.userData.length ≤ 52) :
    (DoipMessage.diagMessage cProtocolVersion diagMessage).Fits := by
  refine ⟨?_, fun _ impossible => ?_⟩
  · show 8 + (4 + diagMessage.userData.length) ≤ 64
    omega
  · cases impossible

def controller (vehicle : DoipVehicle) (lookUp : LookUp) : DoipController ResponseCache where
  toFrontDecoder := vehicle.library.toFrontDecoder
  handle := vehicle.handle lookUp
  refuse := vehicle.library.refuse
  two_messages := by
    have sizes := vehicle.library.serialize_length
    have empty : (DoipMessage.diagMessage cProtocolVersion ⟨0, 0, []⟩).Fits := diagMessage_fits (Nat.zero_le 52)
    refine ⟨vehicle.library.serialize (.vehicleIdRequest cProtocolVersion),
      vehicle.library.serialize (.diagMessage cProtocolVersion ⟨0, 0, []⟩), fun same => ?_, ⟨?_, ?_⟩, ?_, ?_⟩
    · have lengths := congrArg List.length same
      rw [sizes _ vehicleIdRequest_fits, sizes _ empty] at lengths
      exact absurd lengths (by decide)
    · exact vehicle.library.decode_serialize _ vehicleIdRequest_fits rfl
    · rw [sizes _ vehicleIdRequest_fits]
      exact vehicleIdRequest_fits.1
    · exact vehicle.library.decode_serialize _ empty rfl
    · rw [sizes _ empty]
      exact empty.1

end DoipVehicle

/-! ## The client -/

/-- A round of the loop of `onSend`: the queue that is left, and the packet that is sent. -/
def packetRound (sendQueue : List Bytes) (sendBuffer : Block cDoipPacketSize) (locked : Bool) :
    List Bytes × Option Bytes :=
  match ConcurrentQueue.tryDequeue sendQueue locked with
  | (some message, sendQueue) =>
    if message.length ≤ cDoipPacketSize then (sendQueue, some (message ++ sendBuffer.bytes.drop message.length))
    else (sendQueue, none)
  | (none, sendQueue) => (sendQueue, none)

structure DoipClient where
  logicalAddress : Option UInt16
  sendQueue : List Bytes
  deriving DecidableEq, Repr

namespace DoipClient
variable (library : DoipLib)

/-- The connected client. -/
def make : DoipClient := ⟨none, [library.serialize (.vehicleIdRequest cProtocolVersion)]⟩

def handleVehicleIdResponse (client : DoipClient) (response : VehicleIdResponse) : DoipClient :=
  { client with logicalAddress := some response.logicalAddress }

/-- What `mCallback` is called with, if it is called. -/
def handleDiagMessageAck (ack : DiagMessageAck) : Option Bytes := library.tryGetPreviousMessage ack

def onSend (client : DoipClient) (sendBuffer : Block cDoipPacketSize) (locked : Bool) : DoipClient × Option Bytes :=
  let (sendQueue, packet) := packetRound client.sendQueue sendBuffer locked
  ({ client with sendQueue }, packet)

/-- With what `mCallback` is called with. -/
def onReceive (client : DoipClient) (segment : Segment) (receiveBuffer : Block cDoipPacketSize) :
    DoipClient × Option Bytes :=
  match library.read (segment.receive receiveBuffer).bytes with
  | some (.vehicleIdResponse response) => (client.handleVehicleIdResponse response, none)
  | some (.diagMessageAck ack) => (client, handleDiagMessageAck library ack)
  | _ => (client, none)

def trySendDiagMessage (client : DoipClient) (userData : Bytes) (locked : Bool) : Bool × DoipClient :=
  match client.logicalAddress with
  | none => (false, client)
  | some logicalAddress =>
    let (result, sendQueue) := ConcurrentQueue.tryEnqueue client.sendQueue locked
      (library.serialize (.diagMessage cProtocolVersion ⟨logicalAddress, logicalAddress, userData⟩))
    (result, { client with sendQueue })

end DoipClient

/-! ## Packets -/

/-- What a receive returns that takes up to `count` bytes off the stream. -/
def Segment.front (stream : Bytes) (count : ℕ) : Segment where
  data := stream.take (min count cDoipPacketSize)
  fits := by
    rw [List.length_take]
    omega

theorem Segment.front_receive {stream : Bytes} {count : ℕ} (whole : cDoipPacketSize ≤ count)
    (there : cDoipPacketSize ≤ stream.length) (buffer : Block cDoipPacketSize) :
    ((Segment.front stream count).receive buffer).bytes = stream.take cDoipPacketSize := by
  have taken : (Segment.front stream count).data = stream.take cDoipPacketSize := by
    show stream.take (min count cDoipPacketSize) = _
    rw [Nat.min_eq_right whole]
  have size : (stream.take cDoipPacketSize).length = cDoipPacketSize := List.length_take_of_le there
  show (Segment.front stream count).data ++ buffer.bytes.drop (Segment.front stream count).data.length = _
  rw [taken, size, List.drop_eq_nil_of_le (Nat.le_of_eq buffer.length_eq), List.append_nil]

theorem packetRound_cons {message : Bytes} (fits : message.length ≤ cDoipPacketSize) (rest : List Bytes)
    (sendBuffer : Block cDoipPacketSize) (locked : Bool) :
    ∃ padding, (message ++ padding).length = cDoipPacketSize ∧
      packetRound (message :: rest) sendBuffer locked =
        if locked then (rest, some (message ++ padding)) else (message :: rest, none) := by
  refine ⟨sendBuffer.bytes.drop message.length, ?_, ?_⟩
  · rw [List.length_append, List.length_drop, sendBuffer.length_eq]
    omega
  · cases locked with
    | false => rfl
    | true => exact if_pos fits

/-- The server's rounds are those of the client. -/
theorem DoipServer.onSend_eq {σ : Type} (server : DoipServer σ) (sendBuffer : Block cDoipPacketSize) (locked : Bool) :
    server.onSend sendBuffer locked =
      ({ server with sendQueue := (packetRound server.sendQueue sendBuffer locked).1 },
        (packetRound server.sendQueue sendBuffer locked).2) := by
  unfold DoipServer.onSend packetRound
  generalize ConcurrentQueue.tryDequeue server.sendQueue locked = taken
  obtain ⟨dequeued, sendQueue⟩ := taken
  cases dequeued with
  | none => rfl
  | some message =>
    dsimp only
    split_ifs with fits
    · rfl
    · rfl

section Receiving
variable {σ : Type} {controller : DoipController σ} {server : DoipServer σ} {segment : Segment}
  {receiveBuffer : Block cDoipPacketSize} {after : σ}

theorem DoipServer.onReceive_response {response : Bytes}
    (handled : controller.tryHandle server.state (segment.receive receiveBuffer).bytes = (.ok (some response), after))
    (locked : Bool) :
    server.onReceive controller segment receiveBuffer locked =
      { server with
        sendQueue := if locked then server.sendQueue ++ [response] else server.sendQueue
        state := after
        passed := server.passed ++ [(segment.receive receiveBuffer).bytes] } := by
  unfold onReceive
  dsimp only
  rw [handled]
  cases locked with
  | false => rfl
  | true => rfl

theorem DoipServer.onReceive_silent {outcome : Outcome (Option Bytes)}
    (handled : controller.tryHandle server.state (segment.receive receiveBuffer).bytes = (outcome, after))
    (silent : ∀ response, outcome ≠ .ok (some response)) (locked : Bool) :
    ∃ fault,
      server.onReceive controller segment receiveBuffer locked =
        { server with
          state := after
          passed := server.passed ++ [(segment.receive receiveBuffer).bytes]
          fault } := by
  unfold onReceive
  dsimp only
  rw [handled]
  cases outcome with
  | error e => exact ⟨some e, rfl⟩
  | ok response =>
    cases response with
    | none => exact ⟨server.fault, rfl⟩
    | some response => exact absurd rfl (silent response)

end Receiving

end AdaptiveAutosar.Application
