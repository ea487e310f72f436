import AdaptiveAutosar.Application.DoipClient
import AdaptiveAutosar.Com.Rpc.Socket

/-! # DoIP messages on the wire

A library for the client and the vehicle: the generic header of the protocol, and the payloads of the four messages.
-/

namespace AdaptiveAutosar.Application
open Foundations Foundations.BigEndian Com
set_option autoImplicit false

namespace DoipWire

def cVehicleIdRequest : UInt16 := 0x0001
def cVehicleIdResponse : UInt16 := 0x0004
def cDiagMessage : UInt16 := 0x8001
def cDiagMessageAck : UInt16 := 0x8002
def cAckCode : UInt8 := 0x00

def versionOf : DoipMessage → UInt8
  | .vehicleIdRequest protocolVersion => protocolVersion
  | .vehicleIdResponse response => response.protocolVersion
  | .diagMessage protocolVersion _ => protocolVersion
  | .diagMessageAck ack => ack.protocolVersion

def typeOf : DoipMessage → UInt16
  | .vehicleIdRequest _ => cVehicleIdRequest
  | .vehicleIdResponse _ => cVehicleIdResponse
  | .diagMessage _ _ => cDiagMessage
  | .diagMessageAck _ => cDiagMessageAck

def payloadOf : DoipMessage → Bytes
  | .vehicleIdRequest _ => []
  | .vehicleIdResponse response =>
    response.vin ++ (bytes16 response.logicalAddress ++ (response.eid ++ (response.gid ++ [response.furtherAction])))
  | .diagMessage _ message => bytes16 message.sourceAddress ++ (bytes16 message.targetAddress ++ message.userData)
  | .diagMessageAck ack =>
    bytes16 ack.sourceAddress ++ (bytes16 ack.targetAddress ++ cAckCode :: ack.previousMessage)

def header (version : UInt8) (payloadType : UInt16) (payloadLength : UInt32) : Bytes :=
  version :: (version ^^^ 0xff) :: (bytes16 payloadType ++ bytes32 payloadLength)

def serialize (message : DoipMessage) : Bytes :=
  header (versionOf message) (typeOf message) (.ofNat (payloadOf message).length) ++ payloadOf message

def readPayload (version : UInt8) (payloadType : UInt16) (payload : Bytes) : Option DoipMessage :=
  if payloadType = cVehicleIdRequest then some (.vehicleIdRequest version)
  else if payloadType = cVehicleIdResponse then
    match payload.drop 17 with
    | a0 :: a1 :: ids =>
      (ids.drop 12).head?.map fun furtherAction => .vehicleIdResponse
        ⟨version, payload.take 17, word16 a0 a1, ids.take 6, (ids.drop 6).take 6, furtherAction⟩
    | _ => none
  else if payloadType = cDiagMessage then
    match payload with
    | s0 :: s1 :: t0 :: t1 :: userData => some (.diagMessage version ⟨word16 s0 s1, word16 t0 t1, userData⟩)
    | _ => none
  else if payloadType = cDiagMessageAck then
    match payload with
    | s0 :: s1 :: t0 :: t1 :: _ :: previousMessage =>
      some (.diagMessageAck ⟨version, word16 s0 s1, word16 t0 t1, previousMessage⟩)
    | _ => none
  else none

def read (bytes : Bytes) : Option DoipMessage :=
  match bytes with
  | version :: inverse :: p0 :: p1 :: l0 :: l1 :: l2 :: l3 :: rest =>
    if inverse = version ^^^ 0xff ∧ (word32 l0 l1 l2 l3).toNat ≤ rest.length then
      readPayload version (word16 p0 p1) (rest.take (word32 l0 l1 l2 l3).toNat)
    else none
  | _ => none

/-! ## Round trips -/

section RoundTrips
variable {message : DoipMessage}

theorem payloadOf_length (fits : message.Fits) : (payloadOf message).length = message.payloadLength := by
  cases message with
  | vehicleIdRequest protocolVersion => rfl
  | vehicleIdResponse response =>
    obtain ⟨vin, eid, gid⟩ := fits.2 response rfl
    simp [payloadOf, DoipMessage.payloadLength, bytes16, vin, eid, gid]
  | diagMessage protocolVersion diagMessage =>
    simp [payloadOf, DoipMessage.payloadLength, bytes16]
    omega
  | diagMessageAck ack =>
    simp [payloadOf, DoipMessage.payloadLength, bytes16]
    omega

theorem length_word (fits : message.Fits) :
    (UInt32.ofNat (payloadOf message).length).toNat = (payloadOf message).length := by
  have small : 8 + message.payloadLength ≤ 64 := fits.1
  rw [payloadOf_length fits, UInt32.toNat_ofNat_of_lt']
  exact Nat.lt_of_le_of_lt (by omega : message.payloadLength ≤ 64) (by decide)

theorem serialize_length (fits : message.Fits) :
    (serialize message).length = DoipMessage.cHeaderSize + message.payloadLength := by
  rw [serialize, List.length_append, payloadOf_length fits]
  rfl

theorem readPayload_payloadOf (fits : message.Fits) :
    readPayload (versionOf message) (typeOf message) (payloadOf message) = some message := by
  cases message with
  | vehicleIdRequest protocolVersion => rfl
  | vehicleIdResponse response =>
    obtain ⟨vin, eid, gid⟩ := fits.2 response rfl
    obtain ⟨protocolVersion, vinBytes, logicalAddress, eidBytes, gidBytes, furtherAction⟩ := response
    have behind : (payloadOf (.vehicleIdResponse
        ⟨protocolVersion, vinBytes, logicalAddress, eidBytes, gidBytes, furtherAction⟩)).drop 17 =
        (logicalAddress >>> 8).toUInt8 :: logicalAddress.toUInt8 :: (eidBytes ++ (gidBytes ++ [furtherAction])) :=
      List.drop_left' vin
    have front : (payloadOf (.vehicleIdResponse
        ⟨protocolVersion, vinBytes, logicalAddress, eidBytes, gidBytes, furtherAction⟩)).take 17 = vinBytes :=
      List.take_left' vin
    have ids : (eidBytes ++ (gidBytes ++ [furtherAction])).drop 12 = [furtherAction] := by
      rw [← List.append_assoc]
      exact List.drop_left' (by rw [List.length_append, eid, gid])
    have second : ((eidBytes ++ (gidBytes ++ [furtherAction])).drop 6).take 6 = gidBytes := by
      rw [List.drop_left' eid]
      exact List.take_left' gid
    show readPayload protocolVersion cVehicleIdResponse _ = _
    unfold readPayload
    rw [if_neg (by decide), if_pos rfl, behind, front]
    dsimp only
    rw [ids, second, List.take_left' eid, word16_bytes16]
    rfl
  | diagMessage protocolVersion diagMessage =>
    show some (DoipMessage.diagMessage protocolVersion ⟨word16 _ _, word16 _ _, diagMessage.userData⟩) = _
    rw [word16_bytes16, word16_bytes16]
  | diagMessageAck ack =>
    show some (DoipMessage.diagMessageAck ⟨ack.protocolVersion, word16 _ _, word16 _ _, ack.previousMessage⟩) = _
    rw [word16_bytes16, word16_bytes16]

theorem read_serialize (fits : message.Fits) (rest : Bytes) : read (serialize message ++ rest) = some message := by
  have word := word32_bytes32 (.ofNat (payloadOf message).length)
  have size := length_word fits
  show (if (versionOf message ^^^ 0xff) = (versionOf message ^^^ 0xff) ∧
      (word32 _ _ _ _).toNat ≤ (payloadOf message ++ rest).length then
    readPayload (versionOf message) (word16 _ _) ((payloadOf message ++ rest).take (word32 _ _ _ _).toNat)
    else none) = _
  rw [word, size, if_pos ⟨rfl, by rw [List.length_append]; omega⟩, List.take_left, word16_bytes16]
  exact readPayload_payloadOf fits

theorem isFrame_serialize (fits : message.Fits) : someIp.IsFrame (serialize message) := by
  have long : 8 ≤ (serialize message).length := by
    rw [serialize_length fits]
    exact Nat.le_add_right _ _
  have held : Cursor.HoldsAt (serialize message) 4 (bytes32 (.ofNat (payloadOf message).length)) :=
    ⟨versionOf message :: (versionOf message ^^^ 0xff) :: bytes16 (typeOf message), payloadOf message, rfl, rfl⟩
  show frameSize (serialize message) = some (serialize message).length
  rw [frameSize_of_le long, SomeIpRpcMessage.lengthField_eq held, length_word fits, serialize_length fits,
    payloadOf_length fits]
  rfl

end RoundTrips

/-- The messages that the vehicle has a handler for. -/
def accepts (message : Bytes) : Bool :=
  message.take 4 = [0x02, 0xfd, 0x00, 0x01] || message.take 4 = [0x02, 0xfd, 0x80, 0x01]

theorem accepts_serialize {message : DoipMessage} (request : message.IsRequest) :
    accepts (serialize message) = true := by
  cases message with
  | vehicleIdRequest protocolVersion =>
    obtain rfl : protocolVersion = cProtocolVersion := request
    rfl
  | diagMessage protocolVersion diagMessage =>
    obtain rfl : protocolVersion = cProtocolVersion := request
    have front : (serialize (.diagMessage cProtocolVersion diagMessage)).take 4 = [0x02, 0xfd, 0x80, 0x01] := by
      show [cProtocolVersion, cProtocolVersion ^^^ 0xff, (cDiagMessage >>> 8).toUInt8, cDiagMessage.toUInt8] = _
      decide
    rw [accepts, front]
    rfl
  | vehicleIdResponse response => cases request
  | diagMessageAck ack => cases request

def requestDecoder : FrontDecoder UInt8 := .ofFraming someIp accepts

theorem isMessage_serialize {message : DoipMessage} (fits : message.Fits) (request : message.IsRequest) :
    requestDecoder.IsMessage (serialize message) :=
  FrontDecoder.isMessage_ofFraming (isFrame_serialize fits) (accepts_serialize request)

def library : DoipLib where
  decode := requestDecoder.decode
  decode_prefix := requestDecoder.decode_prefix
  decode_append := requestDecoder.decode_append
  serialize := serialize
  read := read
  tryGetPreviousMessage ack := if ack.previousMessage = [] then none else some ack.previousMessage
  refuse _ := none
  serialize_length _ fits := serialize_length fits
  read_serialize _ fits rest := read_serialize fits rest
  decode_serialize _ fits request := isMessage_serialize fits request
  tryGetPreviousMessage_eq _ filled := if_neg filled

end DoipWire
end AdaptiveAutosar.Application
