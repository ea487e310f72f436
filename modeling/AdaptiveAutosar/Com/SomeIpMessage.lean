import AdaptiveAutosar.Com.PayloadHelper

/-! # The SOME/IP header

`ara::com::someip::SomeIpMessage`: the sixteen bytes all messages begin with. `Length()` is pure
virtual, so the header is written with the length the subclass answers. Reading checks the first
twelve bytes only: the versions, the type and the return code are read through `operator[]`.
-/

namespace AdaptiveAutosar.Com
open Foundations Foundations.BigEndian
set_option autoImplicit false

/-- Cast from a byte without a check when a message is read, so its values are all the bytes. -/
structure SomeIpMessageType where
  code : UInt8
  deriving DecidableEq, Repr

namespace SomeIpMessageType
def request : SomeIpMessageType := ⟨0x00⟩
def notification : SomeIpMessageType := ⟨0x02⟩
def response : SomeIpMessageType := ⟨0x80⟩
def error : SomeIpMessageType := ⟨0x81⟩
end SomeIpMessageType

/-- Cast from a byte without a check, as the message type is. -/
structure SomeIpReturnCode where
  code : UInt8
  deriving DecidableEq, Repr

namespace SomeIpReturnCode
def eOK : SomeIpReturnCode := ⟨0x00⟩
def eNotOk : SomeIpReturnCode := ⟨0x01⟩
def eUnknownService : SomeIpReturnCode := ⟨0x02⟩
def eUnknownMethod : SomeIpReturnCode := ⟨0x03⟩
def eWrongProtocolVersion : SomeIpReturnCode := ⟨0x07⟩
def eWrongInterfaceVersion : SomeIpReturnCode := ⟨0x08⟩
def eWrongMessageType : SomeIpReturnCode := ⟨0x0a⟩
end SomeIpReturnCode

structure SomeIpMessage where
  messageId : UInt32
  clientId : UInt16
  sessionId : UInt16
  protocolVersion : UInt8
  interfaceVersion : UInt8
  messageType : SomeIpMessageType
  returnCode : SomeIpReturnCode
  deriving DecidableEq, Repr

namespace SomeIpMessage

/-- The constructor for requests and notifications. -/
def makeRequest (messageId : UInt32) (clientId : UInt16) (protocolVersion interfaceVersion : UInt8)
    (messageType : SomeIpMessageType) (sessionId : UInt16) : Outcome SomeIpMessage :=
  if messageType ≠ .request ∧ messageType ≠ .notification then
    .error (.thrown (.invalidArgument "Invalid message type."))
  else .ok { messageId, clientId, sessionId, protocolVersion, interfaceVersion, messageType,
             returnCode := .eOK }

/-- The constructor for responses and errors. -/
def makeResponse (messageId : UInt32) (clientId : UInt16) (protocolVersion interfaceVersion : UInt8)
    (messageType : SomeIpMessageType) (returnCode : SomeIpReturnCode) (sessionId : UInt16) :
    Outcome SomeIpMessage :=
  if messageType = .request ∨ messageType = .notification then
    .error (.thrown (.invalidArgument "Invalid message type."))
  else if messageType = .error ∧ returnCode = .eOK then
    .error (.thrown (.invalidArgument "Invalid return code."))
  else .ok { messageId, clientId, sessionId, protocolVersion, interfaceVersion, messageType,
             returnCode }

def setSessionId (message : SomeIpMessage) (sessionId : UInt16) : SomeIpMessage :=
  { message with sessionId }

def cSessionIdMin : UInt16 := 1
def cSessionIdMax : UInt16 := 0xffff

/-- Whether the session ID wrapped around, and the message with the next one. -/
def incrementSessionId (message : SomeIpMessage) : Bool × SomeIpMessage :=
  if message.sessionId = cSessionIdMax then (true, { message with sessionId := cSessionIdMin })
  else (false, { message with sessionId := message.sessionId + 1 })

def payload (message : SomeIpMessage) (length : UInt32) : Bytes :=
  let result := injectInteger [] message.messageId
  let result := injectInteger result length
  let result := injectShort result message.clientId
  let result := injectShort result message.sessionId
  let result := result ++ [message.protocolVersion]
  let result := result ++ [message.interfaceVersion]
  let result := result ++ [message.messageType.code]
  result ++ [message.returnCode.code]

def read : Cursor UInt8 SomeIpMessage := do
  let messageId ← extractInteger
  Cursor.skip 4
  let clientId ← extractShort
  let sessionId ← extractShort
  let protocolVersion ← Cursor.unchecked
  let interfaceVersion ← Cursor.unchecked
  let messageType ← Cursor.unchecked
  let returnCode ← Cursor.unchecked
  pure { messageId, clientId, sessionId, protocolVersion, interfaceVersion,
         messageType := ⟨messageType⟩, returnCode := ⟨returnCode⟩ }

def deserialize (payload : Bytes) : Outcome SomeIpMessage := (read payload 0).map Prod.fst

/-! ## Reading a header -/

theorem payload_record (message : SomeIpMessage) (length : UInt32) :
    message.payload length = bytes32 message.messageId ++ bytes32 length ++
      bytes16 message.clientId ++ bytes16 message.sessionId ++
      [message.protocolVersion, message.interfaceVersion, message.messageType.code,
        message.returnCode.code] := by
  simp only [payload, injectInteger, injectShort, List.nil_append, List.append_assoc]
  rfl

theorem payload_length (message : SomeIpMessage) (length : UInt32) :
    (message.payload length).length = 16 := by
  rw [payload_record]
  rfl

theorem read_yields (m0 m1 m2 m3 l0 l1 l2 l3 c0 c1 s0 s1 p i t r : UInt8) :
    read.Yields [m0, m1, m2, m3, l0, l1, l2, l3, c0, c1, s0, s1, p, i, t, r]
      (.ok ⟨word32 m0 m1 m2 m3, word16 c0 c1, word16 s0 s1, p, i, ⟨t⟩, ⟨r⟩⟩) :=
  (extractInteger_yields m0 m1 m2 m3).bind ((Cursor.Yields.skip [l0, l1, l2, l3]).bind
    ((extractShort_yields c0 c1).bind ((extractShort_yields s0 s1).bind
      ((Cursor.Yields.unchecked p).bind ((Cursor.Yields.unchecked i).bind
        ((Cursor.Yields.unchecked t).bind ((Cursor.Yields.unchecked r).bind
          (Cursor.Yields.pure _))))))))

theorem read_payload (message : SomeIpMessage) (length : UInt32) :
    read.Yields (message.payload length) (.ok message) := by
  rw [payload_record]
  have h := read_yields (message.messageId >>> 24).toUInt8 (message.messageId >>> 16).toUInt8
    (message.messageId >>> 8).toUInt8 message.messageId.toUInt8
    (length >>> 24).toUInt8 (length >>> 16).toUInt8 (length >>> 8).toUInt8 length.toUInt8
    (message.clientId >>> 8).toUInt8 message.clientId.toUInt8
    (message.sessionId >>> 8).toUInt8 message.sessionId.toUInt8
    message.protocolVersion message.interfaceVersion message.messageType.code message.returnCode.code
  rw [word32_bytes32, word16_bytes16, word16_bytes16] at h
  exact h

theorem deserialize_append (message : SomeIpMessage) (length : UInt32) (rest : Bytes) :
    deserialize (message.payload length ++ rest) = .ok message := by
  have h := read_payload message length [] rest
  rw [List.nil_append] at h
  unfold deserialize
  rw [List.length_nil] at h
  rw [h]
  rfl

theorem deserialize_ok {payload : Bytes} (h : 16 ≤ payload.length) :
    ∃ message, deserialize payload = .ok message := by
  have h0 : 0 + 16 ≤ payload.length := by omega
  obtain ⟨rec, hrec, hl⟩ := Cursor.exists_record h0
  match rec, hl with
  | [m0, m1, m2, m3, l0, l1, l2, l3, c0, c1, s0, s1, p, i, t, r], _ =>
    refine ⟨⟨word32 m0 m1 m2 m3, word16 c0 c1, word16 s0 s1, p, i, ⟨t⟩, ⟨r⟩⟩, ?_⟩
    unfold deserialize
    rw [(read_yields m0 m1 m2 m3 l0 l1 l2 l3 c0 c1 s0 s1 p i t r).at hrec]
    rfl

theorem deserialize_short {payload : Bytes} (h : payload.length < 12) :
    ThrowsOutOfRange (deserialize payload) := by
  have ht : read.Truncated 12 := extractInteger_advances.truncated (n := 8) fun _ =>
    (Cursor.Advances.skip 4).truncated (n := 4) fun _ => extractShort_advances.truncated (n := 2)
      fun _ => extractShort_truncated.bind _
  obtain ⟨what, hw⟩ := ht payload 0 (by omega)
  refine ⟨what, ?_⟩
  unfold deserialize
  rw [hw]
  rfl

/-- Behind the checked fields the header is read outside a buffer that ends before byte sixteen. -/
theorem deserialize_undefined {payload : Bytes} (h : 12 ≤ payload.length) (h' : payload.length < 16) :
    deserialize payload = .error .undefined := by
  match payload, h, h' with
  | [_, _, _, _, _, _, _, _, _, _, _, _], _, _ => rfl
  | [_, _, _, _, _, _, _, _, _, _, _, _, _], _, _ => rfl
  | [_, _, _, _, _, _, _, _, _, _, _, _, _, _], _, _ => rfl
  | [_, _, _, _, _, _, _, _, _, _, _, _, _, _, _], _, _ => rfl
  | _ :: _ :: _ :: _ :: _ :: _ :: _ :: _ :: _ :: _ :: _ :: _ :: _ :: _ :: _ :: _ :: _, _, h' =>
    simp only [List.length_cons] at h'
    omega

/-! ## Session IDs -/

/-- The session ID behind `n` increments from the first one. -/
def numberedSessionId (n : ℕ) : UInt16 := UInt16.ofNat (n % 65535 + 1)

theorem numberedSessionId_toNat (n : ℕ) : (numberedSessionId n).toNat = n % 65535 + 1 := by
  have small := Nat.mod_lt n (show 0 < 65535 by omega)
  rw [numberedSessionId, UInt16.toNat_ofNat']
  omega

theorem numberedSessionId_ne_zero (n : ℕ) : numberedSessionId n ≠ 0 := by
  intro zero
  have number := numberedSessionId_toNat n
  rw [zero] at number
  simp at number

/-- An increment leads to the next number, and wraps around when all the others were used. -/
theorem incrementSessionId_numbered {message : SomeIpMessage} {n : ℕ}
    (h : message.sessionId = numberedSessionId n) :
    message.incrementSessionId =
      (decide (n % 65535 = 65534), { message with sessionId := numberedSessionId (n + 1) }) := by
  have at_max : message.sessionId = cSessionIdMax ↔ n % 65535 = 65534 := by
    rw [h, ← UInt16.toNat_inj, numberedSessionId_toNat]
    show n % 65535 + 1 = 65535 ↔ _
    omega
  unfold incrementSessionId
  by_cases last : n % 65535 = 65534
  · have first : numberedSessionId (n + 1) = cSessionIdMin := by
      apply UInt16.toNat_inj.mp
      rw [numberedSessionId_toNat]
      show _ = 1
      omega
    rw [if_pos (at_max.mpr last), decide_eq_true last, first]
  · have succ : message.sessionId + 1 = numberedSessionId (n + 1) := by
      apply UInt16.toNat_inj.mp
      rw [UInt16.toNat_add, h, numberedSessionId_toNat, numberedSessionId_toNat]
      show (n % 65535 + 1 + 1) % 65536 = _
      omega
    rw [if_neg (mt at_max.mp last), decide_eq_false last, succ]

end SomeIpMessage

end AdaptiveAutosar.Com
