import AdaptiveAutosar.Com.SomeIpMessage

/-! # RPC messages

`ara::com::someip::rpc::SomeIpRpcMessage`: a header and the bytes of the call. `Deserialize` takes
the end of these bytes from the length field and copies them out of the payload with a pair of
iterators, without comparing them with the payload's end.
-/

namespace AdaptiveAutosar.Com
open Foundations Foundations.BigEndian Foundations.Cursor
set_option autoImplicit false

structure SomeIpRpcMessage extends SomeIpMessage where
  rpcPayload : Bytes
  deriving DecidableEq, Repr

namespace SomeIpRpcMessage

/-- The default constructor. -/
def make : Outcome SomeIpRpcMessage := do
  let base ← SomeIpMessage.makeRequest 0 0 1 1 .request 1
  pure { toSomeIpMessage := base, rpcPayload := [] }

def makeRequest (messageId : UInt32) (clientId sessionId : UInt16)
    (protocolVersion interfaceVersion : UInt8) (rpcPayload : Bytes) : Outcome SomeIpRpcMessage := do
  let base ← SomeIpMessage.makeRequest messageId clientId protocolVersion interfaceVersion .request
    sessionId
  pure { toSomeIpMessage := base, rpcPayload }

def makeResponse (messageId : UInt32) (clientId sessionId : UInt16)
    (protocolVersion interfaceVersion : UInt8) (returnCode : SomeIpReturnCode) (rpcPayload : Bytes) :
    Outcome SomeIpRpcMessage := do
  let base ← SomeIpMessage.makeResponse messageId clientId protocolVersion interfaceVersion
    (if returnCode = .eOK then .response else .error) returnCode sessionId
  pure { toSomeIpMessage := base, rpcPayload }

def cHeaderLength : ℕ := 8

def length (message : SomeIpRpcMessage) : UInt32 :=
  UInt32.ofNat (cHeaderLength + message.rpcPayload.length)

def payload (message : SomeIpRpcMessage) : Bytes :=
  message.toSomeIpMessage.payload message.length ++ message.rpcPayload

def cHeaderSize : ℕ := 16

/-- `std::vector(cbegin() + first, cbegin() + last)`: undefined unless the range lies in the vector. -/
def vectorOfRange (vector : Bytes) (first : ℕ) (last : ℤ) : Outcome Bytes :=
  if (first : ℤ) ≤ last ∧ last ≤ (vector.length : ℤ) then
    .ok ((vector.drop first).take (last.toNat - first))
  else .error .undefined

def deserialize (payload : Bytes) : Outcome SomeIpRpcMessage := do
  let (lengthInt, lengthOffset) ← extractInteger payload 4
  let result ← make
  let base ← SomeIpMessage.deserialize payload
  let rpcPayload ← vectorOfRange payload cHeaderSize
    ((cHeaderSize : ℤ) + (lengthInt.toNat : ℤ) - (lengthOffset : ℤ))
  pure { result with toSomeIpMessage := base, rpcPayload }

/-! ## The constructors do not throw -/

theorem make_eq : make = .ok ⟨⟨0, 0, 1, 1, 1, .request, .eOK⟩, []⟩ := rfl

theorem makeResponse_eq (messageId : UInt32) (clientId sessionId : UInt16)
    (protocolVersion interfaceVersion : UInt8) (returnCode : SomeIpReturnCode) (rpcPayload : Bytes) :
    makeResponse messageId clientId sessionId protocolVersion interfaceVersion returnCode rpcPayload =
      .ok ⟨⟨messageId, clientId, sessionId, protocolVersion, interfaceVersion,
        if returnCode = .eOK then .response else .error, returnCode⟩, rpcPayload⟩ := by
  unfold makeResponse SomeIpMessage.makeResponse
  by_cases h : returnCode = .eOK
  · subst h
    rfl
  · have h1 : ¬ (SomeIpMessageType.error = .request ∨ SomeIpMessageType.error = .notification) := by
      decide
    simp only [h, if_false, h1, and_false]
    rfl

/-! ## Reading -/

/-- The length field of a byte string that has one. -/
def lengthField (p : Bytes) : ℕ :=
  match extractInteger p 4 with
  | .ok (word, _) => word.toNat
  | .error _ => 0

theorem extractInteger_four {p : Bytes} (h : 8 ≤ p.length) :
    ∃ word, extractInteger p 4 = .ok (word, 8) ∧ word.toNat = lengthField p ∧
      HoldsAt p 4 (bytes32 word) := by
  obtain ⟨rec, hrec, hl⟩ := exists_record (show 4 + 4 ≤ p.length from h)
  match rec, hl with
  | [b0, b1, b2, b3], _ =>
    have hread := (extractInteger_yields b0 b1 b2 b3).at hrec
    refine ⟨word32 b0 b1 b2 b3, hread, ?_, ?_⟩
    · simp only [lengthField, hread]
      rfl
    · rw [bytes32_word32]
      exact hrec

theorem lengthField_eq {p : Bytes} {word : UInt32} (h : HoldsAt p 4 (bytes32 word)) :
    lengthField p = word.toNat := by
  have hread := (extractInteger_bytes32 word).at h
  simp only [lengthField, hread]
  rfl

/-- The header is complete and the length field names an end inside the byte string. -/
def WellFormed (p : Bytes) : Prop := 8 ≤ lengthField p ∧ lengthField p + 8 ≤ p.length

instance (p : Bytes) : Decidable (WellFormed p) := by
  unfold WellFormed
  infer_instance

theorem WellFormed.length_le {p : Bytes} (h : WellFormed p) : 16 ≤ p.length := by
  obtain ⟨h1, h2⟩ := h
  omega

theorem deserialize_wellFormed {p : Bytes} (h : WellFormed p) :
    ∃ base, SomeIpMessage.deserialize p = .ok base ∧
      deserialize p = .ok ⟨base, (p.drop 16).take (lengthField p - 8)⟩ := by
  have hle := h.length_le
  obtain ⟨word, hword, hlength, -⟩ := extractInteger_four (show 8 ≤ p.length by omega)
  obtain ⟨base, hbase⟩ := SomeIpMessage.deserialize_ok hle
  refine ⟨base, hbase, ?_⟩
  obtain ⟨h1, h2⟩ := h
  have hrange : ((cHeaderSize : ℕ) : ℤ) ≤ (cHeaderSize : ℤ) + (word.toNat : ℤ) - ((8 : ℕ) : ℤ) ∧
      (cHeaderSize : ℤ) + (word.toNat : ℤ) - ((8 : ℕ) : ℤ) ≤ (p.length : ℤ) := by
    unfold cHeaderSize
    omega
  have hcount : ((cHeaderSize : ℤ) + (word.toNat : ℤ) - ((8 : ℕ) : ℤ)).toNat - cHeaderSize =
      lengthField p - 8 := by
    unfold cHeaderSize
    omega
  unfold deserialize vectorOfRange
  rw [hword, make_eq]
  simp only [bind, Except.bind, hbase, if_pos hrange, hcount]
  rfl

theorem deserialize_short {p : Bytes} (h : p.length < 12) : ThrowsOutOfRange (deserialize p) := by
  by_cases h8 : p.length < 8
  · exact ThrowsOutOfRange.bind (extractInteger_truncated p 4 (by omega)) _
  · obtain ⟨word, hword, -, -⟩ := extractInteger_four (Nat.le_of_not_lt h8)
    unfold deserialize
    rw [hword, make_eq]
    exact (SomeIpMessage.deserialize_short h).bind _

/-- Any other byte string is read outside its end, or copied from a range outside it. -/
theorem deserialize_undefined {p : Bytes} (h12 : 12 ≤ p.length) (hw : ¬ WellFormed p) :
    deserialize p = .error .undefined := by
  obtain ⟨word, hword, hlength, -⟩ := extractInteger_four (show 8 ≤ p.length by omega)
  unfold deserialize
  rw [hword, make_eq]
  by_cases h16 : p.length < 16
  · simp only [bind, Except.bind, SomeIpMessage.deserialize_undefined h12 h16]
  · obtain ⟨base, hbase⟩ := SomeIpMessage.deserialize_ok (Nat.le_of_not_lt h16)
    have hrange : ¬ (((cHeaderSize : ℕ) : ℤ) ≤ (cHeaderSize : ℤ) + (word.toNat : ℤ) - ((8 : ℕ) : ℤ) ∧
        (cHeaderSize : ℤ) + (word.toNat : ℤ) - ((8 : ℕ) : ℤ) ≤ (p.length : ℤ)) := by
      unfold WellFormed at hw
      unfold cHeaderSize
      omega
    simp only [bind, Except.bind, hbase, vectorOfRange, if_neg hrange]

/-! ## Round trip -/

/-- The payload fits the length field. -/
def Fits (message : SomeIpRpcMessage) : Prop := message.rpcPayload.length + 8 < 2 ^ 32

theorem payload_length (message : SomeIpRpcMessage) :
    message.payload.length = 16 + message.rpcPayload.length := by
  rw [payload, List.length_append, SomeIpMessage.payload_length]

theorem lengthField_payload (message : SomeIpRpcMessage) (h : message.Fits) :
    lengthField message.payload = 8 + message.rpcPayload.length := by
  have hat : HoldsAt message.payload 4 (bytes32 message.length) := by
    rw [payload, SomeIpMessage.payload_record]
    refine ⟨bytes32 message.messageId, bytes16 message.clientId ++ (bytes16 message.sessionId ++
      ([message.protocolVersion, message.interfaceVersion, message.messageType.code,
        message.returnCode.code] ++ message.rpcPayload)), ?_, rfl⟩
    simp only [List.append_assoc]
  rw [lengthField_eq hat, length, UInt32.toNat_ofNat']
  unfold Fits at h
  unfold cHeaderLength
  omega

theorem deserialize_payload (message : SomeIpRpcMessage) (h : message.Fits) :
    deserialize message.payload = .ok message := by
  have hfield := lengthField_payload message h
  have hlength := message.payload_length
  have hw : WellFormed message.payload := by
    unfold WellFormed
    omega
  obtain ⟨base, hbase, hd⟩ := deserialize_wellFormed hw
  have hheader : SomeIpMessage.deserialize message.payload = .ok message.toSomeIpMessage :=
    SomeIpMessage.deserialize_append _ _ _
  have hsame : base = message.toSomeIpMessage := by
    rw [hheader] at hbase
    cases hbase
    rfl
  have hdrop : message.payload.drop 16 = message.rpcPayload := by
    have hl := SomeIpMessage.payload_length message.toSomeIpMessage message.length
    rw [payload, List.drop_append_of_le_length (by omega), List.drop_of_length_le (by omega),
      List.nil_append]
  have hcount : 8 + message.rpcPayload.length - 8 = message.rpcPayload.length := by omega
  rw [hd, hdrop, hfield, hcount, List.take_length, hsame]

end SomeIpRpcMessage

end AdaptiveAutosar.Com
