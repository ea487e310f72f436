import AdaptiveAutosar.Foundations.BigEndian
import AdaptiveAutosar.Foundations.Fields
import AdaptiveAutosar.Ucm.PackageManager

/-! # The wire format of the package management service

`package_management_types.h` and the `append` and `extract` helpers. Proxy and skeleton have copies
of their own of these helpers, with the same bodies; they are one set of definitions here.
-/

namespace AdaptiveAutosar.Ucm
set_option autoImplicit false

/-- The enumerator's value. -/
def UcmErrc.code : UcmErrc → UInt8
  | invalidTransferId => 1
  | transferNotComplete => 2
  | packageMalformed => 3
  | activationFailed => 4
  | rollbackFailed => 5
  | insufficientSpace => 6
  | operationInProgress => 7

def UpdateStateType.code : UpdateStateType → UInt8
  | idle => 0
  | transferring => 1
  | processing => 2
  | activating => 3
  | activated => 4
  | rollingBack => 5
  | rolledBack => 6

theorem UcmErrc.code_injective {a b : UcmErrc} (h : a.code = b.code) : a = b := by
  cases a <;> cases b <;> first | rfl | exact absurd h (by decide)

theorem UpdateStateType.code_injective {a b : UpdateStateType} (h : a.code = b.code) : a = b := by
  cases a <;> cases b <;> first | rfl | exact absurd h (by decide)

end AdaptiveAutosar.Ucm

namespace AdaptiveAutosar.PackageManagement
open Foundations Foundations.BigEndian Foundations.Cursor AdaptiveAutosar.Ucm
set_option autoImplicit false

def cServiceId : UInt16 := 0x00C0
def cProtocolVersion : UInt8 := 1
def cInterfaceVersion : UInt8 := 1
def cClientId : UInt16 := 0x0010

abbrev WireErrorCode := UInt8

def cWireOk : WireErrorCode := 0x00

inductive Method where
  | transferStart
  | transferData
  | transferExit
  | processSwPackage
  | activate
  | getSwClusterInfo
  | getCurrentStatus
  deriving DecidableEq, Repr

def Method.id : Method → UInt16
  | transferStart => 1
  | transferData => 2
  | transferExit => 3
  | processSwPackage => 4
  | activate => 5
  | getSwClusterInfo => 6
  | getCurrentStatus => 7

/-! ## Appending -/

def appendU8 (v : Bytes) (val : UInt8) : Bytes := v ++ [val]

def appendU16 (v : Bytes) (val : UInt16) : Bytes := v ++ bytes16 val

def appendU32 (v : Bytes) (val : UInt32) : Bytes := v ++ bytes32 val

def appendU64 (v : Bytes) (val : UInt64) : Bytes := v ++ bytes64 val

/-- The size is cast to 16 bits; the bytes are appended all the same. -/
def appendString (v s : Bytes) : Bytes := appendU16 v (UInt16.ofNat s.length) ++ s

/-- The size is cast to 32 bits. -/
def appendBytes (v bytes : Bytes) : Bytes := appendU32 v (UInt32.ofNat bytes.length) ++ bytes

/-! ## Extracting -/

def extractU32 : Cursor UInt8 UInt32 := do
  let b0 ← checked
  let b1 ← checked
  let b2 ← checked
  let b3 ← checked
  pure (word32 b0 b1 b2 b3)

def extractU64 : Cursor UInt8 UInt64 := do
  let b0 ← checked
  let b1 ← checked
  let b2 ← checked
  let b3 ← checked
  let b4 ← checked
  let b5 ← checked
  let b6 ← checked
  let b7 ← checked
  pure (word64 b0 b1 b2 b3 b4 b5 b6 b7)

/-- The bytes of the string are taken from `v.data() + offset` without a check. -/
def extractString : Cursor UInt8 Bytes := do
  let b0 ← checked
  let b1 ← checked
  span (word16 b0 b1).toNat

/-- The bytes are taken between two iterators without a check. -/
def extractBytes : Cursor UInt8 Bytes := do
  let len ← extractU32
  span len.toNat

/-! ## One field -/

theorem extractU32_yields (b0 b1 b2 b3 : UInt8) :
    extractU32.Yields [b0, b1, b2, b3] (.ok (word32 b0 b1 b2 b3)) :=
  (Yields.checked b0).bind ((Yields.checked b1).bind ((Yields.checked b2).bind
    ((Yields.checked b3).bind (Yields.pure _))))

theorem extractU32_bytes32 (v : UInt32) : extractU32.Yields (bytes32 v) (.ok v) := by
  have h := extractU32_yields (v >>> 24).toUInt8 (v >>> 16).toUInt8 (v >>> 8).toUInt8 v.toUInt8
  rw [word32_bytes32] at h
  exact h

theorem extractU64_yields (b0 b1 b2 b3 b4 b5 b6 b7 : UInt8) :
    extractU64.Yields [b0, b1, b2, b3, b4, b5, b6, b7] (.ok (word64 b0 b1 b2 b3 b4 b5 b6 b7)) :=
  (Yields.checked b0).bind ((Yields.checked b1).bind ((Yields.checked b2).bind
    ((Yields.checked b3).bind ((Yields.checked b4).bind ((Yields.checked b5).bind
      ((Yields.checked b6).bind ((Yields.checked b7).bind (Yields.pure _))))))))

theorem extractU64_bytes64 (v : UInt64) : extractU64.Yields (bytes64 v) (.ok v) := by
  have h := extractU64_yields (v >>> 56).toUInt8 (v >>> 48).toUInt8 (v >>> 40).toUInt8
    (v >>> 32).toUInt8 (v >>> 24).toUInt8 (v >>> 16).toUInt8 (v >>> 8).toUInt8 v.toUInt8
  rw [word64_bytes64] at h
  exact h

/-- What a string leaves on the wire. -/
def stringRecord (s : Bytes) : Bytes := bytes16 (UInt16.ofNat s.length) ++ s

def bytesRecord (bytes : Bytes) : Bytes := bytes32 (UInt32.ofNat bytes.length) ++ bytes

theorem appendString_eq (v s : Bytes) : appendString v s = v ++ stringRecord s :=
  List.append_assoc v _ s

theorem appendBytes_eq (v bytes : Bytes) : appendBytes v bytes = v ++ bytesRecord bytes :=
  List.append_assoc v _ bytes

theorem extractString_yields (len : UInt16) {s : Bytes} (h : s.length = len.toNat) :
    extractString.Yields (bytes16 len ++ s) (.ok s) := by
  have rest : (span (word16 (len >>> 8).toUInt8 len.toUInt8).toNat).Yields s (.ok s) := by
    rw [word16_bytes16, ← h]
    exact Yields.span s
  exact (Yields.checked _).bind ((Yields.checked _).bind rest)

theorem extractBytes_yields (len : UInt32) {bytes : Bytes} (h : bytes.length = len.toNat) :
    extractBytes.Yields (bytes32 len ++ bytes) (.ok bytes) := by
  have rest : (span len.toNat).Yields bytes (.ok bytes) := by
    rw [← h]
    exact Yields.span bytes
  exact (extractU32_bytes32 len).bind rest

theorem extractString_record {s : Bytes} (h : s.length < 2 ^ 16) :
    extractString.Yields (stringRecord s) (.ok s) := by
  refine extractString_yields _ ?_
  rw [UInt16.toNat_ofNat', Nat.mod_eq_of_lt h]

theorem extractBytes_record {bytes : Bytes} (h : bytes.length < 2 ^ 32) :
    extractBytes.Yields (bytesRecord bytes) (.ok bytes) := by
  refine extractBytes_yields _ ?_
  rw [UInt32.toNat_ofNat', Nat.mod_eq_of_lt h]

/-- Behind a count that is too small for them only so many elements are taken. -/
theorem take_record {α : Type} {m : Cursor UInt8 α} {front s : Bytes} {n : ℕ} {a : α}
    (h : m.Yields (front ++ s.take n) (.ok a)) {buffer : Bytes} {offset : ℕ}
    (holds : HoldsAt buffer offset (front ++ s)) : ∃ offset', m buffer offset = .ok (a, offset') := by
  obtain ⟨pre, post, rfl, rfl⟩ := holds
  have read := h pre (s.drop n ++ post)
  have same : pre ++ (front ++ s.take n) ++ (s.drop n ++ post) = pre ++ (front ++ s) ++ post := by
    simp only [List.append_assoc]
    rw [← List.append_assoc (s.take n), List.take_append_drop]
  rw [same] at read
  exact ⟨_, read⟩

theorem length_lt_of_take_mod {s : Bytes} {n : ℕ} (pos : 0 < n) (same : s.take (s.length % n) = s) :
    s.length < n := by
  have size := congrArg List.length same
  rw [List.length_take] at size
  have := Nat.mod_lt s.length pos
  omega

theorem length_lt_of_extractString {buffer s : Bytes} {offset offset' : ℕ}
    (holds : HoldsAt buffer offset (stringRecord s))
    (read : extractString buffer offset = .ok (s, offset')) : s.length < 2 ^ 16 := by
  have short : (s.take (s.length % 2 ^ 16)).length = (UInt16.ofNat s.length).toNat := by
    rw [UInt16.toNat_ofNat', List.length_take]
    exact min_eq_left (Nat.mod_le _ _)
  obtain ⟨_, cut⟩ := take_record (extractString_yields (UInt16.ofNat s.length) short) holds
  rw [cut] at read
  exact length_lt_of_take_mod (by decide) (congrArg Prod.fst (Except.ok.inj read))

theorem length_lt_of_extractBytes {buffer s : Bytes} {offset offset' : ℕ}
    (holds : HoldsAt buffer offset (bytesRecord s))
    (read : extractBytes buffer offset = .ok (s, offset')) : s.length < 2 ^ 32 := by
  have short : (s.take (s.length % 2 ^ 32)).length = (UInt32.ofNat s.length).toNat := by
    rw [UInt32.toNat_ofNat', List.length_take]
    exact min_eq_left (Nat.mod_le _ _)
  obtain ⟨_, cut⟩ := take_record (extractBytes_yields (UInt32.ofNat s.length) short) holds
  rw [cut] at read
  exact length_lt_of_take_mod (by decide) (congrArg Prod.fst (Except.ok.inj read))

/-! ## Fields -/

theorem extractU32_truncated : extractU32.Truncated 4 :=
  Advances.checked.truncated (n := 3) fun _ => Advances.checked.truncated (n := 2) fun _ =>
    Advances.checked.truncated (n := 1) fun _ => Truncated.checked.bind _

theorem extractU32_follows : Follows extractU32 [.fixed 4] := by
  refine Follows.fixed extractU32_truncated ?_
  intro rec size
  match rec, size with
  | [b0, b1, b2, b3], _ => exact ⟨_, extractU32_yields b0 b1 b2 b3⟩

theorem extractU64_follows : Follows extractU64 [.fixed 8] := by
  refine Follows.fixed ?_ ?_
  · exact Advances.checked.truncated (n := 7) fun _ => Advances.checked.truncated (n := 6) fun _ =>
      Advances.checked.truncated (n := 5) fun _ => Advances.checked.truncated (n := 4) fun _ =>
        Advances.checked.truncated (n := 3) fun _ => Advances.checked.truncated (n := 2) fun _ =>
          Advances.checked.truncated (n := 1) fun _ => Truncated.checked.bind _
  · intro rec size
    match rec, size with
    | [b0, b1, b2, b3, b4, b5, b6, b7], _ => exact ⟨_, extractU64_yields b0 b1 b2 b3 b4 b5 b6 b7⟩

theorem extractString_follows : Follows extractString [.counted 2] := by
  refine Follows.counted ?_ ?_
  · exact Advances.checked.truncated (n := 1) fun _ => Truncated.checked.bind _
  · intro rec buffer offset size holds
    match rec, size with
    | [b0, b1], _ =>
      have count : bigEndian [b0, b1] = (word16 b0 b1).toNat := by
        rw [word16_toNat]
        simp [bigEndian]
      rw [count]
      have bytes : HoldsAt buffer offset ([b0] ++ [b1]) := holds
      obtain ⟨first, second⟩ := bytes.append
      have read := (Yields.checked b1).then_at (fun b1 => span (word16 b0 b1).toNat) second
      exact ((Yields.checked b0).then_at _ first).trans read

theorem extractBytes_follows : Follows extractBytes [.counted 4] := by
  refine Follows.counted (extractU32_truncated.bind _) ?_
  intro rec buffer offset size holds
  match rec, size with
  | [b0, b1, b2, b3], _ =>
    have count : bigEndian [b0, b1, b2, b3] = (word32 b0 b1 b2 b3).toNat := by
      rw [word32_toNat]
      simp [bigEndian]
      ring
    rw [count]
    exact (extractU32_yields b0 b1 b2 b3).then_at _ holds

end AdaptiveAutosar.PackageManagement
