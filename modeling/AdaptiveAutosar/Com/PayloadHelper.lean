import AdaptiveAutosar.Foundations.BigEndian
import AdaptiveAutosar.Foundations.Cursor

/-! # Byte vectors of the communication classes

`ara::com::helper`: injecting integers into a byte vector and extracting them at an offset, and the
IPv4 address with its own injection and extraction.
-/

namespace AdaptiveAutosar.Com
open Foundations Foundations.BigEndian
set_option autoImplicit false

/-! ## Integers -/

/-- `Inject(vector, uint16_t)`. -/
def injectShort (vector : Bytes) (value : UInt16) : Bytes := vector ++ bytes16 value

/-- `Inject(vector, uint32_t)`. -/
def injectInteger (vector : Bytes) (value : UInt32) : Bytes := vector ++ bytes32 value

def extractShort : Cursor UInt8 UInt16 := do
  let b0 ← Cursor.checked
  let b1 ← Cursor.checked
  pure (word16 b0 b1)

def extractInteger : Cursor UInt8 UInt32 := do
  let b0 ← Cursor.checked
  let b1 ← Cursor.checked
  let b2 ← Cursor.checked
  let b3 ← Cursor.checked
  pure (word32 b0 b1 b2 b3)

theorem extractShort_yields (b0 b1 : UInt8) :
    extractShort.Yields [b0, b1] (.ok (word16 b0 b1)) :=
  (Cursor.Yields.checked b0).bind ((Cursor.Yields.checked b1).bind (Cursor.Yields.pure _))

theorem extractInteger_yields (b0 b1 b2 b3 : UInt8) :
    extractInteger.Yields [b0, b1, b2, b3] (.ok (word32 b0 b1 b2 b3)) :=
  (Cursor.Yields.checked b0).bind ((Cursor.Yields.checked b1).bind
    ((Cursor.Yields.checked b2).bind ((Cursor.Yields.checked b3).bind (Cursor.Yields.pure _))))

theorem extractInteger_bytes32 (v : UInt32) : extractInteger.Yields (bytes32 v) (.ok v) := by
  have h := extractInteger_yields (v >>> 24).toUInt8 (v >>> 16).toUInt8 (v >>> 8).toUInt8 v.toUInt8
  rw [word32_bytes32] at h
  exact h

theorem extractShort_advances : extractShort.Advances 2 :=
  Cursor.Advances.checked.bind fun _ => Cursor.Advances.checked.bind fun _ => Cursor.Advances.pure _

theorem extractInteger_advances : extractInteger.Advances 4 :=
  Cursor.Advances.checked.bind fun _ => Cursor.Advances.checked.bind fun _ =>
    Cursor.Advances.checked.bind fun _ => Cursor.Advances.checked.bind fun _ => Cursor.Advances.pure _

theorem extractShort_truncated : extractShort.Truncated 2 :=
  Cursor.Advances.checked.truncated fun _ => Cursor.Truncated.checked.bind _

/-- A byte vector with four bytes at its front begins with an integer. -/
theorem exists_integer {vector : Bytes} (h : 4 ≤ vector.length) :
    ∃ word rest, vector = bytes32 word ++ rest := by
  obtain ⟨rec, holds, length⟩ := Cursor.exists_record (by omega : 0 + 4 ≤ vector.length)
  match rec, length with
  | [b0, b1, b2, b3], _ =>
    obtain ⟨rest, split⟩ := holds.exists_front
    exact ⟨word32 b0 b1 b2 b3, rest, by rw [bytes32_word32, split]⟩

theorem extractInteger_truncated : extractInteger.Truncated 4 :=
  Cursor.Advances.checked.truncated (n := 3) fun _ => Cursor.Advances.checked.truncated (n := 2) fun _ =>
    Cursor.Advances.checked.truncated (n := 1) fun _ => Cursor.Truncated.checked.bind _

/-! ## IPv4 addresses -/

structure Ipv4Address where
  octet0 : UInt8
  octet1 : UInt8
  octet2 : UInt8
  octet3 : UInt8
  deriving DecidableEq, Repr

namespace Ipv4Address

def octets (ipAddress : Ipv4Address) : Bytes :=
  [ipAddress.octet0, ipAddress.octet1, ipAddress.octet2, ipAddress.octet3]

def inject (vector : Bytes) (ipAddress : Ipv4Address) : Bytes := vector ++ ipAddress.octets

def extract : Cursor UInt8 Ipv4Address := do
  let octet0 ← Cursor.checked
  let octet1 ← Cursor.checked
  let octet2 ← Cursor.checked
  let octet3 ← Cursor.checked
  pure ⟨octet0, octet1, octet2, octet3⟩

theorem extract_yields (b0 b1 b2 b3 : UInt8) :
    extract.Yields [b0, b1, b2, b3] (.ok ⟨b0, b1, b2, b3⟩) :=
  (Cursor.Yields.checked b0).bind ((Cursor.Yields.checked b1).bind
    ((Cursor.Yields.checked b2).bind ((Cursor.Yields.checked b3).bind (Cursor.Yields.pure _))))

theorem extract_advances : extract.Advances 4 :=
  Cursor.Advances.checked.bind fun _ => Cursor.Advances.checked.bind fun _ =>
    Cursor.Advances.checked.bind fun _ => Cursor.Advances.checked.bind fun _ => Cursor.Advances.pure _

end Ipv4Address

end AdaptiveAutosar.Com
