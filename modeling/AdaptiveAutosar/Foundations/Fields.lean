import Mathlib.Algebra.Group.Nat.Defs
import AdaptiveAutosar.Foundations.Cursor

/-! # Byte strings cut into fields

A field is a fixed number of bytes, or a big-endian count of so many bytes and behind it as many
bytes as it says. `cut` tells what becomes of a byte string that should start with some fields: they
are there, the string ends before a field or its count does, or a count says more than is left.

`Follows m fields`: the decoder `m` reads these fields, the bytes behind a count unchecked.
-/

namespace Foundations
set_option autoImplicit false

inductive Field where
  | fixed (size : ℕ)
  | counted (width : ℕ)
  deriving DecidableEq, Repr

inductive Cut where
  | complete (rest : Bytes)
  | short
  | overrun
  deriving DecidableEq, Repr

/-- The number some bytes are, the most significant first. -/
def bigEndian (bytes : Bytes) : ℕ := bytes.foldl (fun n byte => n * 2 ^ 8 + byte.toNat) 0

namespace Field

def cut : Field → Bytes → Cut
  | fixed size, bytes => if bytes.length < size then .short else .complete (bytes.drop size)
  | counted width, bytes =>
    if bytes.length < width then .short
    else
      let size := width + bigEndian (bytes.take width)
      if bytes.length < size then .overrun else .complete (bytes.drop size)

end Field

def cut : List Field → Bytes → Cut
  | [], bytes => .complete bytes
  | field :: rest, bytes =>
    match field.cut bytes with
    | .complete bytes => cut rest bytes
    | other => other

theorem cut_append (fields rest : List Field) (bytes : Bytes) :
    cut (fields ++ rest) bytes =
      match cut fields bytes with
      | .complete bytes => cut rest bytes
      | other => other := by
  induction fields generalizing bytes with
  | nil => rfl
  | cons field fields ih =>
    simp only [List.cons_append, cut]
    cases field.cut bytes with
    | complete bytes => exact ih bytes
    | short => rfl
    | overrun => rfl

/-! ## Decoders of fields -/

namespace Cursor
variable {α γ : Type}

/-- What a decoder makes of bytes cut in this way. -/
def Reads (buffer : Bytes) (result : Outcome (α × ℕ)) : Cut → Prop
  | .complete rest => ∃ a offset, result = .ok (a, offset) ∧ offset ≤ buffer.length ∧
      buffer.drop offset = rest
  | .short => ThrowsOutOfRange result
  | .overrun => result = .error .undefined

def Follows (m : Cursor UInt8 α) (fields : List Field) : Prop :=
  ∀ buffer offset, offset ≤ buffer.length → Reads buffer (m buffer offset) (cut fields (buffer.drop offset))

theorem Follows.pure (a : α) : Follows (Pure.pure a) [] :=
  fun _ offset h => ⟨a, offset, rfl, h, rfl⟩

theorem Follows.bind {m : Cursor UInt8 α} {f : α → Cursor UInt8 γ} {fields rest : List Field}
    (hm : Follows m fields) (hf : ∀ a, Follows (f a) rest) : Follows (m >>= f) (fields ++ rest) := by
  intro buffer offset inside
  have first := hm buffer offset inside
  rw [cut_append]
  cases h : cut fields (buffer.drop offset) with
  | complete left =>
    rw [h] at first
    obtain ⟨a, offset', read, inside', rfl⟩ := first
    rw [bind_apply_ok read]
    exact hf a buffer offset' inside'
  | short =>
    rw [h] at first
    obtain ⟨what, thrown⟩ := first
    exact ⟨what, bind_apply_error thrown⟩
  | overrun =>
    rw [h] at first
    exact bind_apply_error first

/-- A decoder that consumes as many checked elements as the field has. -/
theorem Follows.fixed {m : Cursor UInt8 α} {size : ℕ} (truncated : Truncated m size)
    (returns : ∀ rec : Bytes, rec.length = size → ∃ a, Yields m rec (.ok a)) :
    Follows m [.fixed size] := by
  intro buffer offset inside
  have left := List.length_drop (i := offset) (l := buffer)
  by_cases h : (buffer.drop offset).length < size
  · simp only [cut, Field.cut, if_pos h]
    exact truncated buffer offset (by omega)
  · simp only [cut, Field.cut, if_neg h]
    obtain ⟨rec, holds, hrec⟩ := exists_record (show offset + size ≤ buffer.length by omega)
    obtain ⟨a, yields⟩ := returns rec hrec
    refine ⟨a, offset + rec.length, yields.at holds, by omega, ?_⟩
    rw [List.drop_drop, hrec]

/-- A decoder that reads a count in `width` checked elements and takes so many unchecked ones. -/
theorem Follows.counted {m : Cursor UInt8 Bytes} {width : ℕ} (truncated : Truncated m width)
    (counts : ∀ (rec buffer : Bytes) (offset : ℕ), rec.length = width → HoldsAt buffer offset rec →
      m buffer offset = span (bigEndian rec) buffer (offset + width)) :
    Follows m [.counted width] := by
  intro buffer offset inside
  have left := List.length_drop (i := offset) (l := buffer)
  by_cases h : (buffer.drop offset).length < width
  · simp only [cut, Field.cut, if_pos h]
    exact truncated buffer offset (by omega)
  · have prefixed : HoldsAt buffer offset ((buffer.drop offset).take width) :=
      ⟨buffer.take offset, (buffer.drop offset).drop width, by
        rw [List.append_assoc, List.take_append_drop, List.take_append_drop],
        by rw [List.length_take]; omega⟩
    have taken : ((buffer.drop offset).take width).length = width := by
      rw [List.length_take]
      omega
    simp only [cut, Field.cut, if_neg h]
    rw [counts _ buffer offset taken prefixed]
    generalize bigEndian ((buffer.drop offset).take width) = count
    unfold span
    by_cases fits : offset + width + count ≤ buffer.length
    · rw [if_pos fits, if_neg (show ¬ (buffer.drop offset).length < width + count by omega)]
      refine ⟨_, _, rfl, fits, ?_⟩
      rw [List.drop_drop, Nat.add_assoc]
    · rw [if_neg fits, if_pos (show (buffer.drop offset).length < width + count by omega)]
      rfl

end Cursor
end Foundations
