import Mathlib.Data.List.Basic
import AdaptiveAutosar.Foundations.Cursor

/-! # A block of memory

`std::array<uint8_t, size>` with the ranges that are copied out of it and into it. A range that is not
inside the block is undefined.
-/

namespace Foundations
set_option autoImplicit false

structure Block (size : ℕ) where
  bytes : Bytes
  length_eq : bytes.length = size
  deriving DecidableEq, Repr

namespace Block
variable {size : ℕ}

def load (block : Block size) (address length : ℕ) : Outcome Bytes :=
  if address + length ≤ size then .ok ((block.bytes.drop address).take length) else .error .undefined

def store (block : Block size) (address : ℕ) (content : Bytes) : Outcome (Block size) :=
  if fits : address + content.length ≤ size then
    .ok
      { bytes := block.bytes.take address ++ content ++ block.bytes.drop (address + content.length)
        length_eq := by
          rw [List.length_append, List.length_append, List.length_take, List.length_drop, block.length_eq]
          omega }
  else .error .undefined

/-- `after` is `before` with `content` from `address` on. -/
structure Holds (after before : Block size) (address : ℕ) (content : Bytes) : Prop where
  inside : ∀ i < content.length, after.bytes[address + i]? = content[i]?
  outside : ∀ i, (i < address ∨ address + content.length ≤ i) → after.bytes[i]? = before.bytes[i]?

variable {block after : Block size} {address : ℕ} {content : Bytes}

theorem load_undefined {length : ℕ} (beyond : ¬ address + length ≤ size) (block : Block size) :
    block.load address length = .error .undefined := if_neg beyond

theorem load_ok {length : ℕ} (fits : address + length ≤ size) (block : Block size) :
    block.load address length = .ok ((block.bytes.drop address).take length) := if_pos fits

theorem store_undefined (beyond : ¬ address + content.length ≤ size) (block : Block size) :
    block.store address content = .error .undefined := dif_neg beyond

theorem store_ok (fits : address + content.length ≤ size) (block : Block size) :
    ∃ after, block.store address content = .ok after ∧ after.Holds block address content := by
  have start : (block.bytes.take address).length = address := by
    rw [List.length_take, block.length_eq]
    omega
  refine ⟨_, dif_pos fits, ?_, ?_⟩
  · intro i inside
    show (block.bytes.take address ++ content ++ _)[address + i]? = content[i]?
    rw [List.append_assoc, List.getElem?_append_right (by omega), start, Nat.add_sub_cancel_left,
      List.getElem?_append_left inside]
  · intro i outside
    show (block.bytes.take address ++ content ++ _)[i]? = block.bytes[i]?
    rcases outside with before | behind
    · rw [List.append_assoc, List.getElem?_append_left (by omega), List.getElem?_take_of_lt before]
    · rw [List.getElem?_append_right (by rw [List.length_append]; omega), List.length_append, start,
        List.getElem?_drop]
      congr 1
      omega

/-- What was stored is loaded. -/
theorem Holds.load (holds : after.Holds block address content) (fits : address + content.length ≤ size) :
    after.load address content.length = .ok content := by
  rw [load_ok fits]
  congr 1
  apply List.ext_getElem?
  intro i
  by_cases inside : i < content.length
  · rw [List.getElem?_take_of_lt inside, List.getElem?_drop, holds.inside i inside]
  · rw [List.getElem?_eq_none (by rw [List.length_take]; omega), List.getElem?_eq_none (by omega)]

/-- Of two ranges stored at one place the later one is left. -/
theorem Holds.again {first : Block size} {older : Bytes} (holds : first.Holds block address older)
    (later : after.Holds first address content) (same : older.length = content.length) :
    after.Holds block address content where
  inside := later.inside
  outside := by
    intro i outside
    rw [later.outside i outside]
    rw [← same] at outside
    exact holds.outside i outside

end Block
end Foundations
