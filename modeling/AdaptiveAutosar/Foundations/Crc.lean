import Mathlib.Data.List.Basic
import Mathlib.Data.List.Range
import Mathlib.Logic.Function.Iterate
import Mathlib.Data.BitVec

/-! # Cyclic redundancy checks

A shift register of `w` bits divides the bits fed to it, the most significant first, by a polynomial
of degree `w`; `poly` holds the coefficients below the leading one. Feeding a whole word is `w` shifts
of the register with the word added to it, which is what a table of the `2 ^ w` words looks up. With a
constant term in the polynomial the register cannot forget: two windows of at most `w` bits leave
different registers behind, and whatever is fed afterwards keeps them apart.
-/

namespace Foundations.Crc
set_option autoImplicit false

variable {w : ℕ}

def step (poly register : BitVec w) (bit : Bool) : BitVec w :=
  if register.msb ^^ bit then (register <<< 1) ^^^ poly else register <<< 1

def feed (poly register : BitVec w) (bits : List Bool) : BitVec w := bits.foldl (step poly) register

/-- A step that is fed nothing. -/
def shift (poly register : BitVec w) : BitVec w := step poly register false

def crc (poly initial final : BitVec w) (bits : List Bool) : BitVec w := feed poly initial bits ^^^ final

/-- The first bits of a word, the most significant first. -/
def leading (word : BitVec w) (count : ℕ) : List Bool := (List.range count).map word.getMsbD

def bits (word : BitVec w) : List Bool := leading word w

/-- The word that starts with `window`. -/
def word (window : List Bool) : BitVec w :=
  (BitVec.ofBoolListBE window).setWidth w <<< (w - window.length)

@[simp] theorem leading_length (v : BitVec w) (count : ℕ) : (leading v count).length = count := by
  rw [leading, List.length_map, List.length_range]

@[simp] theorem bits_length (v : BitVec w) : (bits v).length = w := leading_length v w

theorem length_flatMap_bits (words : List (BitVec w)) : (words.flatMap bits).length = words.length * w := by
  induction words with
  | nil => exact (Nat.zero_mul w).symm
  | cons v rest ih =>
    rw [List.flatMap_cons, List.length_append, ih, bits_length, List.length_cons, Nat.succ_mul, Nat.add_comm]

theorem bits_injective : Function.Injective (bits (w := w)) := by
  intro v v' same
  refine BitVec.eq_of_getMsbD_eq fun i inside => ?_
  have here := congrArg (·[i]?) same
  simpa [bits, leading, inside] using here

theorem feed_append (poly register : BitVec w) (before after : List Bool) :
    feed poly register (before ++ after) = feed poly (feed poly register before) after :=
  List.foldl_append

/-! ## A word at a time -/

/-- What is fed to the register may be added to it beforehand. -/
theorem step_msb (poly register v : BitVec w) :
    step poly register v.msb ^^^ v <<< 1 = shift poly (register ^^^ v) := by
  unfold shift step
  rw [BitVec.msb_xor, Bool.xor_false, BitVec.shiftLeft_xor_distrib]
  cases register.msb ^^ v.msb with
  | false => rfl
  | true =>
    show register <<< 1 ^^^ poly ^^^ v <<< 1 = register <<< 1 ^^^ v <<< 1 ^^^ poly
    rw [BitVec.xor_assoc, BitVec.xor_comm poly, ← BitVec.xor_assoc]

theorem step_xor (poly register rest : BitVec w) (bit : Bool) (top : rest.msb = bit) :
    step poly register bit ^^^ rest <<< 1 = shift poly (register ^^^ rest) := by
  rw [← top, step_msb]

theorem msb_shiftLeft (v : BitVec w) (count : ℕ) : (v <<< count).msb = v.getMsbD count := by
  rw [BitVec.msb_eq_getMsbD_zero, BitVec.getMsbD_shiftLeft, Nat.zero_add]

/-- After the first bits of a word the rest of it is still to be added. -/
theorem feed_leading (poly register v : BitVec w) (count : ℕ) :
    feed poly register (leading v count) ^^^ v <<< count = (shift poly)^[count] (register ^^^ v) := by
  induction count with
  | zero => simp [leading, feed]
  | succ count ih =>
    have snoc : leading v (count + 1) = leading v count ++ [v.getMsbD count] := by
      rw [leading, List.range_succ, List.map_append]
      rfl
    rw [snoc, feed_append, BitVec.shiftLeft_add, Function.iterate_succ_apply', ← ih]
    exact step_xor poly _ _ _ (msb_shiftLeft v count)

theorem feed_bits (poly register v : BitVec w) :
    feed poly register (bits v) = (shift poly)^[w] (register ^^^ v) := by
  rw [← feed_leading, BitVec.shiftLeft_eq_zero (Nat.le_refl w), BitVec.xor_zero]
  rfl

theorem feed_words (poly register : BitVec w) (words : List (BitVec w)) :
    feed poly register (words.flatMap bits) =
      words.foldl (fun register v => (shift poly)^[w] (register ^^^ v)) register := by
  induction words generalizing register with
  | nil => rfl
  | cons v rest ih => rw [List.flatMap_cons, feed_append, feed_bits, ih, List.foldl_cons]

/-! ## What the register remembers -/

/-- The lowest bit after a step tells whether the polynomial was added. -/
theorem getLsbD_step {poly : BitVec w} (odd : poly.getLsbD 0 = true) (register : BitVec w) (bit : Bool) :
    (step poly register bit).getLsbD 0 = (register.msb ^^ bit) := by
  unfold step
  cases register.msb ^^ bit <;> simp [odd]

theorem eq_of_shiftLeft_one {x y : BitVec w} (top : x.msb = y.msb) (rest : x <<< 1 = y <<< 1) : x = y := by
  refine BitVec.eq_of_getMsbD_eq fun i inside => ?_
  cases i with
  | zero => rwa [← BitVec.msb_eq_getMsbD_zero, ← BitVec.msb_eq_getMsbD_zero]
  | succ i =>
    have here := congrArg (·.getMsbD i) rest
    simpa [BitVec.getMsbD_shiftLeft] using here

theorem step_injective {poly : BitVec w} (odd : poly.getLsbD 0 = true) (bit : Bool) :
    Function.Injective fun register => step poly register bit := by
  intro x y same
  replace same : step poly x bit = step poly y bit := same
  have tops : (x.msb ^^ bit) = (y.msb ^^ bit) := by
    rw [← getLsbD_step odd, ← getLsbD_step odd, same]
  refine eq_of_shiftLeft_one (Bool.xor_left_inj.mp tops) ?_
  unfold step at same
  rw [tops] at same
  cases there : y.msb ^^ bit with
  | false => simpa [there] using same
  | true => simpa [there] using same

theorem feed_injective {poly : BitVec w} (odd : poly.getLsbD 0 = true) (window : List Bool) :
    Function.Injective fun register => feed poly register window := by
  induction window with
  | nil => exact Function.injective_id
  | cons bit rest ih => exact ih.comp (step_injective odd bit)

theorem getMsbD_word {window : List Bool} (fits : window.length ≤ w) (i : ℕ) :
    (word window : BitVec w).getMsbD i = window.getD i false := by
  rw [word, BitVec.getMsbD_shiftLeft, BitVec.getMsbD_setWidth, BitVec.getMsbD_ofBoolListBE]
  rw [show i + (w - window.length) + window.length - w = i by omega]
  have inside : w - window.length ≤ i + (w - window.length) := Nat.le_add_left _ _
  simp [inside]

theorem leading_word {window : List Bool} (fits : window.length ≤ w) :
    leading (word window : BitVec w) window.length = window := by
  refine List.ext_getElem (leading_length _ _) fun i _ inside => ?_
  simp [leading, getMsbD_word fits, inside]

theorem word_shiftLeft {window : List Bool} (fits : window.length ≤ w) :
    (word window : BitVec w) <<< window.length = 0 := by
  refine BitVec.eq_of_getMsbD_eq fun i _ => ?_
  simp [getMsbD_word fits]

/-- A window no longer than the register is one word added to it. -/
theorem feed_window (poly register : BitVec w) {window : List Bool} (fits : window.length ≤ w) :
    feed poly register window = (shift poly)^[window.length] (register ^^^ word window) := by
  rw [← feed_leading, leading_word fits, word_shiftLeft fits]
  exact (BitVec.xor_zero).symm

theorem window_injective {poly : BitVec w} (odd : poly.getLsbD 0 = true) (register : BitVec w)
    {window window' : List Bool} (length_eq : window.length = window'.length) (fits : window.length ≤ w)
    (same : feed poly register window = feed poly register window') : window = window' := by
  have fits' : window'.length ≤ w := length_eq ▸ fits
  rw [feed_window poly register fits, feed_window poly register fits', ← length_eq] at same
  have words : (word window : BitVec w) = word window' := by
    have added := (step_injective odd false).iterate window.length same
    exact (BitVec.xor_right_inj register).mp added
  rw [← leading_word fits, words, length_eq, leading_word fits']

/-! ## Bursts -/

/-- `after` is `before` with an error in it that spans at most `span` bits. -/
structure Burst (span : ℕ) (before after : List Bool) : Prop where
  differ : before ≠ after
  window : ∃ front sent received back, before = front ++ sent ++ back ∧ after = front ++ received ++ back ∧
    sent.length = received.length ∧ sent.length ≤ span

/-- No burst that fits into the register goes unnoticed. -/
theorem Burst.crc_ne {poly : BitVec w} (odd : poly.getLsbD 0 = true) {before after : List Bool}
    (burst : Burst w before after) (initial final : BitVec w) :
    crc poly initial final before ≠ crc poly initial final after := by
  obtain ⟨differ, front, sent, received, back, rfl, rfl, length_eq, fits⟩ := burst
  intro same
  have registers := (BitVec.xor_left_inj final).mp same
  rw [feed_append, feed_append _ _ (front ++ received), feed_append, feed_append] at registers
  have windows := window_injective odd _ length_eq fits (feed_injective odd back registers)
  exact differ (by rw [windows])

theorem burst_of_word {v v' : BitVec w} (differ : v ≠ v') (front back : List (BitVec w)) :
    Burst w ((front ++ v :: back).flatMap bits) ((front ++ v' :: back).flatMap bits) := by
  have split (u : BitVec w) : (front ++ u :: back).flatMap bits =
      front.flatMap bits ++ bits u ++ back.flatMap bits := by
    rw [List.flatMap_append, List.flatMap_cons, List.append_assoc]
  have lengths : (bits v).length = (bits v').length := by rw [bits_length, bits_length]
  refine ⟨?_, front.flatMap bits, bits v, bits v', back.flatMap bits, split v, split v', lengths, ?_⟩
  · intro same
    rw [split, split] at same
    exact differ (bits_injective (List.append_cancel_left (List.append_cancel_right same)))
  · exact (bits_length v).le

/-- A word replaced by another is a burst as long as a word. -/
theorem burst_of_set {words : List (BitVec w)} {index : ℕ} (inside : index < words.length) {v : BitVec w}
    (differ : words[index] ≠ v) : Burst w (words.flatMap bits) ((words.set index v).flatMap bits) := by
  have before : words = words.take index ++ words[index] :: words.drop (index + 1) := by
    rw [← List.drop_eq_getElem_cons inside, List.take_append_drop]
  have after : words.set index v = words.take index ++ v :: words.drop (index + 1) := by
    rw [List.set_eq_take_append_cons_drop, if_pos inside]
  have burst := burst_of_word differ (words.take index) (words.drop (index + 1))
  rwa [← before, ← after] at burst

end Foundations.Crc
