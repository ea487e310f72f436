import Mathlib.Data.Nat.Bitwise
import Mathlib.Tactic.Ring

/-! # Big-endian words

The byte order of every length and identifier field on the wire. A word is cut into bytes with
shifts and put together again with shifts and `|||`; both directions are also given on `ℕ`, which
is how lengths are compared with the size of a buffer.
-/

namespace Foundations.BigEndian
set_option autoImplicit false

/-- The two bytes of a short, most significant first. -/
def bytes16 (v : UInt16) : List UInt8 := [(v >>> 8).toUInt8, v.toUInt8]

/-- The four bytes of an integer, most significant first. -/
def bytes32 (v : UInt32) : List UInt8 :=
  [(v >>> 24).toUInt8, (v >>> 16).toUInt8, (v >>> 8).toUInt8, v.toUInt8]

/-- The eight bytes of a long integer, most significant first. -/
def bytes64 (v : UInt64) : List UInt8 :=
  [(v >>> 56).toUInt8, (v >>> 48).toUInt8, (v >>> 40).toUInt8, (v >>> 32).toUInt8,
    (v >>> 24).toUInt8, (v >>> 16).toUInt8, (v >>> 8).toUInt8, v.toUInt8]

def word16 (b0 b1 : UInt8) : UInt16 := (b0.toUInt16 <<< 8) ||| b1.toUInt16

def word32 (b0 b1 b2 b3 : UInt8) : UInt32 :=
  (((b0.toUInt32 <<< 24) ||| (b1.toUInt32 <<< 16)) ||| (b2.toUInt32 <<< 8)) ||| b3.toUInt32

def word64 (b0 b1 b2 b3 b4 b5 b6 b7 : UInt8) : UInt64 :=
  (((((((b0.toUInt64 <<< 56) ||| (b1.toUInt64 <<< 48)) ||| (b2.toUInt64 <<< 40)) |||
    (b3.toUInt64 <<< 32)) ||| (b4.toUInt64 <<< 24)) ||| (b5.toUInt64 <<< 16)) |||
    (b6.toUInt64 <<< 8)) ||| b7.toUInt64

@[simp] theorem bytes32_length (v : UInt32) : (bytes32 v).length = 4 := rfl

@[simp] theorem bytes64_length (v : UInt64) : (bytes64 v).length = 8 := rfl

/-! ## Words as numbers -/

/-- Disjoint bit ranges: below a multiple of `2 ^ i`, `|||` is addition. -/
theorem mul_lor_of_lt (a b i : ℕ) (hb : b < 2 ^ i) : a * 2 ^ i ||| b = a * 2 ^ i + b := by
  rw [Nat.mul_comm]
  exact (Nat.two_pow_add_eq_or_of_lt hb a).symm

theorem word16_toNat (b0 b1 : UInt8) : (word16 b0 b1).toNat = b0.toNat * 2 ^ 8 + b1.toNat := by
  have h0 := b0.toNat_lt
  have h1 := b1.toNat_lt
  have hs : (b0.toNat * 2 ^ 8) % 2 ^ 16 = b0.toNat * 2 ^ 8 := Nat.mod_eq_of_lt (by omega)
  simp only [word16, UInt16.toNat_or, UInt16.toNat_shiftLeft, UInt8.toNat_toUInt16,
    UInt16.reduceToNat, Nat.reduceMod, Nat.shiftLeft_eq, hs]
  exact mul_lor_of_lt _ _ 8 (by omega)

theorem word32_toNat (b0 b1 b2 b3 : UInt8) :
    (word32 b0 b1 b2 b3).toNat =
      b0.toNat * 2 ^ 24 + b1.toNat * 2 ^ 16 + b2.toNat * 2 ^ 8 + b3.toNat := by
  have h0 := b0.toNat_lt
  have h1 := b1.toNat_lt
  have h2 := b2.toNat_lt
  have h3 := b3.toNat_lt
  have s0 : (b0.toNat * 2 ^ 24) % 2 ^ 32 = b0.toNat * 2 ^ 24 := Nat.mod_eq_of_lt (by omega)
  have s1 : (b1.toNat * 2 ^ 16) % 2 ^ 32 = b1.toNat * 2 ^ 16 := Nat.mod_eq_of_lt (by omega)
  have s2 : (b2.toNat * 2 ^ 8) % 2 ^ 32 = b2.toNat * 2 ^ 8 := Nat.mod_eq_of_lt (by omega)
  simp only [word32, UInt32.toNat_or, UInt32.toNat_shiftLeft, UInt8.toNat_toUInt32,
    UInt32.reduceToNat, Nat.reduceMod, Nat.shiftLeft_eq, s0, s1, s2]
  rw [mul_lor_of_lt _ _ 24 (by omega)]
  have e1 : b0.toNat * 2 ^ 24 + b1.toNat * 2 ^ 16 = (b0.toNat * 2 ^ 8 + b1.toNat) * 2 ^ 16 := by ring
  rw [e1, mul_lor_of_lt _ _ 16 (by omega)]
  have e2 : (b0.toNat * 2 ^ 8 + b1.toNat) * 2 ^ 16 + b2.toNat * 2 ^ 8 =
      (b0.toNat * 2 ^ 16 + b1.toNat * 2 ^ 8 + b2.toNat) * 2 ^ 8 := by ring
  rw [e2, mul_lor_of_lt _ _ 8 (by omega)]

/-- One more byte below a word of which only the upper bits are set. -/
theorem lor_shifted_byte (a : ℕ) (b : UInt8) (i : ℕ) :
    a * 2 ^ (i + 8) ||| b.toNat * 2 ^ i = (a * 2 ^ 8 + b.toNat) * 2 ^ i := by
  have hb := b.toNat_lt
  have hlt : b.toNat * 2 ^ i < 2 ^ (i + 8) := by
    rw [Nat.pow_add, Nat.mul_comm (2 ^ i)]
    exact Nat.mul_lt_mul_of_pos_right hb (Nat.two_pow_pos i)
  rw [mul_lor_of_lt _ _ (i + 8) hlt, Nat.pow_add, Nat.add_mul, Nat.mul_assoc,
    Nat.mul_comm (2 ^ i)]

theorem word64_toNat (b0 b1 b2 b3 b4 b5 b6 b7 : UInt8) :
    (word64 b0 b1 b2 b3 b4 b5 b6 b7).toNat =
      ((((((b0.toNat * 2 ^ 8 + b1.toNat) * 2 ^ 8 + b2.toNat) * 2 ^ 8 + b3.toNat) * 2 ^ 8 +
        b4.toNat) * 2 ^ 8 + b5.toNat) * 2 ^ 8 + b6.toNat) * 2 ^ 8 + b7.toNat := by
  have shifted (b : UInt8) (i : ℕ) (h : i ≤ 56) : b.toNat * 2 ^ i % 2 ^ 64 = b.toNat * 2 ^ i := by
    have hb := b.toNat_lt
    have hpow : 2 ^ i ≤ 2 ^ 56 := Nat.pow_le_pow_right (by decide) h
    apply Nat.mod_eq_of_lt
    calc b.toNat * 2 ^ i ≤ b.toNat * 2 ^ 56 := Nat.mul_le_mul_left _ hpow
      _ < 2 ^ 8 * 2 ^ 56 := Nat.mul_lt_mul_of_pos_right hb (by decide)
      _ = 2 ^ 64 := by norm_num
  simp only [word64, UInt64.toNat_or, UInt64.toNat_shiftLeft, UInt8.toNat_toUInt64,
    UInt64.reduceToNat, Nat.reduceMod, Nat.shiftLeft_eq]
  rw [shifted b0 56 (by decide), shifted b1 48 (by decide), shifted b2 40 (by decide),
    shifted b3 32 (by decide), shifted b4 24 (by decide), shifted b5 16 (by decide),
    shifted b6 8 (by decide)]
  rw [lor_shifted_byte _ b1 48, lor_shifted_byte _ b2 40, lor_shifted_byte _ b3 32,
    lor_shifted_byte _ b4 24, lor_shifted_byte _ b5 16, lor_shifted_byte _ b6 8]
  exact mul_lor_of_lt _ _ 8 b7.toNat_lt

/-! ## Round trips -/

theorem word64_bytes64 (v : UInt64) :
    word64 (v >>> 56).toUInt8 (v >>> 48).toUInt8 (v >>> 40).toUInt8 (v >>> 32).toUInt8
      (v >>> 24).toUInt8 (v >>> 16).toUInt8 (v >>> 8).toUInt8 v.toUInt8 = v := by
  have hv := v.toNat_lt
  apply UInt64.toNat_inj.mp
  rw [word64_toNat]
  simp only [UInt64.toNat_toUInt8, UInt64.toNat_shiftRight, UInt64.reduceToNat, Nat.reduceMod,
    Nat.shiftRight_eq_div_pow]
  omega

theorem word16_bytes16 (v : UInt16) : word16 (v >>> 8).toUInt8 v.toUInt8 = v := by
  have hv := v.toNat_lt
  apply UInt16.toNat_inj.mp
  rw [word16_toNat]
  simp only [UInt16.toNat_toUInt8, UInt16.toNat_shiftRight, UInt16.reduceToNat, Nat.reduceMod,
    Nat.shiftRight_eq_div_pow]
  omega

theorem word32_bytes32 (v : UInt32) :
    word32 (v >>> 24).toUInt8 (v >>> 16).toUInt8 (v >>> 8).toUInt8 v.toUInt8 = v := by
  have hv := v.toNat_lt
  apply UInt32.toNat_inj.mp
  rw [word32_toNat]
  simp only [UInt32.toNat_toUInt8, UInt32.toNat_shiftRight, UInt32.reduceToNat, Nat.reduceMod,
    Nat.shiftRight_eq_div_pow]
  omega

theorem bytes32_word32 (b0 b1 b2 b3 : UInt8) : bytes32 (word32 b0 b1 b2 b3) = [b0, b1, b2, b3] := by
  have h0 := b0.toNat_lt
  have h1 := b1.toNat_lt
  have h2 := b2.toNat_lt
  have h3 := b3.toNat_lt
  have hw := word32_toNat b0 b1 b2 b3
  simp only [bytes32, List.cons.injEq, and_true]
  refine ⟨?_, ?_, ?_, ?_⟩
  all_goals
    apply UInt8.toNat_inj.mp
    simp only [UInt32.toNat_toUInt8, UInt32.toNat_shiftRight, UInt32.reduceToNat, Nat.reduceMod,
      Nat.shiftRight_eq_div_pow, hw]
    omega

theorem bytes32_injective {v w : UInt32} (h : bytes32 v = bytes32 w) : v = w := by
  have hv := word32_bytes32 v
  have hw := word32_bytes32 w
  simp only [bytes32, List.cons.injEq, and_true] at h
  rw [h.1, h.2.1, h.2.2.1, h.2.2.2, hw] at hv
  exact hv.symm

/-- A byte above a 24-bit field: shifting right gives the byte back. -/
theorem packed24_high (hi : UInt8) (lo : UInt32) (h : lo.toNat < 2 ^ 24) :
    (((hi.toUInt32 <<< 24) ||| lo) >>> 24).toUInt8 = hi := by
  have h0 := hi.toNat_lt
  have s0 : (hi.toNat * 2 ^ 24) % 2 ^ 32 = hi.toNat * 2 ^ 24 := Nat.mod_eq_of_lt (by omega)
  apply UInt8.toNat_inj.mp
  simp only [UInt32.toNat_toUInt8, UInt32.toNat_shiftRight, UInt32.toNat_or, UInt32.toNat_shiftLeft,
    UInt8.toNat_toUInt32, UInt32.reduceToNat, Nat.reduceMod, Nat.shiftLeft_eq, s0,
    Nat.shiftRight_eq_div_pow]
  rw [mul_lor_of_lt _ _ 24 h]
  omega

/-- A byte above a 24-bit field: masking gives the field back. -/
theorem packed24_low (hi : UInt8) (lo : UInt32) (h : lo.toNat < 2 ^ 24) :
    ((hi.toUInt32 <<< 24) ||| lo) &&& 0x00ffffff = lo := by
  have h0 := hi.toNat_lt
  have s0 : (hi.toNat * 2 ^ 24) % 2 ^ 32 = hi.toNat * 2 ^ 24 := Nat.mod_eq_of_lt (by omega)
  apply UInt32.toNat_inj.mp
  simp only [UInt32.toNat_and, UInt32.toNat_or, UInt32.toNat_shiftLeft, UInt8.toNat_toUInt32,
    UInt32.reduceToNat, Nat.reduceMod, Nat.shiftLeft_eq, s0]
  rw [mul_lor_of_lt _ _ 24 h]
  have e := Nat.and_two_pow_sub_one_eq_mod (hi.toNat * 2 ^ 24 + lo.toNat) 24
  norm_num at e ⊢
  rw [e]
  omega

/-- The upper half of two shorts packed into an integer. -/
theorem packed16_high (hi lo : UInt16) :
    word16 ((hi.toUInt32 <<< 16 ||| lo.toUInt32) >>> 24).toUInt8
      ((hi.toUInt32 <<< 16 ||| lo.toUInt32) >>> 16).toUInt8 = hi := by
  have h0 := hi.toNat_lt
  have h1 := lo.toNat_lt
  have hs : (hi.toNat * 2 ^ 16) % 2 ^ 32 = hi.toNat * 2 ^ 16 := Nat.mod_eq_of_lt (by omega)
  apply UInt16.toNat_inj.mp
  rw [word16_toNat]
  simp only [UInt32.toNat_toUInt8, UInt32.toNat_shiftRight, UInt32.toNat_or, UInt32.toNat_shiftLeft,
    UInt16.toNat_toUInt32, UInt32.reduceToNat, Nat.reduceMod, Nat.shiftLeft_eq, hs,
    Nat.shiftRight_eq_div_pow]
  rw [mul_lor_of_lt _ _ 16 (by omega)]
  omega

/-- Two nibbles in a byte: the high one. -/
theorem nibbles_high (hi lo : UInt8) (hh : hi.toNat < 16) (hl : lo.toNat < 16) :
    ((hi <<< 4) ||| lo) >>> 4 = hi := by
  have s0 : (hi.toNat * 2 ^ 4) % 2 ^ 8 = hi.toNat * 2 ^ 4 := Nat.mod_eq_of_lt (by omega)
  apply UInt8.toNat_inj.mp
  simp only [UInt8.toNat_shiftRight, UInt8.toNat_or, UInt8.toNat_shiftLeft, UInt8.reduceToNat,
    Nat.reduceMod, Nat.shiftLeft_eq, s0, Nat.shiftRight_eq_div_pow]
  rw [mul_lor_of_lt _ _ 4 hl]
  omega

/-- Two nibbles in a byte: the low one. -/
theorem nibbles_low (hi lo : UInt8) (hh : hi.toNat < 16) (hl : lo.toNat < 16) :
    ((hi <<< 4) ||| lo) &&& 0x0f = lo := by
  have s0 : (hi.toNat * 2 ^ 4) % 2 ^ 8 = hi.toNat * 2 ^ 4 := Nat.mod_eq_of_lt (by omega)
  apply UInt8.toNat_inj.mp
  simp only [UInt8.toNat_and, UInt8.toNat_or, UInt8.toNat_shiftLeft, UInt8.reduceToNat,
    Nat.reduceMod, Nat.shiftLeft_eq, s0]
  rw [mul_lor_of_lt _ _ 4 hl]
  have e := Nat.and_two_pow_sub_one_eq_mod (hi.toNat * 2 ^ 4 + lo.toNat) 4
  norm_num at e ⊢
  rw [e]
  omega

end Foundations.BigEndian
