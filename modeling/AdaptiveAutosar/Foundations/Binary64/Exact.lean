import Mathlib.Tactic.Linarith
import Mathlib.Tactic.NormNum
import AdaptiveAutosar.Foundations.Binary64

/-! # Whole numbers as doubles

A whole number of at most 53 significant bits is a double, and so is its product with a power of two, as
long as it stays below `2 ^ 1024`; from there on the product is infinite.
-/

namespace Foundations.Binary64
open Float.Model Float.Model.UnpackedFloat
set_option autoImplicit false

/-- `n` is `mantissa * 2 ^ (log - 52)`, with the mantissa of a normal double. -/
structure Scaled (n mantissa log : ℕ) : Prop where
  lower : 2 ^ 52 ≤ mantissa
  upper : mantissa < 2 ^ 53
  value : n * 2 ^ 52 = mantissa * 2 ^ log

/-! ## Shifting and rounding -/

theorem finite_congr {sign : Sign} {mantissa mantissa' : ℕ} {exponent exponent' : ℤ} {positive : 0 < mantissa}
    {positive' : 0 < mantissa'} (mantissas : mantissa = mantissa') (exponents : exponent = exponent') :
    UnpackedFloat.finite sign mantissa exponent positive = .finite sign mantissa' exponent' positive' := by
  subst mantissas exponents
  rfl

/-- Shifting zeros out is exact. -/
theorem shiftRight_exact (mantissa k : ℕ) :
    (⟨mantissa * 2 ^ k, false, false⟩ : ExtendedMantissa) >>> k = ⟨mantissa, false, false⟩ := by
  change k.repeat ExtendedMantissa.shiftRightOne _ = _
  induction k generalizing mantissa with
  | zero => simp [Nat.repeat]
  | succ k ih =>
    have split : mantissa * 2 ^ (k + 1) = mantissa * 2 * 2 ^ k := by ring
    rw [Nat.repeat, split, ih]
    simp [ExtendedMantissa.shiftRightOne]

theorem log2_mul_pow {n : ℕ} (nonzero : n ≠ 0) (k : ℕ) : (n * 2 ^ k).log2 = n.log2 + k := by
  induction k with
  | zero => simp
  | succ k ih =>
    have split : n * 2 ^ (k + 1) = 2 * (n * 2 ^ k) := by ring
    rw [split, Nat.log2_two_mul (Nat.mul_ne_zero nonzero (Nat.two_pow_pos k).ne'), ih, Nat.add_assoc]

theorem mantissaBits_binary64 : Format.binary64.mantissaBits = 53 := rfl

theorem log2_mantissa {mantissa : ℕ} (lower : 2 ^ 52 ≤ mantissa) (upper : mantissa < 2 ^ 53) :
    mantissa.log2 = 52 :=
  (Nat.log2_eq_iff (by omega)).mpr ⟨lower, upper⟩

theorem shiftToTarget_exact {mantissa : ℕ} (lower : 2 ^ 52 ≤ mantissa) (upper : mantissa < 2 ^ 53)
    (k : ℕ) {exponent : ℤ} (least : -1074 ≤ exponent + k) :
    shiftToTargetExponent .binary64 (mantissa * 2 ^ k) exponent .exact =
      (⟨mantissa, false, false⟩, exponent + k) := by
  have target : Format.binary64.targetExponent (totalExponent (mantissa * 2 ^ k) exponent) =
      exponent + k := by
    have nonzero : mantissa ≠ 0 := by omega
    simp only [Format.targetExponent, totalExponent, Format.minExponent, mantissaBits_binary64,
      log2_mul_pow nonzero, log2_mantissa lower upper]
    omega
  have amount : (exponent + k - exponent).toNat = k := by omega
  simp only [shiftToTargetExponent, shiftToExponent, target, amount,
    ExtendedMantissa.ofMantissaAndAccuracy, shiftRight_exact]

/-- A mantissa of 53 bits with zeros behind is not rounded. -/
theorem round_exact {mantissa : ℕ} (lower : 2 ^ 52 ≤ mantissa) (upper : mantissa < 2 ^ 53)
    (sign : Sign) (k : ℕ) {exponent : ℤ} (least : -1074 ≤ exponent + k) :
    roundWithAccuracy .binary64 sign (mantissa * 2 ^ k) exponent .exact =
      .finite sign mantissa (exponent + k) (Nat.lt_of_lt_of_le (by decide) lower) := by
  have kept : -1074 ≤ exponent + k + (0 : ℕ) := by simpa using least
  have again := shiftToTarget_exact lower upper 0 kept
  have rounded : (⟨mantissa, false, false⟩ : ExtendedMantissa).roundedMantissa = mantissa := rfl
  have positive : mantissa ≠ 0 := by omega
  simp only [Nat.pow_zero, Nat.mul_one, Nat.cast_zero, add_zero] at again
  unfold roundWithAccuracy
  rw [shiftToTarget_exact lower upper k least]
  dsimp only
  rw [rounded, again]
  exact dif_neg positive

/-! ## Packing -/

theorem bias_eq :
    (Format.binary64.exponentBias : ℤ) + Format.binary64.mantissaBitsWithoutImplicit = 1075 := rfl

/-- The implicit bit comes back. -/
theorem append_one {mantissa : ℕ} (lower : 2 ^ 52 ≤ mantissa) (upper : mantissa < 2 ^ 53) :
    (1#1 ++ BitVec.ofNat 52 mantissa).toNat = mantissa := by
  rw [BitVec.toNat_append, ← Nat.shiftLeft_add_eq_or_of_lt (BitVec.ofNat 52 mantissa).isLt]
  simp only [BitVec.toNat_ofNat, Nat.shiftLeft_eq]
  omega

/-- The sign comes back as well. -/
theorem sign_packComponents {format : Format} (sign : Sign) (exponent : BitVec format.exponentBits)
    (mantissa : BitVec format.mantissaBitsWithoutImplicit) :
    Sign.ofBitVec (unpackSign (packComponents format sign exponent mantissa)) = sign := by
  have bit : unpackSign (packComponents format sign exponent mantissa) = sign.toBitVec := by
    ext i inside
    obtain rfl : i = 0 := by omega
    show (((sign.toBitVec ++ exponent ++ mantissa).extractLsb _ _).cast _)[0] = sign.toBitVec[0]
    simp [BitVec.getLsbD_append, BitVec.getElem_append]
  rw [bit]
  cases sign <;> rfl

theorem pack_finite (format : Format) (sign : Sign) {mantissa : ℕ} (exponent : ℤ) (positive : 0 < mantissa) :
    UnpackedFloat.pack format (.finite sign mantissa exponent positive) =
      if 2 ^ format.exponentBits ≤
          (exponent + format.exponentBias + format.mantissaBitsWithoutImplicit).toNat + 1 then
        packedInfinity format sign
      else if mantissa.log2 + 1 = format.mantissaBits then
        packComponents format sign
          (.ofNat _ (exponent + format.exponentBias + format.mantissaBitsWithoutImplicit).toNat) (.ofNat _ mantissa)
      else packComponents format sign 0 (.ofNat _ mantissa) := rfl

theorem unpack_normal {format : Format} (sign : Sign) {exponent : BitVec format.exponentBits}
    {mantissa : BitVec format.mantissaBitsWithoutImplicit} (not_ones : exponent ≠ -1#_) (not_zero : exponent ≠ 0#_)
    (positive : 0 < (1#1 ++ mantissa).toNat) :
    UnpackedFloat.unpack format (packComponents format sign exponent mantissa) =
      .finite sign (1#1 ++ mantissa).toNat
        (exponent.toNat - (format.exponentBias + format.mantissaBitsWithoutImplicit)) positive := by
  have field : unpackExponent (packComponents format sign exponent mantissa) = exponent :=
    unpackExponent_packComponents
  have bits : unpackMantissa (packComponents format sign exponent mantissa) = mantissa :=
    unpackMantissa_packComponents
  refine (if_neg (by rwa [field])).trans ((dif_neg (by rwa [field])).trans ?_)
  rw [sign_packComponents]
  exact finite_congr (by rw [bits]) (by rw [field])

theorem unpack_packedInfinity (format : Format) (sign : Sign) :
    UnpackedFloat.unpack format (packedInfinity format sign) = .infinity sign := by
  have field : unpackExponent (packedInfinity format sign) = -1#_ := unpackExponent_packComponents
  have bits : unpackMantissa (packedInfinity format sign) = 0#_ := unpackMantissa_packComponents
  refine (if_pos field).trans ((if_pos bits).trans ?_)
  exact congrArg UnpackedFloat.infinity (sign_packComponents sign _ _)

theorem unpack_pack_eq (unpacked : UnpackedFloat) :
    (Float.Model.pack unpacked).unpack = .unpack .binary64 (UnpackedFloat.pack .binary64 unpacked) := rfl

theorem unpack_pack {mantissa : ℕ} (lower : 2 ^ 52 ≤ mantissa) (upper : mantissa < 2 ^ 53)
    (sign : Sign) {exponent : ℤ} (least : -1074 ≤ exponent) (most : exponent ≤ 971)
    (positive : 0 < mantissa) :
    (Float.Model.pack (.finite sign mantissa exponent positive)).unpack =
      .finite sign mantissa exponent positive := by
  have bits : mantissa.log2 + 1 = Format.binary64.mantissaBits := by
    rw [log2_mantissa lower upper, mantissaBits_binary64]
  obtain ⟨biased, eq⟩ : ∃ biased : ℕ, exponent + 1075 = biased := Int.eq_ofNat_of_zero_le (by omega)
  have field : (BitVec.ofNat 11 biased).toNat = biased := by
    rw [BitVec.toNat_ofNat]
    omega
  have not_ones : BitVec.ofNat 11 biased ≠ -1#11 := by
    intro same
    have ones : biased = 2047 := field.symm.trans (congrArg BitVec.toNat same)
    omega
  have not_zero : BitVec.ofNat 11 biased ≠ 0#11 := by
    intro same
    have zero : biased = 0 := field.symm.trans (congrArg BitVec.toNat same)
    omega
  have bias : (exponent + Format.binary64.exponentBias + Format.binary64.mantissaBitsWithoutImplicit).toNat =
      biased := by
    rw [Int.add_assoc, bias_eq]
    omega
  have packed : UnpackedFloat.pack .binary64 (.finite sign mantissa exponent positive) =
      packComponents .binary64 sign (BitVec.ofNat 11 biased) (BitVec.ofNat 52 mantissa) := by
    have finite : ¬ 2 ^ Format.binary64.exponentBits ≤ biased + 1 := by
      show ¬ 2 ^ 11 ≤ biased + 1
      omega
    rw [pack_finite, bias, if_neg finite, if_pos bits]
  have whole := append_one lower upper
  rw [unpack_pack_eq, packed, unpack_normal sign not_ones not_zero (by rwa [whole])]
  refine finite_congr whole ?_
  rw [field, bias_eq]
  omega

theorem unpack_pack_infinity {mantissa : ℕ} (sign : Sign) {exponent : ℤ} (beyond : 971 < exponent)
    (positive : 0 < mantissa) :
    (Float.Model.pack (.finite sign mantissa exponent positive)).unpack = .infinity sign := by
  have infinite : 2 ^ Format.binary64.exponentBits ≤
      (exponent + Format.binary64.exponentBias + Format.binary64.mantissaBitsWithoutImplicit).toNat + 1 := by
    rw [Int.add_assoc, bias_eq]
    show 2 ^ 11 ≤ _
    omega
  rw [unpack_pack_eq, pack_finite, if_pos infinite, unpack_packedInfinity]

/-! ## Whole numbers -/

namespace Scaled
variable {n mantissa log : ℕ}

theorem positive (h : Scaled n mantissa log) : 0 < mantissa :=
  Nat.lt_of_lt_of_le (by decide) h.lower

theorem ne_zero (h : Scaled n mantissa log) : n ≠ 0 := by
  rintro rfl
  have value := h.value
  have := Nat.mul_pos h.positive (Nat.two_pow_pos log)
  omega

theorem log2 (h : Scaled n mantissa log) : n.log2 = log := by
  have same := congrArg Nat.log2 h.value
  rw [log2_mul_pow h.ne_zero, log2_mul_pow h.positive.ne', log2_mantissa h.lower h.upper] at same
  omega

/-- The mantissa is `n` shifted to 53 bits. -/
theorem aligned (h : Scaled n mantissa log) : n * 2 ^ (52 - log) = mantissa * 2 ^ (log - 52) := by
  have value := h.value
  rcases Nat.le_total log 52 with small | large
  · have split : 52 = 52 - log + log := by omega
    rw [split, Nat.pow_add, ← Nat.mul_assoc] at value
    rw [Nat.sub_eq_zero_of_le small, Nat.pow_zero, Nat.mul_one]
    exact Nat.mul_right_cancel (Nat.two_pow_pos log) value
  · have split : log = log - 52 + 52 := by omega
    rw [split, Nat.pow_add, ← Nat.mul_assoc] at value
    rw [Nat.sub_eq_zero_of_le large, Nat.pow_zero, Nat.mul_one]
    exact Nat.mul_right_cancel (Nat.two_pow_pos 52) value

theorem of_lt (nonzero : n ≠ 0) (bound : n < 2 ^ 53) : Scaled n (n * 2 ^ (52 - n.log2)) n.log2 := by
  have small : n.log2 ≤ 52 := Nat.le_of_lt_succ ((Nat.log2_lt nonzero).mpr bound)
  refine ⟨?_, ?_, ?_⟩
  · calc 2 ^ 52 = 2 ^ n.log2 * 2 ^ (52 - n.log2) := by rw [← Nat.pow_add, Nat.add_sub_cancel' small]
      _ ≤ n * 2 ^ (52 - n.log2) := Nat.mul_le_mul_right _ (Nat.log2_self_le nonzero)
  · calc n * 2 ^ (52 - n.log2) < 2 ^ (n.log2 + 1) * 2 ^ (52 - n.log2) :=
          Nat.mul_lt_mul_of_pos_right Nat.lt_log2_self (Nat.two_pow_pos _)
      _ = 2 ^ 53 := by
          rw [← Nat.pow_add]
          congr 1
          omega
  · rw [Nat.mul_assoc, ← Nat.pow_add, Nat.sub_add_cancel small]

theorem powTwo (i : ℕ) : Scaled (2 ^ i) (2 ^ 52) i := ⟨Nat.le_refl _, by decide, Nat.mul_comm ..⟩

theorem mul_powTwo (h : Scaled n mantissa log) (i : ℕ) : Scaled (2 ^ i * n) mantissa (i + log) := by
  refine ⟨h.lower, h.upper, ?_⟩
  rw [Nat.mul_assoc, h.value, Nat.pow_add]
  ring

theorem ofNat (h : Scaled n mantissa log) :
    Float.Model.ofNat n = .pack (.finite .positive mantissa (log - 52) h.positive) := by
  have target : Format.binary64.targetExponent (totalExponent n 0) = (log : ℤ) - 52 := by
    simp only [Format.targetExponent, totalExponent, Format.minExponent, mantissaBits_binary64, h.log2]
    omega
  have sign : compare (n : ℤ) 0 = .gt := by
    have := h.ne_zero
    rw [Int.compare_eq_gt]
    omega
  have amount : (0 - ((log : ℤ) - 52)).toNat = 52 - log := by omega
  have least : -1074 ≤ 0 - ((52 - log : ℕ) : ℤ) + ((log - 52 : ℕ) : ℤ) := by omega
  have rounded := round_exact h.lower h.upper .positive (log - 52) least
  have sum : 0 - ((52 - log : ℕ) : ℤ) + ((log - 52 : ℕ) : ℤ) = (log : ℤ) - 52 := by omega
  refine congrArg Float.Model.pack (Eq.trans ?_ (rounded.trans (finite_congr rfl sum)))
  simp only [UnpackedFloat.ofNat, UnpackedFloat.ofInt, UnpackedFloat.normalize, sign, Int.toNat_natCast,
    UnpackedFloat.round, target, decreaseExponent, amount, Nat.shiftLeft_eq, h.aligned]

theorem unpack_ofNat (h : Scaled n mantissa log) :
    (Float.Model.ofNat n).unpack =
      if log < 1024 then .finite .positive mantissa (log - 52) h.positive else .infinity .positive := by
  rw [h.ofNat]
  by_cases below : log < 1024
  · rw [if_pos below]
    exact unpack_pack h.lower h.upper _ (by omega) (by omega) _
  · rw [if_neg below]
    exact unpack_pack_infinity _ (by omega) _

/-- Truncating does not lose anything. -/
theorem truncated (h : Scaled n mantissa log) : roundToInt .positive mantissa (log - 52) = n := by
  have amount : ((log : ℤ) - 52 - 0).toNat = log - 52 := by omega
  have back : (0 - ((log : ℤ) - 52 - ((log - 52 : ℕ) : ℤ))).toNat = 52 - log := by omega
  simp only [UnpackedFloat.roundToInt, decreaseExponent, shiftToExponent, amount, back, Nat.shiftLeft_eq,
    ← h.aligned, ExtendedMantissa.ofMantissaAndAccuracy, shiftRight_exact, Sign.apply]

end Scaled

theorem whole_pack_infinity (sign : Sign) : whole (.pack (.infinity sign)) = none := by
  cases sign <;> rfl

theorem mul_eq (x y : Float.Model) : x * y = .pack (UnpackedFloat.mul .binary64 x.unpack y.unpack) := rfl

theorem unpack_powTwo {i : ℕ} (finite : i < 1024) :
    (powTwo i).unpack = .finite .positive (2 ^ 52) (i - 52) (by decide) := by
  rw [powTwo, (Scaled.powTwo i).unpack_ofNat, if_pos finite]

/-- The product with a power of two is not rounded. -/
theorem powTwo_mul_ofNat {i n : ℕ} (finite : i < 1024) (bound : n < 2 ^ 53) :
    powTwo i * .ofNat n = .ofNat (2 ^ i * n) := by
  rw [mul_eq, unpack_powTwo finite]
  by_cases zero : n = 0
  · subst zero
    rfl
  · have scaled := Scaled.of_lt zero bound
    have small : n.log2 < 53 := (Nat.log2_lt zero).mpr bound
    have least : -1074 ≤ (i : ℤ) - 52 + ((n.log2 : ℤ) - 52) + (52 : ℕ) := by omega
    have rounded := round_exact scaled.lower scaled.upper .positive 52 least
    have sum : (i : ℤ) - 52 + ((n.log2 : ℤ) - 52) + (52 : ℕ) = ((i + n.log2 : ℕ) : ℤ) - 52 := by omega
    rw [(scaled.mul_powTwo i).ofNat, scaled.unpack_ofNat, if_pos (by omega)]
    refine congrArg Float.Model.pack (Eq.trans ?_ (rounded.trans (finite_congr rfl sum)))
    show roundWithAccuracy .binary64 .positive (2 ^ 52 * _) _ .exact = _
    rw [Nat.mul_comm]

/-- From `2 ^ 1024` on the power is infinite, and its product with zero is no number. -/
theorem whole_infinite {i n : ℕ} (infinite : 1024 ≤ i) (bound : n < 2 ^ 53) :
    whole (powTwo i * .ofNat n) = none := by
  rw [mul_eq, powTwo, (Scaled.powTwo i).unpack_ofNat, if_neg (by omega)]
  by_cases zero : n = 0
  · subst zero
    rfl
  · have scaled := Scaled.of_lt zero bound
    have small : n.log2 < 53 := (Nat.log2_lt zero).mpr bound
    rw [scaled.unpack_ofNat, if_pos (by omega)]
    exact whole_pack_infinity _

/-! ## The conversion -/

theorem toInt32_ofNat {n mantissa log : ℕ} (h : Scaled n mantissa log) :
    toInt32 (.ofNat n) = if n < 2 ^ 31 then .ok (.ofNat n) else .error .undefined := by
  have below : n < 2 ^ 31 ↔ log < 31 := by
    rw [← h.log2]
    exact (Nat.log2_lt h.ne_zero).symm
  rw [toInt32, whole, h.unpack_ofNat]
  by_cases finite : log < 1024
  · rw [if_pos finite]
    dsimp only
    rw [h.truncated]
    split_ifs with fits small small
    · rfl
    · omega
    · omega
    · rfl
  · rw [if_neg finite, if_neg (by omega)]

/-- A whole number times a power of two is an `int` when it is below `2 ^ 31`, except for zero times
infinity. -/
theorem toInt32_powTwo_mul {n : ℕ} (bound : n < 2 ^ 53) (i : ℕ) :
    toInt32 (powTwo i * .ofNat n) =
      if i < 1024 ∧ 2 ^ i * n < 2 ^ 31 then .ok (.ofNat (2 ^ i * n)) else .error .undefined := by
  by_cases finite : i < 1024
  · simp only [powTwo_mul_ofNat finite bound, finite, true_and]
    by_cases zero : n = 0
    · subst zero
      rw [Nat.mul_zero]
      rfl
    · exact toInt32_ofNat ((Scaled.of_lt zero bound).mul_powTwo i)
  · rw [toInt32, whole_infinite (Nat.le_of_not_lt finite) bound, if_neg (fun both => finite both.1)]

example : toInt32 (powTwo 1024 * .ofNat 0) = .error .undefined := by decide +kernel

end Foundations.Binary64
