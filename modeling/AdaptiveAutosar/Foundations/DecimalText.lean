import Mathlib.Data.Int.Order.Basic
import AdaptiveAutosar.Foundations.Cursor

/-! # Decimal numbers at the front of a text

`std::stoi` and `std::stoul` with base 10: white space, a sign, and as many digits as there are. What
stands behind the digits is not looked at. A text without digits is an invalid argument, and a number
that the result type does not have is out of range.
-/

namespace Foundations.DecimalText
set_option autoImplicit false

/-- `std::isspace` in the C locale. -/
def isSpace (c : Char) : Bool := c = ' ' ∨ 9 ≤ c.toNat ∧ c.toNat ≤ 13

def scanDigits (negative : Bool) (text : List Char) : Option (Bool × ℕ) :=
  if text.takeWhile Char.isDigit = [] then none
  else some (negative, Nat.ofDigitChars 10 (text.takeWhile Char.isDigit) 0)

/-- Whether there is a minus sign, and the number behind it. -/
def scan (text : String) : Option (Bool × ℕ) :=
  match text.toList.dropWhile isSpace with
  | '-' :: digits => scanDigits true digits
  | '+' :: digits => scanDigits false digits
  | digits => scanDigits false digits

/-- The number that a text begins with. -/
def value (text : String) : Option ℤ :=
  (scan text).map fun number => if number.1 then -(number.2 : ℤ) else number.2

def intMin : ℤ := -2147483648
def intMax : ℤ := 2147483647

def stoi (text : String) : Outcome ℤ :=
  match value text with
  | none => .error (.thrown (.invalidArgument "stoi"))
  | some number =>
    if intMin ≤ number ∧ number ≤ intMax then .ok number else .error (.thrown (.outOfRange "stoi"))

def ulongMax : ℕ := 18446744073709551615

/-- A number behind a minus sign is negated in the unsigned type. -/
def stoul (text : String) : Outcome UInt64 :=
  match scan text with
  | none => .error (.thrown (.invalidArgument "stoul"))
  | some (negative, magnitude) =>
    if magnitude ≤ ulongMax then
      .ok (if negative then -UInt64.ofNat magnitude else UInt64.ofNat magnitude)
    else .error (.thrown (.outOfRange "stoul"))

/-! ## What the scans answer -/

theorem stoi_of_value {text : String} {number : ℤ} (isNumber : value text = some number)
    (above : intMin ≤ number) (below : number ≤ intMax) : stoi text = .ok number := by
  rw [stoi, isNumber]
  exact if_pos ⟨above, below⟩

theorem stoi_beyond {text : String} {number : ℤ} (isNumber : value text = some number)
    (beyond : intMax < number) : stoi text = .error (.thrown (.outOfRange "stoi")) := by
  rw [stoi, isNumber]
  exact if_neg fun inside => absurd inside.2 (not_le.mpr beyond)

theorem stoi_thrown {text : String} {e : Fault} (failed : stoi text = .error e) : ∃ exn, e = .thrown exn := by
  unfold stoi at failed
  split at failed
  · exact ⟨_, (Except.error.inj failed).symm⟩
  · split_ifs at failed
    exact ⟨_, (Except.error.inj failed).symm⟩

theorem stoul_cases (text : String) :
    (∃ number scanned, stoul text = .ok number ∧ scan text = some scanned ∧ scanned.2 ≤ ulongMax) ∨
      stoul text = .error (.thrown (.invalidArgument "stoul")) ∧ scan text = none ∨
      stoul text = .error (.thrown (.outOfRange "stoul")) ∧
        ∃ number, scan text = some number ∧ ulongMax < number.2 := by
  unfold stoul
  cases scanned : scan text with
  | none => exact .inr (.inl ⟨rfl, rfl⟩)
  | some number =>
    obtain ⟨negative, magnitude⟩ := number
    by_cases inside : magnitude ≤ ulongMax
    · exact .inl ⟨_, _, if_pos inside, rfl, inside⟩
    · exact .inr (.inr ⟨if_neg inside, _, rfl, Nat.lt_of_not_le inside⟩)

/-! ## Printing -/

/-- `std::to_string` of an unsigned number. -/
def print (number : ℕ) : Bytes := (Nat.toDigits 10 number).map fun digit => digit.toNat.toUInt8

/-- The digits are ASCII. -/
theorem digits_of_print (number : ℕ) :
    (print number).map (fun byte => Char.ofNat byte.toNat) = Nat.toDigits 10 number := by
  rw [print, List.map_map]
  refine (List.map_congr_left fun digit there => ?_).trans (List.map_id _)
  have decimal : digit.isDigit = true := Nat.isDigit_of_mem_toDigits (by decide) (by decide) there
  have small : digit.toNat < 256 := by
    rw [Char.isDigit, Bool.and_eq_true, decide_eq_true_eq, decide_eq_true_eq] at decimal
    exact Nat.lt_of_le_of_lt (UInt32.le_iff_toNat_le.mp decimal.2) (by decide)
  show Char.ofNat (UInt8.ofNat digit.toNat).toNat = digit
  rw [UInt8.toNat_ofNat', Nat.mod_eq_of_lt small, Char.ofNat_toNat]

theorem print_injective : Function.Injective print := by
  intro m n same
  have digits : Nat.toDigits 10 m = Nat.toDigits 10 n := by rw [← digits_of_print, ← digits_of_print, same]
  have read := congrArg (fun digits => Nat.ofDigitChars 10 digits 0) digits
  rwa [Nat.ofDigitChars_ten_toDigits, Nat.ofDigitChars_ten_toDigits] at read

theorem zero_notMem_print (number : ℕ) : 0 ∉ print number := by
  intro there
  have digit : Char.ofNat 0 ∈ (print number).map fun byte => Char.ofNat byte.toNat :=
    List.mem_map.mpr ⟨0, there, rfl⟩
  rw [digits_of_print] at digit
  have decimal := Nat.isDigit_of_mem_toDigits (by decide) (by decide) digit
  exact absurd decimal (by decide)

end Foundations.DecimalText
