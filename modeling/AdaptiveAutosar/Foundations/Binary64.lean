import Mathlib.Tactic.Ring
import AdaptiveAutosar.Foundations.Cursor

/-! # Doubles

`Float.Model` is Lean's own IEEE double, with the rounding of every operation. Here are the operations of
the C++ library and language that it does not have.
-/

namespace Foundations.Binary64
open Float.Model Float.Model.UnpackedFloat
set_option autoImplicit false

/-- `std::pow(2, i)`, infinite when `2 ^ i` is. -/
def powTwo (i : ℕ) : Float.Model := .ofNat (2 ^ i)

/-- The whole part of a double that is a number. -/
def whole (x : Float.Model) : Option ℤ :=
  match x.unpack with
  | .notANumber | .infinity _ => none
  | .zero _ => some 0
  | .finite sign mantissa exponent _ => some (roundToInt sign mantissa exponent)

/-- The conversion to an `int`, which has to hold the whole part. -/
def toInt32 (x : Float.Model) : Outcome Int32 :=
  match whole x with
  | none => .error .undefined
  | some value =>
    if -2 ^ 31 ≤ value ∧ value < 2 ^ 31 then .ok (.ofInt value) else .error .undefined

end Foundations.Binary64
