import Mathlib.Logic.Function.Basic
import Mathlib.Tactic.Common

/-! # Optionals

`ara::core::Optional` under names, so that the target of an assignment may be its source. The value behind
`mValuePtr` belongs to one Optional at a time.
-/

namespace AdaptiveAutosar.Core
set_option autoImplicit false

abbrev Optionals (ι α : Type) := ι → Option α

namespace Optionals
variable {ι α : Type} [DecidableEq ι]

/-- The default constructor. -/
def constructEmpty (optionals : Optionals ι α) (self : ι) : Optionals ι α := Function.update optionals self none

def reset (optionals : Optionals ι α) (self : ι) : Optionals ι α := Function.update optionals self none

/-- The constructor from a value. -/
def construct (optionals : Optionals ι α) (self : ι) (value : α) : Optionals ι α :=
  Function.update optionals self (some value)

/-- `operator=(const Optional &)`. The source is read behind the reset. -/
def copyAssign (optionals : Optionals ι α) (self other : ι) : Optionals ι α :=
  let optionals := optionals.reset self
  match optionals other with
  | some value => Function.update optionals self (some value)
  | none => optionals

/-- The source of a move: its pointer is null. -/
def release (optionals : Optionals ι α) (other : ι) : Optionals ι α := Function.update optionals other none

/-- `operator=(Optional &&)`. -/
def moveAssign (optionals : Optionals ι α) (self other : ι) : Optionals ι α :=
  let optionals := optionals.reset self
  match optionals other with
  | some value => release (Function.update optionals self (some value)) other
  | none => optionals

/-- `operator=(U &&)`. -/
def assign (optionals : Optionals ι α) (self : ι) (value : α) : Optionals ι α :=
  Function.update (optionals.reset self) self (some value)

/-- `std::swap`: a third Optional is move-constructed from the first one, and two move assignments follow. -/
def swap (optionals : Optionals ι α) (self other : ι) : Optionals ι α :=
  let temporary := optionals self
  let optionals := (optionals.release self).moveAssign self other
  match temporary with
  | some value => Function.update (optionals.reset other) other (some value)
  | none => optionals.reset other

variable (optionals : Optionals ι α) {self other : ι}

theorem copyAssign_of_ne (different : self ≠ other) :
    optionals.copyAssign self other = Function.update optionals self (optionals other) := by
  have kept : optionals.reset self other = optionals other := Function.update_of_ne different.symm _ _
  unfold copyAssign
  dsimp only
  rw [kept]
  cases optionals other with
  | none => rfl
  | some value => exact Function.update_idem _ _ _

/-- An assignment to itself reads the Optional behind its reset. -/
theorem copyAssign_self : optionals.copyAssign self self = optionals.reset self := by
  have empty : optionals.reset self self = none := Function.update_self _ _ _
  unfold copyAssign
  dsimp only
  rw [empty]

theorem moveAssign_of_ne (different : self ≠ other) :
    optionals.moveAssign self other = release (Function.update optionals self (optionals other)) other := by
  have kept : optionals.reset self other = optionals other := Function.update_of_ne different.symm _ _
  unfold moveAssign
  dsimp only
  rw [kept]
  cases held : optionals other with
  | none =>
    funext name
    dsimp only
    unfold reset release
    rw [Function.update_apply, Function.update_apply, Function.update_apply]
    by_cases here : name = other
    · rw [if_pos here, here, if_neg different.symm, held]
    · rw [if_neg here]
  | some value =>
    dsimp only
    unfold reset
    rw [Function.update_idem]

theorem moveAssign_self : optionals.moveAssign self self = optionals.reset self := by
  have empty : optionals.reset self self = none := Function.update_self _ _ _
  unfold moveAssign
  dsimp only
  rw [empty]

theorem assign_eq (value : α) : optionals.assign self value = Function.update optionals self (some value) :=
  Function.update_idem _ _ _

/-- Swapping exchanges two Optionals, and keeps one that is swapped with itself. -/
theorem swap_eq : optionals.swap self other =
    Function.update (Function.update optionals self (optionals other)) other (optionals self) := by
  have exchanged : optionals.swap self other =
      Function.update ((optionals.release self).moveAssign self other) other (optionals self) := by
    unfold swap
    dsimp only
    cases optionals self with
    | none => rfl
    | some value => exact Function.update_idem _ _ _
  rw [exchanged]
  by_cases same : self = other
  · subst same
    rw [moveAssign_self]
    unfold reset release
    rw [Function.update_idem, Function.update_idem, Function.update_idem]
  · have kept : optionals.release self other = optionals other := Function.update_of_ne (Ne.symm same) _ _
    rw [moveAssign_of_ne _ same, kept]
    unfold release
    rw [Function.update_idem, Function.update_idem]

end Optionals
end AdaptiveAutosar.Core
