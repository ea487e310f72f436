import Mathlib.Data.Nat.Basic
import Mathlib.Order.Lattice
import Mathlib.Tactic.Common

/-! # Elementary supervisions

`ara::phm::supervisors::ElementarySupervision`: the status of one supervision, with the callback that is
called when it changes.
-/

namespace AdaptiveAutosar.Phm
set_option autoImplicit false

inductive SupervisionStatus where
  | deactivated
  | ok
  | failed
  | expired
  deriving DecidableEq, Repr

namespace SupervisionStatus

def toNat : SupervisionStatus → ℕ
  | .deactivated => 0
  | .ok => 1
  | .failed => 2
  | .expired => 3

theorem toNat_injective : Function.Injective toNat := by
  intro status other same
  cases status <;> cases other <;> first | rfl | cases same

/-- The order of the enumeration. -/
instance : LinearOrder SupervisionStatus := LinearOrder.lift' toNat toNat_injective

theorem lt_iff_toNat_lt (status other : SupervisionStatus) : status < other ↔ status.toNat < other.toNat := Iff.rfl

theorem le_iff_toNat_le (status other : SupervisionStatus) : status ≤ other ↔ status.toNat ≤ other.toNat := Iff.rfl

end SupervisionStatus

inductive TypeOfSupervision where
  | aliveSupervision
  | deadlineSupervision
  | logicalSupervision
  deriving DecidableEq, Repr

structure ElementarySupervision where
  supervisionType : TypeOfSupervision
  status : SupervisionStatus
  deriving DecidableEq, Repr

namespace ElementarySupervision

def make (supervisionType : TypeOfSupervision) : ElementarySupervision := ⟨supervisionType, .deactivated⟩

/-- `Report`, with what it calls the callback with. From the expired status only the deactivated one is
reached. -/
def report (supervision : ElementarySupervision) (status : SupervisionStatus) :
    ElementarySupervision × Option SupervisionStatus :=
  if supervision.status ≠ status then
    match status with
    | .deactivated | .expired => ({ supervision with status }, some status)
    | .ok | .failed =>
      if supervision.status ≠ .expired then ({ supervision with status }, some status) else (supervision, none)
  else (supervision, none)

/-- The status after a report. -/
def reported (before status : SupervisionStatus) : SupervisionStatus :=
  if before = .expired ∧ status ≠ .deactivated then .expired else status

theorem report_eq (supervision : ElementarySupervision) (status : SupervisionStatus) :
    supervision.report status = ({ supervision with status := reported supervision.status status },
      if reported supervision.status status = supervision.status then none
      else some (reported supervision.status status)) := by
  obtain ⟨supervisionType, before⟩ := supervision
  cases before <;> cases status <;> rfl

end ElementarySupervision
end AdaptiveAutosar.Phm
