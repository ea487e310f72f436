import Mathlib.Tactic.Common
import Mathlib.Data.Int.Order.Basic

/-! # Counter-based debouncing

`ara::diag::debouncing::Debouncer` and `CounterBasedDebouncer`. A report answers the debouncer it leaves
and what it calls `onEventStatusChanged` with, if it calls it.
-/

namespace AdaptiveAutosar.Diag
set_option autoImplicit false

inductive EventStatus where
  | passed
  | pending
  | failed
  deriving DecidableEq, Repr

/-- `Debouncer::SetEventStatus`, with a callback. -/
def setEventStatus (current status : EventStatus) : EventStatus × Option Bool :=
  if current ≠ status then
    (status, match status with
      | .passed => some true
      | .failed => some false
      | .pending => none)
  else (current, none)

theorem setEventStatus_fst (current status : EventStatus) : (setEventStatus current status).1 = status := by
  unfold setEventStatus
  by_cases same : current = status
  · rw [if_neg (not_not.mpr same), same]
  · rw [if_pos same]

/-! ## CounterBasedDebouncer -/

structure CounterBased where
  failedThreshold : Int16
  passedThreshold : Int16
  failedStepsize : UInt16
  passedStepsize : UInt16
  failedJumpValue : Int16
  passedJumpValue : Int16
  useJumpToFailed : Bool
  useJumpToPassed : Bool
  deriving DecidableEq, Repr

structure CounterBasedDebouncer where
  eventStatus : EventStatus
  fdc : Int16
  deriving DecidableEq, Repr

namespace CounterBasedDebouncer

/-- The constructor. -/
def make : CounterBasedDebouncer := ⟨.pending, 0⟩

/-- The counter is set, then the status. -/
def settle (debouncer : CounterBasedDebouncer) (fdc : Int16) (status : EventStatus) :
    CounterBasedDebouncer × Option Bool :=
  let set := setEventStatus debouncer.eventStatus status
  (⟨set.1, fdc⟩, set.2)

def reportPrepassed (debouncer : CounterBasedDebouncer) (values : CounterBased) :
    CounterBasedDebouncer × Option Bool :=
  if debouncer.fdc.toInt - values.passedStepsize.toNat ≤ values.passedThreshold.toInt then
    debouncer.settle values.passedThreshold .passed
  else if values.useJumpToPassed = true ∧ values.passedJumpValue.toInt < debouncer.fdc.toInt then
    ({ debouncer with fdc := values.passedJumpValue }, none)
  else
    ({ debouncer with fdc := Int16.ofInt (debouncer.fdc.toInt - values.passedStepsize.toNat) }, none)

def reportPassed (debouncer : CounterBasedDebouncer) (values : CounterBased) :
    CounterBasedDebouncer × Option Bool :=
  debouncer.settle values.passedThreshold .passed

def reportPrefailed (debouncer : CounterBasedDebouncer) (values : CounterBased) :
    CounterBasedDebouncer × Option Bool :=
  if values.failedThreshold.toInt ≤ debouncer.fdc.toInt + values.failedStepsize.toNat then
    debouncer.settle values.failedThreshold .failed
  else if values.useJumpToFailed = true ∧ debouncer.fdc.toInt < values.failedJumpValue.toInt then
    ({ debouncer with fdc := values.failedJumpValue }, none)
  else
    ({ debouncer with fdc := Int16.ofInt (debouncer.fdc.toInt + values.failedStepsize.toNat) }, none)

def reportFailed (debouncer : CounterBasedDebouncer) (values : CounterBased) :
    CounterBasedDebouncer × Option Bool :=
  debouncer.settle values.failedThreshold .failed

def reset (debouncer : CounterBasedDebouncer) : CounterBasedDebouncer × Option Bool :=
  debouncer.settle 0 .pending

def freeze (debouncer : CounterBasedDebouncer) : CounterBasedDebouncer × Option Bool :=
  debouncer.reset

/-! ## What a report calls -/

/-- The callback tells the verdict that is new, and nothing else. -/
def Calls (before after : EventStatus) (called : Option Bool) : Prop :=
  (before = after ∧ called = none) ∨ (before ≠ .passed ∧ after = .passed ∧ called = some true) ∨
    (before ≠ .failed ∧ after = .failed ∧ called = some false) ∨ (after = .pending ∧ called = none)

theorem settle_fst (debouncer : CounterBasedDebouncer) (fdc : Int16) (status : EventStatus) :
    (debouncer.settle fdc status).1 = ⟨status, fdc⟩ := by
  unfold settle
  dsimp only
  rw [setEventStatus_fst]

theorem settle_calls (debouncer : CounterBasedDebouncer) (fdc : Int16) (status : EventStatus) :
    Calls debouncer.eventStatus (debouncer.settle fdc status).1.eventStatus
      (debouncer.settle fdc status).2 := by
  rw [settle_fst]
  unfold settle setEventStatus Calls
  by_cases same : debouncer.eventStatus = status
  · simp [same]
  · cases status with
    | passed => simp [same]
    | pending => simp [same]
    | failed => simp [same]

theorem reportPrepassed_calls (debouncer : CounterBasedDebouncer) (values : CounterBased) :
    Calls debouncer.eventStatus (debouncer.reportPrepassed values).1.eventStatus
      (debouncer.reportPrepassed values).2 := by
  unfold reportPrepassed
  split_ifs
  · exact settle_calls _ _ _
  · exact .inl ⟨rfl, rfl⟩
  · exact .inl ⟨rfl, rfl⟩

theorem reportPrefailed_calls (debouncer : CounterBasedDebouncer) (values : CounterBased) :
    Calls debouncer.eventStatus (debouncer.reportPrefailed values).1.eventStatus
      (debouncer.reportPrefailed values).2 := by
  unfold reportPrefailed
  split_ifs
  · exact settle_calls _ _ _
  · exact .inl ⟨rfl, rfl⟩
  · exact .inl ⟨rfl, rfl⟩

end CounterBasedDebouncer
end AdaptiveAutosar.Diag
