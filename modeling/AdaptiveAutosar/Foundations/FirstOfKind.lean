import Mathlib.Data.List.Basic
import Mathlib.Tactic.Common

/-! # Searching a list for the first entry of a kind

A loop that stops at the first entry of a kind, and answers whether this one matches, misses a matching
entry behind it.
-/

namespace Foundations
set_option autoImplicit false

/-- The first entry of the kind does not match, and one behind it does. -/
def Shadowed {α : Type} (kind matching : α → Bool) (entries : List α) : Prop :=
  ∃ before foreign behind, entries = before ++ foreign :: behind ∧
    (∀ entry ∈ before, kind entry = false) ∧ kind foreign = true ∧ matching foreign = false ∧
      ∃ entry ∈ behind, matching entry = true

section
variable {α : Type} {kind matching : α → Bool}

theorem shadowed_cons_of_other {entry : α} (other : kind entry = false) (entries : List α) :
    Shadowed kind matching (entry :: entries) ↔ Shadowed kind matching entries := by
  constructor
  · rintro ⟨before, foreign, behind, split, earlier, isKind, differs, matched⟩
    cases before with
    | nil =>
      obtain ⟨rfl, rfl⟩ := List.cons.inj split
      exact absurd isKind (by simp [other])
    | cons first before =>
      obtain ⟨rfl, rfl⟩ := List.cons.inj split
      exact ⟨before, foreign, behind, rfl, fun e h => earlier e (by simp [h]), isKind, differs, matched⟩
  · rintro ⟨before, foreign, behind, rfl, earlier, isKind, differs, matched⟩
    refine ⟨entry :: before, foreign, behind, rfl, ?_, isKind, differs, matched⟩
    intro e there
    rcases List.mem_cons.mp there with rfl | there
    · exact other
    · exact earlier e there

theorem shadowed_cons_of_kind {entry : α} (isKind : kind entry = true) (entries : List α) :
    Shadowed kind matching (entry :: entries) ↔
      matching entry = false ∧ ∃ e ∈ entries, matching e = true := by
  constructor
  · rintro ⟨before, foreign, behind, split, earlier, -, differs, matched⟩
    cases before with
    | nil =>
      obtain ⟨rfl, rfl⟩ := List.cons.inj split
      exact ⟨differs, matched⟩
    | cons first before =>
      obtain ⟨rfl, -⟩ := List.cons.inj split
      exact absurd isKind (by simp [earlier])
  · rintro ⟨differs, matched⟩
    exact ⟨[], entry, entries, rfl, by simp, isKind, differs, matched⟩

/-- A loop that returns what the first entry of the kind gives finds a matching entry, if there is one,
exactly when none is shadowed. -/
theorem found_iff_unshadowed {loop : List α → Bool} (done : loop [] = false)
    (next : ∀ entry rest, loop (entry :: rest) = if kind entry then matching entry else loop rest)
    (isKind : ∀ entry, matching entry = true → kind entry = true) (entries : List α) :
    (loop entries = true ↔ ∃ entry ∈ entries, matching entry = true) ↔
      ¬ Shadowed kind matching entries := by
  induction entries with
  | nil => simp [done, Shadowed]
  | cons entry rest ih =>
    rw [next]
    cases there : kind entry with
    | false =>
      have other : matching entry = false := by
        by_contra matched
        simp [isKind entry (by simpa using matched)] at there
      rw [shadowed_cons_of_other there, ← ih]
      simp [other]
    | true =>
      rw [shadowed_cons_of_kind there]
      cases own : matching entry with
      | false => simp [own]
      | true => simp [own]

end

end Foundations
