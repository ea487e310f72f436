import Mathlib.Data.List.Basic
import Mathlib.Data.List.Range
import Mathlib.Tactic.Common

/-! # Streams of numbered items with gaps

A receiver decides by the number of the last item and that of the next one whether it takes the next one.
When it takes every direct successor, each gap in the numbers costs it at most one item.

* `heard accepts last items`: the items that it takes, where `last` is the number before them.
* `gaps last items`: the items whose predecessor is missing.
* `lastOf last items`: the number behind all items.
-/

namespace Foundations.Gaps
set_option autoImplicit false
variable {α : Type}

def heard (accepts : ℕ → ℕ → Prop) [DecidableRel accepts] : ℕ → List (α × ℕ) → List α
  | _, [] => []
  | last, (item, number) :: rest =>
    if accepts last number then item :: heard accepts number rest else heard accepts number rest

def gaps : ℕ → List (α × ℕ) → ℕ
  | _, [] => 0
  | last, (_, number) :: rest => (if number = last + 1 then 0 else 1) + gaps number rest

def lastOf : ℕ → List (α × ℕ) → ℕ
  | last, [] => last
  | _, (_, number) :: rest => lastOf number rest

variable {accepts : ℕ → ℕ → Prop} [DecidableRel accepts]

theorem heard_cons_of_accepts {last number : ℕ} (item : α) (rest : List (α × ℕ)) (taken : accepts last number) :
    heard accepts last ((item, number) :: rest) = item :: heard accepts number rest := if_pos taken

theorem heard_cons_of_refuses {last number : ℕ} (item : α) (rest : List (α × ℕ)) (refused : ¬ accepts last number) :
    heard accepts last ((item, number) :: rest) = heard accepts number rest := if_neg refused

/-- What is heard is in the order of the items. -/
theorem heard_sublist (last : ℕ) (items : List (α × ℕ)) : (heard accepts last items).Sublist (items.map Prod.fst) := by
  induction items generalizing last with
  | nil => exact List.Sublist.slnil
  | cons head rest ih =>
    obtain ⟨item, number⟩ := head
    by_cases taken : accepts last number
    · rw [heard_cons_of_accepts item rest taken]
      exact (ih number).cons_cons item
    · rw [heard_cons_of_refuses item rest taken]
      exact (ih number).cons item

theorem length_le_heard (direct : ∀ number, accepts number (number + 1)) (last : ℕ) (items : List (α × ℕ)) :
    items.length ≤ (heard accepts last items).length + gaps last items := by
  induction items generalizing last with
  | nil => exact Nat.zero_le _
  | cons head rest ih =>
    obtain ⟨item, number⟩ := head
    have behind := ih number
    by_cases taken : accepts last number
    · rw [heard_cons_of_accepts item rest taken, gaps, List.length_cons, List.length_cons]
      omega
    · -- only a gap is refused
      have gap : number ≠ last + 1 := by
        rintro rfl
        exact taken (direct last)
      rw [heard_cons_of_refuses item rest taken, gaps, if_neg gap, List.length_cons]
      omega

theorem gaps_le_append (last : ℕ) (front back : List (α × ℕ)) : gaps last front ≤ gaps last (front ++ back) := by
  induction front generalizing last with
  | nil => exact Nat.zero_le _
  | cons head rest ih => exact Nat.add_le_add_left (ih head.2) _

/-- Every gap in increasing numbers is at least one missing number. -/
theorem gaps_add_length {last bound : ℕ} {items : List (α × ℕ)} (increasing : (items.map Prod.snd).Pairwise (· < ·))
    (after : ∀ number ∈ items.map Prod.snd, last < number ∧ number ≤ bound) (start : last ≤ bound) :
    gaps last items + items.length + last ≤ bound := by
  induction items generalizing last with
  | nil =>
    simp only [gaps, List.length_nil]
    omega
  | cons head rest ih =>
    obtain ⟨item, number⟩ := head
    rw [List.map_cons] at increasing after
    obtain ⟨smaller, increasing⟩ := List.pairwise_cons.mp increasing
    obtain ⟨here, later⟩ := List.forall_mem_cons.mp after
    replace here : last < number ∧ number ≤ bound := here
    have behind : gaps number rest + rest.length + number ≤ bound :=
      ih increasing (fun other there => ⟨smaller other there, (later other there).2⟩) here.2
    rw [gaps, List.length_cons]
    split_ifs with next
    · omega
    · have beyond : last + 1 < number := Nat.lt_of_le_of_ne here.1 (Ne.symm next)
      omega

/-- Where the numbers are some of those from one to the bound. -/
theorem gaps_le_missing {bound : ℕ} {items : List (α × ℕ)}
    (numbers : (items.map Prod.snd).Sublist (List.range' 1 bound)) : gaps 0 items + items.length ≤ bound := by
  refine gaps_add_length (List.Pairwise.sublist numbers List.pairwise_lt_range') ?_ (Nat.zero_le bound)
  intro number there
  have inside := List.mem_range'_1.mp (numbers.subset there)
  omega

theorem lastOf_concat (last number : ℕ) (item : α) (items : List (α × ℕ)) :
    lastOf last (items ++ [(item, number)]) = number := by
  induction items generalizing last with
  | nil => rfl
  | cons head rest ih => exact ih head.2

theorem heard_concat (last number : ℕ) (item : α) (items : List (α × ℕ)) :
    heard accepts last (items ++ [(item, number)]) =
      heard accepts last items ++ if accepts (lastOf last items) number then [item] else [] := by
  induction items generalizing last with
  | nil => rfl
  | cons head rest ih =>
    obtain ⟨first, second⟩ := head
    rw [List.cons_append]
    by_cases taken : accepts last second
    · rw [heard_cons_of_accepts first _ taken, heard_cons_of_accepts first _ taken, ih, List.cons_append]
      rfl
    · rw [heard_cons_of_refuses first _ taken, heard_cons_of_refuses first _ taken, ih]
      rfl

end Foundations.Gaps
