import Mathlib.Data.List.Induction
import AdaptiveAutosar.Foundations.Cursor

/-! # A vector that moves its elements

`std::vector`: when `push_back` finds the buffer full the elements move to a larger one, and every pointer into
the old buffer is dangling.

* `Growth`: the capacity of the new buffer, which the implementation chooses.
* `Pointer`: which buffer, and where in it.
* `capacityAfter growth k`: the capacity after `k` elements have been pushed to an empty vector.
* `pushAll_buffer_iff`: no pushing moves the elements exactly when there is room for all of them.
-/

namespace Foundations
set_option autoImplicit false

structure Growth where
  capacity : ℕ → ℕ
  grows : ∀ size, size < capacity size

/-- `buffer` counts the buffers so far. -/
structure MovingVector (α : Type) where
  elements : List α
  capacity : ℕ
  buffer : ℕ
  fits : elements.length ≤ capacity

structure Pointer where
  buffer : ℕ
  index : ℕ
  deriving DecidableEq, Repr

namespace MovingVector
variable {α : Type}

def empty : MovingVector α := ⟨[], 0, 0, Nat.le_refl _⟩

/-- `push_back`. -/
def push (growth : Growth) (vector : MovingVector α) (element : α) : MovingVector α :=
  if room : vector.elements.length < vector.capacity then
    ⟨vector.elements ++ [element], vector.capacity, vector.buffer, by
      rw [List.length_append]
      exact room⟩
  else
    ⟨vector.elements ++ [element], growth.capacity vector.elements.length, vector.buffer + 1, by
      rw [List.length_append]
      exact growth.grows _⟩

/-- `&back()`. -/
def back (vector : MovingVector α) : Pointer := ⟨vector.buffer, vector.elements.length - 1⟩

/-- What a pointer points to, undefined when it is dangling. -/
def deref (vector : MovingVector α) (pointer : Pointer) : Outcome α :=
  if pointer.buffer = vector.buffer then
    match vector.elements[pointer.index]? with
    | some element => .ok element
    | none => .error .undefined
  else .error .undefined

def pushAll (growth : Growth) (vector : MovingVector α) (added : List α) : MovingVector α :=
  added.foldl (push growth) vector

def capacityAfter (growth : Growth) : ℕ → ℕ
  | 0 => 0
  | k + 1 => if k < capacityAfter growth k then capacityAfter growth k else growth.capacity k

variable (growth : Growth) (vector : MovingVector α)

@[simp] theorem push_elements (element : α) : (vector.push growth element).elements = vector.elements ++ [element] := by
  unfold push
  split_ifs <;> rfl

theorem push_of_room {vector : MovingVector α} (room : vector.elements.length < vector.capacity) (element : α) :
    (vector.push growth element).capacity = vector.capacity ∧
      (vector.push growth element).buffer = vector.buffer := by
  unfold push
  rw [dif_pos room]
  exact ⟨rfl, rfl⟩

theorem push_of_full {vector : MovingVector α} (full : ¬ vector.elements.length < vector.capacity) (element : α) :
    (vector.push growth element).capacity = growth.capacity vector.elements.length ∧
      (vector.push growth element).buffer = vector.buffer + 1 := by
  unfold push
  rw [dif_neg full]
  exact ⟨rfl, rfl⟩

theorem pushAll_cons (element : α) (rest : List α) :
    vector.pushAll growth (element :: rest) = (vector.push growth element).pushAll growth rest := rfl

theorem pushAll_append (added later : List α) :
    vector.pushAll growth (added ++ later) = (vector.pushAll growth added).pushAll growth later :=
  List.foldl_append

@[simp] theorem pushAll_elements (added : List α) :
    (vector.pushAll growth added).elements = vector.elements ++ added := by
  induction added generalizing vector with
  | nil => exact (List.append_nil _).symm
  | cons element rest ih => rw [pushAll_cons, ih, push_elements, List.append_assoc, List.singleton_append]

/-- Buffers only come. -/
theorem buffer_le_pushAll (added : List α) : vector.buffer ≤ (vector.pushAll growth added).buffer := by
  induction added generalizing vector with
  | nil => exact Nat.le_refl _
  | cons element rest ih =>
    have first : vector.buffer ≤ (vector.push growth element).buffer := by
      by_cases room : vector.elements.length < vector.capacity
      · exact Nat.le_of_eq (push_of_room growth room element).2.symm
      · rw [(push_of_full growth room element).2]
        exact Nat.le_succ _
    exact Nat.le_trans first (ih _)

/-- The buffer stays exactly when there is room for all that is pushed. -/
theorem pushAll_buffer_iff (added : List α) :
    (vector.pushAll growth added).buffer = vector.buffer ↔
      vector.elements.length + added.length ≤ vector.capacity := by
  induction added generalizing vector with
  | nil => exact iff_of_true rfl vector.fits
  | cons element rest ih =>
    rw [pushAll_cons, List.length_cons]
    by_cases room : vector.elements.length < vector.capacity
    · obtain ⟨capacity, buffer⟩ := push_of_room growth room element
      have later := ih (vector.push growth element)
      rw [buffer, capacity, push_elements, List.length_append, List.length_singleton] at later
      rw [later]
      omega
    · have moved := (push_of_full growth room element).2
      have later := buffer_le_pushAll growth (vector.push growth element) rest
      omega

theorem pushAll_empty_capacity (added : List α) :
    ((empty : MovingVector α).pushAll growth added).capacity = capacityAfter growth added.length := by
  induction added using List.reverseRecOn with
  | nil => rfl
  | append_singleton earlier element ih =>
    have length : ((empty : MovingVector α).pushAll growth earlier).elements.length = earlier.length := by
      rw [pushAll_elements]
      rfl
    rw [pushAll_append, List.length_append, List.length_singleton, capacityAfter, ← ih, ← length]
    split_ifs with room
    · exact (push_of_room growth room element).1
    · exact (push_of_full growth room element).1

/-- A pointer to an element that was the last one once is good exactly when there was room for all that came
behind it. -/
theorem deref_back (added : List α) (element : α) :
    ((vector.push growth element).pushAll growth added).deref (vector.push growth element).back =
      if vector.elements.length + 1 + added.length ≤ (vector.push growth element).capacity then .ok element
      else .error .undefined := by
  have stays := pushAll_buffer_iff growth (vector.push growth element) added
  rw [push_elements, List.length_append, List.length_singleton] at stays
  unfold deref back
  by_cases room : vector.elements.length + 1 + added.length ≤ (vector.push growth element).capacity
  · rw [if_pos room, if_pos (stays.mpr room).symm]
    simp
  · rw [if_neg room, if_neg fun same => room (stays.mp same.symm)]

end MovingVector
end Foundations
