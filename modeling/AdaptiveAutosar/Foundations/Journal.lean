import Mathlib.Data.List.Basic
import Mathlib.Tactic.Common

/-! # A journal in a keyed store

Messages are written one after another, each under the key of its number. Two numbers may share a key, as those
of a counter that wraps do, and then the later message is the one that is there.

* `under keyOf key messages`: the message under a key. The messages are the newest first.
* `Holds keyOf before messages after`: a store behind the messages, where `before` is the store in front of them.
-/

namespace Foundations.Journal
set_option autoImplicit false
variable {Key Message : Type} [DecidableEq Key] {keyOf : ℕ → Key} {key : Key} {messages : List Message}

def under (keyOf : ℕ → Key) (key : Key) : List Message → Option Message
  | [] => none
  | message :: older => if keyOf older.length = key then some message else under keyOf key older

def Holds (keyOf : ℕ → Key) (before : Key → Option Message) (messages : List Message)
    (after : Key → Option Message) : Prop :=
  ∀ key, after key = (under keyOf key messages).or (before key)

theorem under_eq_none_iff : under keyOf key messages = none ↔ ∀ n < messages.length, keyOf n ≠ key := by
  induction messages with
  | nil => exact iff_of_true rfl fun n beyond => absurd beyond (Nat.not_lt_zero n)
  | cons message older ih =>
    unfold under
    by_cases here : keyOf older.length = key
    · rw [if_pos here]
      exact iff_of_false (Option.some_ne_none _) fun other => other _ (Nat.lt_succ_self _) here
    · rw [if_neg here, ih, List.length_cons]
      constructor
      · intro other n bound
        rcases Nat.lt_succ_iff_lt_or_eq.mp bound with earlier | rfl
        · exact other n earlier
        · exact here
      · exact fun other n bound => other n (Nat.lt_succ_of_lt bound)

/-- The message under the key of a number, when no later one has that key. -/
theorem under_keyOf {n : ℕ} (bound : n < messages.length)
    (last : ∀ m < messages.length, n < m → keyOf m ≠ keyOf n) :
    under keyOf (keyOf n) messages = messages.reverse[n]? := by
  induction messages with
  | nil => cases bound
  | cons message older ih =>
    rw [List.length_cons] at bound last
    rw [List.reverse_cons]
    rcases Nat.lt_succ_iff_lt_or_eq.mp bound with earlier | rfl
    · rw [List.getElem?_append_left (by rwa [List.length_reverse])]
      unfold under
      rw [if_neg (last _ (Nat.lt_succ_self _) earlier)]
      exact ih earlier fun m later => last m (Nat.lt_succ_of_lt later)
    · rw [List.getElem?_append_right (Nat.le_of_eq List.length_reverse), List.length_reverse, Nat.sub_self]
      exact if_pos rfl

namespace Holds
variable {before after after' : Key → Option Message} {message : Message}

theorem nil (keyOf : ℕ → Key) (before : Key → Option Message) : Holds keyOf before [] before := fun _ => rfl

/-- The next message goes under the next number. -/
theorem write (holds : Holds keyOf before messages after) (written : after' (keyOf messages.length) = some message)
    (others : ∀ key, key ≠ keyOf messages.length → after' key = after key) :
    Holds keyOf before (message :: messages) after' := by
  intro key
  rw [under]
  by_cases here : key = keyOf messages.length
  · rw [if_pos here.symm, here, written, Option.some_or]
  · rw [if_neg (Ne.symm here), others key here]
    exact holds key

/-- A key of no number keeps what it had. -/
theorem kept (holds : Holds keyOf before messages after) (other : ∀ n < messages.length, keyOf n ≠ key) :
    after key = before key := by
  rw [holds key, under_eq_none_iff.mpr other, Option.none_or]

theorem numbered (holds : Holds keyOf before messages after) {n : ℕ} (bound : n < messages.length)
    (last : ∀ m < messages.length, n < m → keyOf m ≠ keyOf n) : after (keyOf n) = messages.reverse[n]? := by
  rw [holds, under_keyOf bound last, List.getElem?_eq_getElem (by rwa [List.length_reverse]), Option.some_or]

end Holds
end Foundations.Journal
