import Mathlib.Data.List.Basic
import Mathlib.Tactic.Common

/-! # Packets of one size

A sender pads every message to the size of a packet, and a receiver takes that many elements off the stream
at a time. What a message is padded with is not known.
-/

namespace Foundations
set_option autoImplicit false

/-- The stream consists of packets, each with one of the messages at its front. -/
inductive Packets {β : Type} (size : ℕ) : List (List β) → List β → Prop where
  | nil : Packets size [] []
  | cons (message padding : List β) {messages : List (List β)} {stream : List β}
      (whole : (message ++ padding).length = size) (rest : Packets size messages stream) :
      Packets size (message :: messages) (message ++ padding ++ stream)

namespace Packets
variable {β : Type} {size : ℕ} {messages : List (List β)} {stream : List β}

/-- One packet more behind the others. -/
theorem concat (packets : Packets size messages stream) (message padding : List β)
    (whole : (message ++ padding).length = size) :
    Packets size (messages ++ [message]) (stream ++ (message ++ padding)) := by
  induction packets with
  | nil =>
    have single : Packets size [message] (message ++ padding ++ []) := .cons message padding whole .nil
    rwa [List.append_nil] at single
  | cons first own fits _ ih =>
    rw [List.cons_append, List.append_assoc]
    exact .cons first own fits ih

/-- What a receiver takes that takes a whole packet. -/
theorem take {message : List β} (packets : Packets size (message :: messages) stream) :
    ∃ padding, stream.take size = message ++ padding ∧ Packets size messages (stream.drop size) := by
  cases packets with
  | cons _ padding whole rest =>
    refine ⟨padding, List.take_left' whole, ?_⟩
    rwa [List.drop_left' whole]

theorem length_eq (packets : Packets size messages stream) : stream.length = messages.length * size := by
  induction packets with
  | nil => exact (Nat.zero_mul size).symm
  | cons message padding whole rest ih =>
    rw [List.length_append, whole, ih, List.length_cons, Nat.succ_mul, Nat.add_comm]

/-- Where there is a message, there is a whole packet. -/
theorem size_le {message : List β} (packets : Packets size (message :: messages) stream) : size ≤ stream.length := by
  rw [packets.length_eq, List.length_cons, Nat.succ_mul]
  exact Nat.le_add_left size _

end Packets
end Foundations
