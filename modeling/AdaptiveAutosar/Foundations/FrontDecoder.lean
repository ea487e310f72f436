import AdaptiveAutosar.Foundations.Framing

/-! # Messages at the front of a buffer

A decoder that takes one message from the front of the bytes it is given and leaves what is behind it alone. A message
that it takes whatever stands behind the received bytes lies inside of these (`prefix_of_padded`).
-/

namespace Foundations
set_option autoImplicit false

structure FrontDecoder (β : Type) where
  decode : List β → Option (List β)
  decode_prefix : ∀ {b m}, decode b = some m → m <+: b
  /-- What stands behind a message does not matter. -/
  decode_append : ∀ {b m}, decode b = some m → ∀ rest, decode (m ++ rest) = some m

namespace FrontDecoder
variable {β : Type} (D : FrontDecoder β)

/-- A word that is exactly one message. -/
def IsMessage (m : List β) : Prop := D.decode m = some m

variable {D}

theorem IsMessage.decode_append {m : List β} (h : D.IsMessage m) (rest : List β) : D.decode (m ++ rest) = some m :=
  D.decode_append h rest

theorem prefix_of_padded {x y : β} (different : x ≠ y) {c m : List β} {n : ℕ}
    (h : ∀ padding : List β, padding.length = n → D.decode (c ++ padding) = some m) : m <+: c := by
  have behind (z : β) : m <+: c ++ List.replicate n z := D.decode_prefix (h _ List.length_replicate)
  rcases Nat.le_total m.length c.length with short | long
  · exact List.prefix_of_prefix_length_le (behind x) (List.prefix_append c _) short
  · obtain ⟨k, rfl⟩ := List.prefix_of_prefix_length_le (List.prefix_append c _) (behind x) long
    cases k with
    | nil => exact (List.append_nil c).symm ▸ List.prefix_rfl
    | cons z k =>
      -- the first element behind `c` would have to be both of the paddings
      have padded (w : β) : z = w :=
        List.eq_of_mem_replicate (((List.prefix_append_right_inj c).mp (behind w)).subset List.mem_cons_self)
      exact absurd ((padded x).symm.trans (padded y)) different

/-- The decoder that takes the first frame if its content is accepted. -/
def ofFraming (F : Framing β) (accepts : List β → Bool) : FrontDecoder β where
  decode b :=
    match F.first b with
    | some (f, _) => if accepts f then some f else none
    | none => none
  decode_prefix := by
    intro b m h
    split at h
    · next f rest first =>
      split_ifs at h
      cases h
      exact ⟨rest, (Framing.first_eq_some first).2.symm⟩
    · cases h
  decode_append := by
    intro b m h rest
    split at h
    · next f _ first =>
      split_ifs at h with accepted
      cases h
      rw [Framing.first_frame (Framing.first_eq_some first).1 rest]
      exact if_pos accepted
    · cases h

/-- A frame that is accepted is a message. -/
theorem isMessage_ofFraming {F : Framing β} {accepts : List β → Bool} {f : List β} (frame : F.IsFrame f)
    (accepted : accepts f = true) : (ofFraming F accepts).IsMessage f := by
  have first := Framing.first_frame frame []
  rw [List.append_nil] at first
  unfold IsMessage ofFraming
  dsimp only
  rw [first]
  exact if_pos accepted

end FrontDecoder
end Foundations
