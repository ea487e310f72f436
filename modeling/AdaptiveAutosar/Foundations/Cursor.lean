import Mathlib.Data.List.Basic
import Mathlib.Tactic.Common

/-! # Reading a buffer at a moving offset

C++ decoders take a `const std::vector<T> &` and a `std::size_t &offset`. A read through `at` is
checked and throws; a read through `operator[]` or an iterator outside the buffer is undefined.

* `Cursor β α`: a decoder, from a buffer and an offset to a value and the offset after it.
* `Yields m rec r`: on any buffer that holds `rec` at the offset, `m` consumes `rec` and answers `r`.
* `Advances m k`: `m` either moves the offset by `k` or throws `std::out_of_range`.
* `Truncated m n`: with fewer than `n` elements left, `m` throws `std::out_of_range`.
-/

namespace Foundations
set_option autoImplicit false

abbrev Bytes := List UInt8

/-! ## Outcomes of a call -/

/-- A standard exception with the text of its `what()`. -/
inductive Exn where
  | outOfRange (what : String)
  | invalidArgument (what : String)
  | runtimeError (what : String)
  | futureError (what : String)
  | logicError (what : String)
  deriving DecidableEq, Repr

/-- The bytes of a name in the text of an exception. -/
def textOf (name : Bytes) : String := String.ofList (name.map fun c => Char.ofNat c.toNat)

/-- Why a call does not return: an exception, an access outside its container, or a loop that is not
over after the rounds the model gives it. -/
inductive Fault where
  | thrown (e : Exn)
  | undefined
  | diverged
  deriving DecidableEq, Repr

abbrev Outcome (α : Type) := Except Fault α

def ThrowsOutOfRange {α : Type} (x : Outcome α) : Prop :=
  ∃ what, x = .error (.thrown (.outOfRange what))

theorem throwsOutOfRange_error {α : Type} (what : String) :
    ThrowsOutOfRange (.error (.thrown (.outOfRange what)) : Outcome α) := ⟨what, rfl⟩

/-- What a call throws is what its caller throws. -/
theorem ThrowsOutOfRange.bind {α γ : Type} {x : Outcome α} (h : ThrowsOutOfRange x)
    (f : α → Outcome γ) : ThrowsOutOfRange (x >>= f) := by
  obtain ⟨what, rfl⟩ := h
  exact ⟨what, rfl⟩

def ThrowsInvalidArgument {α : Type} (x : Outcome α) : Prop :=
  ∃ what, x = .error (.thrown (.invalidArgument what))

theorem ThrowsInvalidArgument.bind {α γ : Type} {x : Outcome α} (h : ThrowsInvalidArgument x)
    (f : α → Outcome γ) : ThrowsInvalidArgument (x >>= f) := by
  obtain ⟨what, rfl⟩ := h
  exact ⟨what, rfl⟩

/-- A bind that returns has returned from both of its parts. -/
theorem bind_eq_ok {ε α γ : Type} {x : Except ε α} {f : α → Except ε γ} {c : γ} :
    (x >>= f) = .ok c ↔ ∃ a, x = .ok a ∧ f a = .ok c := by
  cases x with
  | error e =>
    constructor
    · intro h; cases h
    · rintro ⟨a, h, _⟩; cases h
  | ok a =>
    constructor
    · intro h; exact ⟨a, rfl, h⟩
    · rintro ⟨a', h, hf⟩; cases h; exact hf

/-- A bind goes outside a container only if one of its parts does. -/
theorem bind_ne_undefined {α γ : Type} {x : Outcome α} {f : α → Outcome γ}
    (hx : x ≠ .error .undefined) (hf : ∀ a, f a ≠ .error .undefined) :
    (x >>= f) ≠ .error .undefined := by
  cases x with
  | error fault =>
    intro h
    apply hx
    rw [Except.error.inj h]
  | ok a => exact hf a

/-! ## Cursors -/

def Cursor (β α : Type) : Type := List β → ℕ → Outcome (α × ℕ)

namespace Cursor
variable {β α γ : Type}

instance : Monad (Cursor β) where
  pure a := fun _ offset => .ok (a, offset)
  bind m f := fun buffer offset =>
    match m buffer offset with
    | .ok (a, offset') => f a buffer offset'
    | .error e => .error e

/-- `buffer.at(offset++)`. -/
def checked : Cursor β β := fun buffer offset =>
  match buffer[offset]? with
  | some b => .ok (b, offset + 1)
  | none => .error (.thrown (.outOfRange "vector::_M_range_check"))

/-- `buffer[offset++]`. -/
def unchecked : Cursor β β := fun buffer offset =>
  match buffer[offset]? with
  | some b => .ok (b, offset + 1)
  | none => .error .undefined

/-- The next `n` elements through a pointer or an iterator. -/
def span (n : ℕ) : Cursor β (List β) := fun buffer offset =>
  if offset + n ≤ buffer.length then .ok ((buffer.drop offset).take n, offset + n)
  else .error .undefined

/-- `offset += n`. -/
def skip (n : ℕ) : Cursor β Unit := fun _ offset => .ok ((), offset + n)

/-- A computation that does not look at the buffer. -/
def lift (x : Outcome α) : Cursor β α := fun _ offset => x.map (fun a => (a, offset))

theorem bind_apply_ok {m : Cursor β α} {f : α → Cursor β γ} {buffer : List β} {offset o' : ℕ} {a : α}
    (h : m buffer offset = .ok (a, o')) : (m >>= f) buffer offset = f a buffer o' := by
  change (match m buffer offset with
    | .ok (a, o') => f a buffer o'
    | .error e => .error e) = _
  rw [h]

theorem bind_apply_error {m : Cursor β α} {f : α → Cursor β γ} {buffer : List β} {offset : ℕ}
    {e : Fault} (h : m buffer offset = .error e) : (m >>= f) buffer offset = .error e := by
  change (match m buffer offset with
    | .ok (a, o') => f a buffer o'
    | .error e => .error e) = _
  rw [h]

theorem bind_ok_inv {m : Cursor β α} {f : α → Cursor β γ} {buffer : List β} {offset o'' : ℕ} {c : γ}
    (h : (m >>= f) buffer offset = .ok (c, o'')) :
    ∃ a o', m buffer offset = .ok (a, o') ∧ f a buffer o' = .ok (c, o'') := by
  cases hm : m buffer offset with
  | error e => rw [bind_apply_error hm] at h; cases h
  | ok r =>
    obtain ⟨a, o'⟩ := r
    rw [bind_apply_ok hm] at h
    exact ⟨a, o', rfl, h⟩

/-! ## What a decoder makes of a record -/

/-- On every buffer that holds `rec` at the offset, `m` consumes exactly `rec` and answers `r`. -/
def Yields (m : Cursor β α) (rec : List β) (r : Outcome α) : Prop :=
  ∀ pre post : List β, m (pre ++ rec ++ post) pre.length = r.map (fun a => (a, pre.length + rec.length))

theorem Yields.pure (a : α) : Yields (Pure.pure a : Cursor β α) [] (.ok a) := fun _ _ => rfl

theorem Yields.lift (x : Outcome α) : Yields (lift x : Cursor β α) [] x := fun _ _ => rfl

theorem Yields.skip (rec : List β) : Yields (skip rec.length) rec (.ok ()) := fun _ _ => rfl

theorem getElem?_record (pre post : List β) (b : β) : (pre ++ [b] ++ post)[pre.length]? = some b := by
  simp

theorem Yields.checked (b : β) : Yields checked [b] (.ok b) := by
  intro pre post
  simp only [Cursor.checked, getElem?_record]
  rfl

theorem Yields.unchecked (b : β) : Yields unchecked [b] (.ok b) := by
  intro pre post
  simp only [Cursor.unchecked, getElem?_record]
  rfl

theorem Yields.span (rec : List β) : Yields (span rec.length) rec (.ok rec) := by
  intro pre post
  have inside : pre.length + rec.length ≤ (pre ++ rec ++ post).length := by
    simp only [List.length_append]
    omega
  have cut : ((pre ++ rec ++ post).drop pre.length).take rec.length = rec := by
    rw [List.append_assoc, List.drop_left, List.take_left]
  simp only [Cursor.span, if_pos inside, cut]
  rfl

/-- After a record is consumed, the rest of the decoder runs right behind it. -/
theorem Yields.then {m : Cursor β α} {rec : List β} {a : α} (h : Yields m rec (.ok a))
    (f : α → Cursor β γ) (pre post : List β) :
    (m >>= f) (pre ++ rec ++ post) pre.length =
      f a (pre ++ rec ++ post) (pre.length + rec.length) :=
  bind_apply_ok (h pre post)

theorem Yields.bind {m : Cursor β α} {f : α → Cursor β γ} {rec rec' : List β} {a : α} {r : Outcome γ}
    (hm : Yields m rec (.ok a)) (hf : Yields (f a) rec' r) : Yields (m >>= f) (rec ++ rec') r := by
  intro pre post
  have h := hm.then f pre (rec' ++ post)
  have h' := hf (pre ++ rec) post
  simp only [List.append_assoc, List.length_append] at h h' ⊢
  rw [h, h', Nat.add_assoc]

theorem Yields.map {m : Cursor β α} {rec : List β} {r : Outcome α} (h : Yields m rec r) (g : α → γ) :
    Yields (g <$> m) rec (r.map g) := by
  intro pre post
  cases r with
  | error e => exact bind_apply_error (h pre post)
  | ok a => exact bind_apply_ok (h pre post)

/-! ## Truncated buffers -/

def Advances (m : Cursor β α) (k : ℕ) : Prop :=
  ∀ buffer offset, ThrowsOutOfRange (m buffer offset) ∨ ∃ a, m buffer offset = .ok (a, offset + k)

def Truncated (m : Cursor β α) (n : ℕ) : Prop :=
  ∀ buffer offset, buffer.length < offset + n → ThrowsOutOfRange (m buffer offset)

theorem Advances.checked : Advances (checked : Cursor β β) 1 := by
  intro buffer offset
  unfold Cursor.checked
  cases buffer[offset]? with
  | none => exact .inl (throwsOutOfRange_error _)
  | some b => exact .inr ⟨b, rfl⟩

theorem Advances.skip (n : ℕ) : Advances (skip n : Cursor β Unit) n :=
  fun _ _ => .inr ⟨(), rfl⟩

theorem Advances.pure (a : α) : Advances (Pure.pure a : Cursor β α) 0 :=
  fun _ _ => .inr ⟨a, rfl⟩

theorem Advances.bind {m : Cursor β α} {f : α → Cursor β γ} {j k : ℕ} (hm : Advances m j)
    (hf : ∀ a, Advances (f a) k) : Advances (m >>= f) (j + k) := by
  intro buffer offset
  rcases hm buffer offset with ⟨what, h⟩ | ⟨a, h⟩
  · exact .inl ⟨what, bind_apply_error h⟩
  · rw [bind_apply_ok h, ← Nat.add_assoc]
    exact hf a buffer (offset + j)

theorem Truncated.checked : Truncated (checked : Cursor β β) 1 := by
  intro buffer offset h
  have hn : buffer[offset]? = none := List.getElem?_eq_none (by omega)
  simp only [Cursor.checked, hn]
  exact throwsOutOfRange_error _

theorem Truncated.throw (what : String) (n : ℕ) :
    Truncated (lift (.error (.thrown (.outOfRange what))) : Cursor β α) n :=
  fun _ _ _ => ⟨what, rfl⟩

/-- A decoder whose first part already runs off the buffer. -/
theorem Truncated.bind {m : Cursor β α} {n : ℕ} (hm : Truncated m n) (f : α → Cursor β γ) :
    Truncated (m >>= f) n := by
  intro buffer offset h
  obtain ⟨what, hw⟩ := hm buffer offset h
  exact ⟨what, bind_apply_error hw⟩

/-- A decoder whose first part moves by `k` and whose rest needs `n` more elements. -/
theorem Advances.truncated {m : Cursor β α} {f : α → Cursor β γ} {k n : ℕ} (hm : Advances m k)
    (hf : ∀ a, Truncated (f a) n) : Truncated (m >>= f) (k + n) := by
  intro buffer offset h
  rcases hm buffer offset with ⟨what, hw⟩ | ⟨a, ha⟩
  · exact ⟨what, bind_apply_error hw⟩
  · rw [bind_apply_ok ha]
    exact hf a buffer (offset + k) (by omega)

theorem Truncated.map {m : Cursor β α} {n : ℕ} (hm : Truncated m n) (g : α → γ) :
    Truncated (g <$> m) n := hm.bind _

/-! ## Records in a buffer -/

def HoldsAt (buffer : List β) (offset : ℕ) (rec : List β) : Prop :=
  ∃ pre post, buffer = pre ++ rec ++ post ∧ pre.length = offset

theorem HoldsAt.length_le {buffer rec : List β} {offset : ℕ} (h : HoldsAt buffer offset rec) :
    offset + rec.length ≤ buffer.length := by
  obtain ⟨pre, post, rfl, rfl⟩ := h
  simp only [List.length_append]
  omega

theorem Yields.at {m : Cursor β α} {rec : List β} {r : Outcome α} (h : Yields m rec r)
    {buffer : List β} {offset : ℕ} (hb : HoldsAt buffer offset rec) :
    m buffer offset = r.map (fun a => (a, offset + rec.length)) := by
  obtain ⟨pre, post, rfl, rfl⟩ := hb
  exact h pre post

theorem Yields.then_at {m : Cursor β α} {rec : List β} {a : α} (h : Yields m rec (.ok a))
    (f : α → Cursor β γ) {buffer : List β} {offset : ℕ} (hb : HoldsAt buffer offset rec) :
    (m >>= f) buffer offset = f a buffer (offset + rec.length) :=
  bind_apply_ok (h.at hb)

theorem HoldsAt.append {buffer rec rec' : List β} {offset : ℕ} (h : HoldsAt buffer offset (rec ++ rec')) :
    HoldsAt buffer offset rec ∧ HoldsAt buffer (offset + rec.length) rec' := by
  obtain ⟨pre, post, rfl, rfl⟩ := h
  refine ⟨⟨pre, rec' ++ post, ?_, rfl⟩, ⟨pre ++ rec, post, ?_, ?_⟩⟩
  · simp only [List.append_assoc]
  · simp only [List.append_assoc]
  · rw [List.length_append]

/-- The record at the front of a buffer. -/
theorem HoldsAt.exists_front {buffer rec : List β} (h : HoldsAt buffer 0 rec) : ∃ rest, buffer = rec ++ rest := by
  obtain ⟨pre, post, rfl, zero⟩ := h
  rw [List.length_eq_zero_iff.mp zero]
  exact ⟨post, by rw [List.nil_append]⟩

theorem HoldsAt.eq {buffer rec rec' : List β} {offset : ℕ} (h : HoldsAt buffer offset rec)
    (h' : HoldsAt buffer offset rec') (hl : rec.length = rec'.length) : rec = rec' := by
  obtain ⟨pre, post, rfl, hp⟩ := h
  obtain ⟨pre', post', hb, hp'⟩ := h'
  rw [List.append_assoc, List.append_assoc] at hb
  exact (List.append_inj (List.append_inj hb (hp.trans hp'.symm)).2 hl).1

/-- A buffer with `n` elements left at an offset holds a record of that length there. -/
theorem exists_record {buffer : List β} {offset n : ℕ} (h : offset + n ≤ buffer.length) :
    ∃ rec, HoldsAt buffer offset rec ∧ rec.length = n := by
  refine ⟨(buffer.drop offset).take n,
    ⟨buffer.take offset, (buffer.drop offset).drop n, ?_, ?_⟩, ?_⟩
  · rw [List.append_assoc, List.take_append_drop, List.take_append_drop]
  · rw [List.length_take]; omega
  · rw [List.length_take, List.length_drop]; omega

end Cursor
end Foundations
