import AdaptiveAutosar.Foundations.Cursor

/-! # Frames in a byte stream

A receiver that reassembles self-delimiting frames: bytes are appended to a buffer, and while the
buffer begins with a complete frame that frame is cut off and handled. A framing says how long the
frame at the front of a buffer is, once enough of its header is there.

`split` is what the loop takes off a buffer and what it leaves. The frames it takes are determined
by the stream alone (`frames_prefix`), so they do not depend on how the stream was cut into chunks.
-/

namespace Foundations
set_option autoImplicit false

structure Framing (β : Type) where
  /-- The size of the frame a buffer begins with, `none` while the header is incomplete. -/
  size : List β → Option ℕ
  size_pos : ∀ {b n}, size b = some n → 0 < n
  /-- More bytes do not change the size of the first frame. -/
  size_append : ∀ {b n}, size b = some n → ∀ c, size (b ++ c) = some n
  /-- The header lies inside the frame. -/
  size_take : ∀ {b n}, size b = some n → n ≤ b.length → size (b.take n) = some n

namespace Framing
variable {β σ : Type} (F : Framing β)

/-- The complete frame at the front of a buffer and the buffer without it. -/
def first (b : List β) : Option (List β × List β) :=
  match F.size b with
  | none => none
  | some n => if b.length < n then none else some (b.take n, b.drop n)

/-- The receive loop: cut the first frame off, handle it, go on with the rest. -/
def drainAux (handle : σ → List β → Outcome σ) : ℕ → List β → σ → Outcome (List β × σ)
  | 0, b, s => .ok (b, s)
  | fuel + 1, b, s =>
    match F.first b with
    | none => .ok (b, s)
    | some (f, rest) =>
      match handle s f with
      | .ok s' => drainAux handle fuel rest s'
      | .error e => .error e

/-- A frame is not empty, so the loop makes at most as many rounds as the buffer has elements. -/
def drain (handle : σ → List β → Outcome σ) (b : List β) (s : σ) : Outcome (List β × σ) :=
  F.drainAux handle b.length b s

def splitAux : ℕ → List β → List (List β) × List β
  | 0, b => ([], b)
  | fuel + 1, b =>
    match F.first b with
    | none => ([], b)
    | some (f, rest) => (f :: (splitAux fuel rest).1, (splitAux fuel rest).2)

/-- The complete frames at the front of a buffer, and what is left behind them. -/
def split (b : List β) : List (List β) × List β := F.splitAux b.length b

/-- A word that is exactly one frame. -/
def IsFrame (f : List β) : Prop := F.size f = some f.length

variable {F}

/-! ## The first frame -/

theorem first_eq_some {b f rest : List β} (h : F.first b = some (f, rest)) :
    F.IsFrame f ∧ b = f ++ rest := by
  unfold first at h
  cases hs : F.size b with
  | none => simp [hs] at h
  | some n =>
    simp only [hs] at h
    split at h
    · cases h
    · next hn =>
      simp only [Option.some.injEq, Prod.mk.injEq] at h
      obtain ⟨rfl, rfl⟩ := h
      refine ⟨?_, (List.take_append_drop n b).symm⟩
      rw [IsFrame, F.size_take hs (by omega), List.length_take, Nat.min_eq_left (by omega)]

theorem first_frame {f : List β} (h : F.IsFrame f) (rest : List β) :
    F.first (f ++ rest) = some (f, rest) := by
  have hn : ¬ (f ++ rest).length < f.length := by rw [List.length_append]; omega
  simp only [first, F.size_append h rest, hn, if_false, List.take_left, List.drop_left]

theorem IsFrame.length_pos {f : List β} (h : F.IsFrame f) : 0 < f.length := F.size_pos h

theorem first_rest_lt {b f rest : List β} (h : F.first b = some (f, rest)) :
    rest.length < b.length := by
  obtain ⟨hf, rfl⟩ := first_eq_some h
  have := hf.length_pos
  rw [List.length_append]
  omega

theorem first_nil : F.first ([] : List β) = none := by
  cases h : F.first ([] : List β) with
  | none => rfl
  | some p =>
    obtain ⟨f, rest⟩ := p
    exact absurd (first_rest_lt h) (by simp)

/-! ## What the loop takes off a buffer -/

theorem splitAux_eq (fuel : ℕ) (b : List β) (h : b.length ≤ fuel) : F.splitAux fuel b = F.split b := by
  -- every round shortens the buffer, so both fuels are enough for it
  induction hn : b.length using Nat.strongRecOn generalizing b fuel with
  | _ n ih =>
    subst hn
    unfold split
    cases fuel with
    | zero => rw [Nat.le_zero.mp h]
    | succ fuel =>
      cases hb : b.length with
      | zero =>
        have hnil : b = [] := List.length_eq_zero_iff.mp hb
        subst hnil
        simp only [splitAux, first_nil]
      | succ k =>
        simp only [splitAux]
        cases hf : F.first b with
        | none => rfl
        | some p =>
          obtain ⟨f, rest⟩ := p
          have hlt := first_rest_lt hf
          simp only
          rw [ih rest.length hlt fuel rest (by omega) rfl, ih rest.length hlt k rest (by omega) rfl]

theorem split_none {b : List β} (h : F.first b = none) : F.split b = ([], b) := by
  unfold split
  cases b.length <;> simp [splitAux, h]

theorem split_some {b f rest : List β} (h : F.first b = some (f, rest)) :
    F.split b = (f :: (F.split rest).1, (F.split rest).2) := by
  have hlt := first_rest_lt h
  obtain ⟨k, hk⟩ : ∃ k, b.length = k + 1 := ⟨b.length - 1, by omega⟩
  rw [← splitAux_eq (k + 1) b (by omega)]
  simp only [splitAux, h]
  rw [splitAux_eq k rest (by omega)]

/-- Induction along the receive loop. -/
theorem first_induction {P : List β → Prop} (hnone : ∀ b, F.first b = none → P b)
    (hsome : ∀ b f rest, F.first b = some (f, rest) → P rest → P b) (b : List β) : P b := by
  induction hn : b.length using Nat.strongRecOn generalizing b with
  | _ n ih =>
    subst hn
    cases hf : F.first b with
    | none => exact hnone b hf
    | some p =>
      obtain ⟨f, rest⟩ := p
      exact hsome b f rest hf (ih rest.length (first_rest_lt hf) rest rfl)

theorem split_flatten (b : List β) : (F.split b).1.flatten ++ (F.split b).2 = b := by
  induction b using first_induction (F := F) with
  | hnone b h => rw [split_none h]; rfl
  | hsome b f rest h ih =>
    rw [split_some h, List.flatten_cons, List.append_assoc, ih]
    exact (first_eq_some h).2.symm

theorem split_isFrame (b : List β) : ∀ f ∈ (F.split b).1, F.IsFrame f := by
  induction b using first_induction (F := F) with
  | hnone b h => rw [split_none h]; simp
  | hsome b f rest h ih =>
    rw [split_some h]
    intro g hg
    rcases List.mem_cons.mp hg with rfl | hg
    · exact (first_eq_some h).1
    · exact ih g hg

/-- What is left behind begins with no complete frame. -/
theorem split_rest_first (b : List β) : F.first (F.split b).2 = none := by
  induction b using first_induction (F := F) with
  | hnone b h => rw [split_none h]; exact h
  | hsome b f rest h ih => rw [split_some h]; exact ih

/-- Cutting a buffer with more bytes behind it is cutting what was left of it with those bytes. -/
theorem split_append (b c : List β) :
    F.split (b ++ c) =
      ((F.split b).1 ++ (F.split ((F.split b).2 ++ c)).1, (F.split ((F.split b).2 ++ c)).2) := by
  induction b using first_induction (F := F) with
  | hnone b h =>
    rw [split_none h]
    rfl
  | hsome b f rest h ih =>
    obtain ⟨hf, hb⟩ := first_eq_some h
    have hfirst : F.first (b ++ c) = some (f, rest ++ c) := by
      rw [hb, List.append_assoc]
      exact first_frame hf (rest ++ c)
    rw [split_some hfirst, split_some h, ih]
    rfl

theorem drainAux_eq (handle : σ → List β → Outcome σ) (fuel : ℕ) (b : List β) (s : σ) :
    F.drainAux handle fuel b s =
      ((F.splitAux fuel b).1.foldlM handle s).map (fun s' => ((F.splitAux fuel b).2, s')) := by
  induction fuel generalizing b s with
  | zero => rfl
  | succ fuel ih =>
    simp only [drainAux, splitAux]
    cases F.first b with
    | none => rfl
    | some p =>
      obtain ⟨f, rest⟩ := p
      simp only [List.foldlM_cons]
      cases handle s f with
      | error e => rfl
      | ok s' => exact ih rest s'

/-- The loop handles the complete frames in order and leaves the rest in the buffer. -/
theorem drain_eq (handle : σ → List β → Outcome σ) (b : List β) (s : σ) :
    F.drain handle b s = ((F.split b).1.foldlM handle s).map (fun s' => ((F.split b).2, s')) :=
  drainAux_eq handle b.length b s

/-! ## Frames are determined by the stream -/

/-- Two ways to begin a stream with frames agree as far as both go. -/
theorem frames_prefix {fs gs : List (List β)} {t : List β} (hf : ∀ f ∈ fs, F.IsFrame f)
    (hg : ∀ g ∈ gs, F.IsFrame g) (h : fs.flatten ++ t = gs.flatten) :
    ∃ hs, gs = fs ++ hs ∧ t = hs.flatten := by
  induction fs generalizing gs with
  | nil => exact ⟨gs, rfl, by simpa using h⟩
  | cons f fs ih =>
    have hfirst := first_frame (hf f List.mem_cons_self) (fs.flatten ++ t)
    rw [← List.append_assoc, ← List.flatten_cons, h] at hfirst
    cases gs with
    | nil => rw [List.flatten_nil, first_nil] at hfirst; cases hfirst
    | cons g gs =>
      rw [List.flatten_cons, first_frame (hg g List.mem_cons_self)] at hfirst
      simp only [Option.some.injEq, Prod.mk.injEq] at hfirst
      obtain ⟨rfl, hrest⟩ := hfirst
      obtain ⟨hs, rfl, rfl⟩ := ih (fun f' h' => hf f' (List.mem_cons_of_mem _ h'))
        (fun g' h' => hg g' (List.mem_cons_of_mem _ h')) hrest.symm
      exact ⟨hs, rfl, rfl⟩

/-- Whole frames leave nothing in the buffer. -/
theorem flatten_eq_nil_of_first {gs : List (List β)} (hg : ∀ g ∈ gs, F.IsFrame g)
    (h : F.first gs.flatten = none) : gs = [] := by
  cases gs with
  | nil => rfl
  | cons g gs =>
    rw [List.flatten_cons, first_frame (hg g List.mem_cons_self)] at h
    cases h

/-! ## Frames on their way -/

/-- The frames a sender has queued or written and a receiver has not yet handled: those in the
receiver's buffer, on the wire and in the sender's queue make up the stream. -/
structure InTransit (F : Framing β) (buffer wire : List β) (queue frames : List (List β)) : Prop where
  isFrame : ∀ f ∈ frames, F.IsFrame f
  stream : buffer ++ (wire ++ queue.flatten) = frames.flatten
  waiting : F.first buffer = none

namespace InTransit
variable {buffer wire : List β} {queue frames : List (List β)}

theorem nil : InTransit F [] [] [] [] := ⟨by simp, rfl, first_nil⟩

theorem enqueue (h : InTransit F buffer wire queue frames) {fs : List (List β)}
    (hfs : ∀ f ∈ fs, F.IsFrame f) : InTransit F buffer wire (queue ++ fs) (frames ++ fs) := by
  refine ⟨?_, ?_, h.waiting⟩
  · intro g hg
    rcases List.mem_append.mp hg with hg | hg
    · exact h.isFrame g hg
    · exact hfs g hg
  · have hs := h.stream
    rw [List.flatten_append, List.flatten_append, ← hs]
    simp only [List.append_assoc]

theorem send {f : List β} (h : InTransit F buffer wire (f :: queue) frames) :
    InTransit F buffer (wire ++ f) queue frames := by
  refine ⟨h.isFrame, ?_, h.waiting⟩
  rw [← h.stream, List.flatten_cons, List.append_assoc]

/-- However much of the wire is received at once, the buffer gives whole frames off the front. -/
theorem receive (h : InTransit F buffer wire queue frames) (n : ℕ) :
    ∃ handled left, frames = handled ++ left ∧ (F.split (buffer ++ wire.take n)).1 = handled ∧
      InTransit F (F.split (buffer ++ wire.take n)).2 (wire.drop n) queue left := by
  have hsplit := F.split_flatten (buffer ++ wire.take n)
  have hstream : (F.split (buffer ++ wire.take n)).1.flatten ++
      ((F.split (buffer ++ wire.take n)).2 ++ (wire.drop n ++ queue.flatten)) = frames.flatten := by
    rw [← List.append_assoc, hsplit, ← h.stream]
    simp only [List.append_assoc]
    rw [← List.append_assoc (wire.take n), List.take_append_drop]
  obtain ⟨left, hframes, hleft⟩ := frames_prefix (F.split_isFrame _) h.isFrame hstream
  refine ⟨_, left, hframes, rfl, ?_, hleft, F.split_rest_first _⟩
  intro g hg
  refine h.isFrame g ?_
  rw [hframes]
  exact List.mem_append_right _ hg

/-- Nothing is left to handle once the wire and the queue are empty. -/
theorem quiet (h : InTransit F buffer [] [] frames) : frames = [] := by
  have hs := h.stream
  simp only [List.flatten_nil, List.append_nil] at hs
  refine flatten_eq_nil_of_first h.isFrame ?_
  rw [← hs]
  exact h.waiting

end InTransit

end Framing
end Foundations
