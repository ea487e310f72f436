import Mathlib.Data.List.Basic
import Mathlib.Data.List.Induction
import Mathlib.Tactic.Common

/-! # Runs of a transition function

`step` answers an input in a state with an output and the next state, or faults and ends the run.
A trace holds the steps taken, the newest first, each with the state it was taken in.
-/

namespace Foundations
set_option autoImplicit false

structure Taken (σ ι ο : Type) where
  before : σ
  input : ι
  output : ο

/-- `taken` is the newest step of the trace that is `p`, with the steps after and before it. -/
structure Newest {σ ι ο : Type} (p : Taken σ ι ο → Prop) (trace newer : List (Taken σ ι ο))
    (taken : Taken σ ι ο) (older : List (Taken σ ι ο)) : Prop where
  split : trace = newer ++ taken :: older
  holds : p taken
  since : ∀ later ∈ newer, ¬ p later

namespace Newest
variable {σ ι ο : Type} {p : Taken σ ι ο → Prop} {trace newer older : List (Taken σ ι ο)}
  {taken next : Taken σ ι ο}

theorem head (h : p taken) (trace : List (Taken σ ι ο)) : Newest p (taken :: trace) [] taken trace :=
  ⟨rfl, h, fun _ h => by cases h⟩

theorem cons (h : Newest p trace newer taken older) (other : ¬ p next) :
    Newest p (next :: trace) (next :: newer) taken older :=
  ⟨congrArg (next :: ·) h.split, h.holds, List.forall_mem_cons.mpr ⟨other, h.since⟩⟩

/-- When the last step taken is `p`, it is the newest one. -/
theorem eq_head (h : Newest p (next :: trace) newer taken older) (holds : p next) :
    newer = [] ∧ taken = next ∧ older = trace := by
  cases newer with
  | nil =>
    obtain ⟨rfl, rfl⟩ := List.cons.inj h.split
    exact ⟨rfl, rfl, rfl⟩
  | cons later rest =>
    obtain ⟨rfl, -⟩ := List.cons.inj h.split
    exact absurd holds (h.since next List.mem_cons_self)

end Newest

/-- When an input keeps a good history good exactly when it is allowed behind it, every beginning of a
history is good exactly when every input of it is allowed behind the ones before. -/
theorem prefixes_iff {α : Type} {good : List α → Prop} {allowed : List α → α → Prop} (start : good [])
    (here : ∀ older next, good older → (good (older ++ [next]) ↔ allowed older next)) (inputs : List α) :
    (∀ older, older <+: inputs → good older) ↔
      ∀ older next, older ++ [next] <+: inputs → allowed older next := by
  constructor
  · intro all older next isPrefix
    have before := all older ((List.prefix_append older [next]).trans isPrefix)
    exact (here older next before).mp (all _ isPrefix)
  · intro every older
    induction older using List.reverseRecOn with
    | nil => exact fun _ => start
    | append_singleton older next ih =>
      intro isPrefix
      have before := ih ((List.prefix_append older [next]).trans isPrefix)
      exact (here older next before).mpr (every older next isPrefix)

variable {σ ι ο ε : Type} {step : σ → ι → Except ε (ο × σ)} {init : σ}

inductive Run (step : σ → ι → Except ε (ο × σ)) (init : σ) : List (Taken σ ι ο) → σ → Prop where
  | start : Run step init [] init
  | next {trace : List (Taken σ ι ο)} {state state' : σ} {input : ι} {output : ο}
      (run : Run step init trace state) (taken : step state input = .ok (output, state')) :
      Run step init (⟨state, input, output⟩ :: trace) state'

namespace Run

/-- `good` holds in the state reached and in every state the run came through. -/
def Throughout (good : σ → Prop) (trace : List (Taken σ ι ο)) (state : σ) : Prop :=
  good state ∧ ∀ taken ∈ trace, good taken.before

/-- Every input of the run is `allowed` in the state it is given in. -/
def Every (allowed : σ → ι → Prop) (trace : List (Taken σ ι ο)) : Prop :=
  ∀ taken ∈ trace, allowed taken.before taken.input

instance (allowed : σ → ι → Prop) [∀ state input, Decidable (allowed state input)]
    (trace : List (Taken σ ι ο)) : Decidable (Every allowed trace) :=
  inferInstanceAs (Decidable (∀ taken ∈ trace, allowed taken.before taken.input))

theorem every_nil (allowed : σ → ι → Prop) : Every allowed ([] : List (Taken σ ι ο)) := by
  intro taken h
  cases h

theorem every_cons {allowed : σ → ι → Prop} {head : Taken σ ι ο} {trace : List (Taken σ ι ο)} :
    Every allowed (head :: trace) ↔ allowed head.before head.input ∧ Every allowed trace :=
  List.forall_mem_cons

/-- What holds at the start and is kept by every allowed step holds, with the trace so far, at the
end of every run of allowed steps. -/
theorem invariant {holds : List (Taken σ ι ο) → σ → Prop} {allowed : σ → ι → Prop}
    (start : holds [] init)
    (next : ∀ trace state input output state', holds trace state → allowed state input →
      step state input = .ok (output, state') → holds (⟨state, input, output⟩ :: trace) state')
    {trace : List (Taken σ ι ο)} {state : σ} (run : Run step init trace state)
    (every : Every allowed trace) : holds trace state := by
  induction run with
  | start => exact start
  | next _ taken ih =>
    obtain ⟨here, earlier⟩ := every_cons.mp every
    exact next _ _ _ _ _ (ih earlier) here taken

/-- What holds at the start and is kept by every step holds in every state reached. -/
theorem reached {inv : σ → Prop} (start : inv init)
    (keeps : ∀ state input output state', inv state → step state input = .ok (output, state') →
      inv state')
    {trace : List (Taken σ ι ο)} {state : σ} (run : Run step init trace state) : inv state := by
  induction run with
  | start => exact start
  | next _ taken ih => exact keeps _ _ _ _ ih taken

/-- When every step from an invariant keeps it and is `good`, so are all the steps of a run. -/
theorem reached_all {inv : σ → Prop} {good : Taken σ ι ο → Prop} (start : inv init)
    (next : ∀ state input output state', inv state → step state input = .ok (output, state') →
      inv state' ∧ good ⟨state, input, output⟩)
    {trace : List (Taken σ ι ο)} {state : σ} (run : Run step init trace state) :
    inv state ∧ ∀ taken ∈ trace, good taken := by
  induction run with
  | start => exact ⟨start, fun _ h => by cases h⟩
  | next _ taken ih =>
    obtain ⟨holds, earlier⟩ := ih
    obtain ⟨keeps, here⟩ := next _ _ _ _ holds taken
    exact ⟨keeps, List.forall_mem_cons.mpr ⟨here, earlier⟩⟩

/-- A step leads to one state only. -/
theorem forall_after_iff {holds : σ → Prop} {state state' : σ} {input : ι} {output : ο}
    (taken : step state input = .ok (output, state')) :
    (∀ after, step state input = .ok (output, after) → holds after) ↔ holds state' := by
  constructor
  · exact fun all => all state' taken
  · intro here after again
    cases taken.symm.trans again
    exact here

theorem taken_step {trace : List (Taken σ ι ο)} {state : σ} (run : Run step init trace state)
    {taken : Taken σ ι ο} (there : taken ∈ trace) :
    ∃ state', step taken.before taken.input = .ok (taken.output, state') := by
  induction run with
  | start => cases there
  | next _ last ih =>
    rcases List.mem_cons.mp there with rfl | earlier
    · exact ⟨_, last⟩
    · exact ih earlier

/-- The run up to one of its steps. -/
theorem before {newer older : List (Taken σ ι ο)} {taken : Taken σ ι ο} {state : σ}
    (run : Run step init (newer ++ taken :: older) state) : Run step init older taken.before := by
  induction newer generalizing state with
  | nil =>
    cases run with
    | next earlier _ => exact earlier
  | cons _ _ ih =>
    cases run with
    | next earlier _ => exact ih earlier

/-- When every step from a state that is `inv` keeps it, and from a good one stays in `good` exactly
when it is allowed, a run stays in `good` exactly when all its steps are allowed. -/
theorem stays_iff_every {inv good : σ → Prop} {allowed : σ → ι → Prop} (start : inv init)
    (start_good : good init)
    (keeps : ∀ state input output state', inv state → step state input = .ok (output, state') →
      inv state')
    (here : ∀ state input output state', inv state → good state →
      step state input = .ok (output, state') → (good state' ↔ allowed state input))
    {trace : List (Taken σ ι ο)} {state : σ} (run : Run step init trace state) :
    Throughout good trace state ↔ Every allowed trace := by
  have both : inv state ∧ (Throughout good trace state ↔ Every allowed trace) := by
    induction run with
    | start => exact ⟨start, fun _ => every_nil allowed, fun _ => ⟨start_good, fun _ h => by cases h⟩⟩
    | next run taken ih =>
      obtain ⟨invariant, ih⟩ := ih
      refine ⟨keeps _ _ _ _ invariant taken, ?_⟩
      rw [every_cons, ← ih]
      constructor
      · rintro ⟨last, earlier⟩
        obtain ⟨before, older⟩ := List.forall_mem_cons.mp earlier
        exact ⟨(here _ _ _ _ invariant before taken).mp last, before, older⟩
      · rintro ⟨allowed_here, before, older⟩
        exact ⟨(here _ _ _ _ invariant before taken).mpr allowed_here,
          List.forall_mem_cons.mpr ⟨before, older⟩⟩
  exact both.2

/-- When the allowed steps keep `good` and every other step ends outside it, a run stays in `good`
exactly when all its steps are allowed. -/
theorem throughout_iff {good : σ → Prop} {allowed : σ → ι → Prop} (start : good init)
    (keeps : ∀ state input output state', good state → allowed state input →
      step state input = .ok (output, state') → good state')
    (breaks : ∀ state input output state', ¬ allowed state input →
      step state input = .ok (output, state') → ¬ good state')
    {trace : List (Taken σ ι ο)} {state : σ} (run : Run step init trace state) :
    Throughout good trace state ↔ Every allowed trace := by
  let anywhere (_ : σ) : Prop := True
  have start_anywhere : anywhere init := trivial
  refine stays_iff_every start_anywhere start (fun _ _ _ _ _ _ => trivial) ?_ run
  intro state input output state' _ before taken
  constructor
  · intro after
    by_contra outside
    exact breaks _ _ _ _ outside taken after
  · intro here
    exact keeps _ _ _ _ before here taken

/-- When the allowed steps keep an invariant that implies `good`, and from it every other step ends
outside `good`, a run stays in `good` exactly when all its steps are allowed. -/
theorem throughout_iff_every {inv good : σ → Prop} {allowed : σ → ι → Prop}
    (implies : ∀ state, inv state → good state) (start : inv init)
    (keeps : ∀ state input output state', inv state → allowed state input →
      step state input = .ok (output, state') → inv state')
    (breaks : ∀ state input output state', inv state → ¬ allowed state input →
      step state input = .ok (output, state') → ¬ good state')
    {trace : List (Taken σ ι ο)} {state : σ} (run : Run step init trace state) :
    Throughout good trace state ↔ Every allowed trace := by
  have both : (Throughout good trace state ↔ Every allowed trace) ∧ (Every allowed trace → inv state) := by
    induction run with
    | start =>
      exact ⟨iff_of_true ⟨implies _ start, fun _ h => by cases h⟩ (every_nil allowed), fun _ => start⟩
    | next run taken ih =>
      obtain ⟨stays, holds⟩ := ih
      rw [every_cons]
      refine ⟨⟨?_, ?_⟩, ?_⟩
      · rintro ⟨last, earlier⟩
        have every := stays.mp (List.forall_mem_cons.mp earlier)
        refine ⟨?_, every⟩
        by_contra outside
        exact breaks _ _ _ _ (holds every) outside taken last
      · rintro ⟨here, every⟩
        exact ⟨implies _ (keeps _ _ _ _ (holds every) here taken),
          List.forall_mem_cons.mpr (stays.mpr every)⟩
      · rintro ⟨here, every⟩
        exact keeps _ _ _ _ (holds every) here taken
  exact both.1

/-- The same for a step that is always taken from an invariant. -/
theorem throughout_iff_decided {inv good : σ → Prop} {allowed : σ → ι → Prop}
    (implies : ∀ state, inv state → good state) (start : inv init)
    (decided : ∀ state input, inv state → ∃ output state', step state input = .ok (output, state') ∧
      (allowed state input → inv state') ∧ (¬ allowed state input → ¬ good state'))
    {trace : List (Taken σ ι ο)} {state : σ} (run : Run step init trace state) :
    Throughout good trace state ↔ Every allowed trace := by
  apply throughout_iff_every implies start ?_ ?_ run
  · intro state input output state' holds here taken
    obtain ⟨_, _, taken', keeps, -⟩ := decided state input holds
    cases taken.symm.trans taken'
    exact keeps here
  · intro state input output state' holds outside taken
    obtain ⟨_, _, taken', -, breaks⟩ := decided state input holds
    cases taken.symm.trans taken'
    exact breaks outside

/-- Where the steps taken are as assumed: when every allowed one from a state that is `inv` keeps it, and
every one from it is `good` exactly when its input is allowed, all the steps of a run are `good` exactly when
all its inputs are allowed. -/
theorem all_iff_allowed_of {inv : σ → Prop} {good : Taken σ ι ο → Prop} {assumed allowed : σ → ι → Prop}
    (start : inv init)
    (keeps : ∀ state input output state', inv state → assumed state input → allowed state input →
      step state input = .ok (output, state') → inv state')
    (here : ∀ state input output state', inv state → assumed state input →
      step state input = .ok (output, state') → (good ⟨state, input, output⟩ ↔ allowed state input))
    {trace : List (Taken σ ι ο)} {state : σ} (run : Run step init trace state)
    (assumes : Every assumed trace) : (∀ taken ∈ trace, good taken) ↔ Every allowed trace := by
  have both : (Every allowed trace → inv state) ∧ ((∀ taken ∈ trace, good taken) ↔ Every allowed trace) := by
    induction run with
    | start => exact ⟨fun _ => start, fun _ => every_nil allowed, fun _ _ h => by cases h⟩
    | next run taken ih =>
      obtain ⟨assumed_here, earlier⟩ := every_cons.mp assumes
      obtain ⟨holds, ih⟩ := ih earlier
      rw [List.forall_mem_cons, every_cons, ih]
      constructor
      · intro every
        exact keeps _ _ _ _ (holds every.2) assumed_here every.1 taken
      · exact and_congr_left fun every => here _ _ _ _ (holds every) assumed_here taken
  exact both.2

/-- The same without an assumption. -/
theorem all_iff_allowed {inv : σ → Prop} {good : Taken σ ι ο → Prop} {allowed : σ → ι → Prop}
    (start : inv init)
    (keeps : ∀ state input output state', inv state → allowed state input →
      step state input = .ok (output, state') → inv state')
    (here : ∀ state input output state', inv state → step state input = .ok (output, state') →
      (good ⟨state, input, output⟩ ↔ allowed state input))
    {trace : List (Taken σ ι ο)} {state : σ} (run : Run step init trace state) :
    (∀ taken ∈ trace, good taken) ↔ Every allowed trace := by
  let anything (_ : σ) (_ : ι) : Prop := True
  have assumes : Every anything trace := fun _ _ => trivial
  exact all_iff_allowed_of start (fun _ _ _ _ holds _ => keeps _ _ _ _ holds)
    (fun _ _ _ _ holds _ => here _ _ _ _ holds) run assumes

/-- The same when every step keeps the invariant. -/
theorem all_iff_every {inv : σ → Prop} {good : Taken σ ι ο → Prop} {allowed : σ → ι → Prop}
    (start : inv init)
    (keeps : ∀ state input output state', inv state → step state input = .ok (output, state') →
      inv state')
    (here : ∀ state input output state', inv state → step state input = .ok (output, state') →
      (good ⟨state, input, output⟩ ↔ allowed state input))
    {trace : List (Taken σ ι ο)} {state : σ} (run : Run step init trace state) :
    (∀ taken ∈ trace, good taken) ↔ Every allowed trace :=
  all_iff_allowed start (fun _ _ _ _ holds _ taken => keeps _ _ _ _ holds taken) here run

/-! ## What is seen of a run -/

/-- What the steps show, the oldest first. -/
def seen {β : Type} (see : Taken σ ι ο → Option β) (trace : List (Taken σ ι ο)) : List β :=
  trace.reverse.filterMap see

theorem seen_cons {β : Type} (see : Taken σ ι ο → Option β) (taken : Taken σ ι ο) (trace : List (Taken σ ι ο)) :
    seen see (taken :: trace) = seen see trace ++ (see taken).toList := by
  rw [seen, List.reverse_cons, List.filterMap_append, ← seen]
  cases here : see taken with
  | none => rw [List.filterMap_cons_none here, List.filterMap_nil, Option.toList_none]
  | some event => rw [List.filterMap_cons_some here, List.filterMap_nil, Option.toList_some]

/-! ## Playing a list of inputs -/

/-- The trace and the state after some inputs. -/
def play (step : σ → ι → Except ε (ο × σ)) (trace : List (Taken σ ι ο)) (state : σ) :
    List ι → Except ε (List (Taken σ ι ο) × σ)
  | [] => .ok (trace, state)
  | input :: rest =>
    match step state input with
    | .error e => .error e
    | .ok (output, state') => play step (⟨state, input, output⟩ :: trace) state' rest

theorem play_cons {state state' : σ} {input : ι} {output : ο} (taken : step state input = .ok (output, state'))
    (trace : List (Taken σ ι ο)) (rest : List ι) :
    play step trace state (input :: rest) = play step (⟨state, input, output⟩ :: trace) state' rest := by
  rw [play, taken]

theorem play_append {inputs : List ι} {trace trace' : List (Taken σ ι ο)} {state state' : σ}
    (played : play step trace state inputs = .ok (trace', state')) (more : List ι) :
    play step trace state (inputs ++ more) = play step trace' state' more := by
  induction inputs generalizing trace state with
  | nil =>
    cases played
    rfl
  | cons input rest ih =>
    cases taken : step state input with
    | error e =>
      rw [play, taken] at played
      cases played
    | ok result =>
      rw [play_cons taken] at played
      rw [List.cons_append, play_cons taken]
      exact ih played

theorem of_play {inputs : List ι} {trace trace' : List (Taken σ ι ο)} {state state' : σ}
    (run : Run step init trace state) (h : play step trace state inputs = .ok (trace', state')) :
    Run step init trace' state' := by
  induction inputs generalizing trace state with
  | nil =>
    cases h
    exact run
  | cons input rest ih =>
    unfold play at h
    cases taken : step state input with
    | error e =>
      rw [taken] at h
      cases h
    | ok result =>
      rw [taken] at h
      exact ih (run.next taken) h

/-- What every step keeps is kept. -/
theorem play_keeps {inv : σ → Prop}
    (keeps : ∀ state input output state', inv state → step state input = .ok (output, state') → inv state')
    {inputs : List ι} {trace trace' : List (Taken σ ι ο)} {state state' : σ} (h : inv state)
    (played : play step trace state inputs = .ok (trace', state')) : inv state' := by
  induction inputs generalizing trace state with
  | nil =>
    cases played
    exact h
  | cons input rest ih =>
    cases taken : step state input with
    | error e =>
      rw [play, taken] at played
      cases played
    | ok result =>
      rw [play_cons taken] at played
      exact ih (keeps _ _ _ _ h taken) played

/-- What is seen of a run can be computed without the run. -/
theorem of_seen {β : Type} (step : σ → ι → Except ε (ο × σ)) (init : σ) (see : Taken σ ι ο → β)
    (inputs : List ι) (seen : List β)
    (h : (play step [] init inputs).map (fun result => result.1.map see) = .ok seen) :
    ∃ trace state, Run step init trace state ∧ trace.map see = seen := by
  cases played : play step [] init inputs with
  | error e =>
    rw [played] at h
    cases h
  | ok result =>
    rw [played] at h
    cases h
    exact ⟨result.1, result.2, of_play .start played, rfl⟩

/-- Where every step from a state that is `inv` is taken and keeps it, any inputs can be played. -/
theorem exists_play {inv : σ → Prop}
    (total : ∀ state input, inv state → ∃ output state', step state input = .ok (output, state') ∧
      inv state')
    (inputs : List ι) (trace : List (Taken σ ι ο)) {state : σ} (h : inv state) :
    ∃ trace' state', play step trace state inputs = .ok (trace', state') := by
  induction inputs generalizing trace state with
  | nil => exact ⟨trace, state, rfl⟩
  | cons input rest ih =>
    obtain ⟨output, state', taken, h'⟩ := total state input h
    obtain ⟨trace', last, played⟩ := ih (⟨state, input, output⟩ :: trace) h'
    refine ⟨trace', last, ?_⟩
    rw [play, taken]
    exact played

/-- Where an input keeps `inv` and lowers the measure as long as there is any, giving it again and
again brings the measure to zero. -/
theorem exists_replicate {inv : σ → Prop} {measure : σ → ℕ} {input : ι}
    (lowers : ∀ state, inv state → 0 < measure state →
      ∃ output state', step state input = .ok (output, state') ∧ inv state' ∧
        measure state' < measure state)
    (trace : List (Taken σ ι ο)) {state : σ} (h : inv state) :
    ∃ times trace' state', play step trace state (List.replicate times input) = .ok (trace', state') ∧
      inv state' ∧ measure state' = 0 := by
  induction left : measure state using Nat.strongRecOn generalizing trace state with
  | _ n ih =>
    rcases Nat.eq_zero_or_pos n with zero | positive
    · exact ⟨0, trace, state, rfl, h, left.trans zero⟩
    · obtain ⟨output, next, taken, h', less⟩ := lowers state h (left ▸ positive)
      obtain ⟨times, trace', last, played, h'', done⟩ :=
        ih (measure next) (left ▸ less) (⟨state, input, output⟩ :: trace) h' rfl
      refine ⟨times + 1, trace', last, ?_, h'', done⟩
      rw [List.replicate_succ, play, taken]
      exact played

end Run
end Foundations
