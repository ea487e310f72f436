import AdaptiveAutosar.Com.ConcurrentQueue
import AdaptiveAutosar.Foundations.Transition

/-! # A concurrent queue as a first-in-first-out queue

Any number of callers of one `helper::ConcurrentQueue`. Each has a variable of the element type, which
its calls get a reference to, and makes one call at a time; the steps of the calls come in any order.
-/

namespace AdaptiveAutosar.Com
open Foundations
set_option autoImplicit false

/-- `moving` tells which overload of `TryEnqueue` the caller has called. -/
structure QueueCallers (ι α : Type) where
  shared : SharedQueue ι α
  element : ι → α
  moving : ι → Bool

inductive QueueStep (ι α : Type) where
  | assign (caller : ι) (element : α)
  | tryEnqueue (caller : ι) (moving : Bool)
  | tryDequeue (caller : ι)
  | empty (caller : ι)
  | advance (caller : ι)
  deriving DecidableEq, Repr

inductive QueueAnswer (α : Type) where
  | pending
  | empty (isEmpty : Bool)
  | returned (result : Returned α)
  deriving DecidableEq, Repr

namespace QueueCallers
variable {ι α : Type} [DecidableEq ι]

def make (element : ι → α) : QueueCallers ι α := ⟨.make, element, fun _ => false⟩

/-- The caller's variable behind a step of its call. `moved` is what the move constructor leaves there. -/
def passed (moved : α → α) (callers : QueueCallers ι α) (caller : ι) : α :=
  match callers.shared.position caller, callers.shared.queue with
  | .emplace element, _ => if callers.moving caller then moved element else callers.element caller
  | .pop, front :: _ => front
  | _, _ => callers.element caller

def advanced (moved : α → α) (callers : QueueCallers ι α) (caller : ι) (shared : SharedQueue ι α) :
    QueueCallers ι α :=
  { callers with shared, element := Function.update callers.element caller (callers.passed moved caller) }

def advance (moved : α → α) (callers : QueueCallers ι α) (caller : ι) :
    Outcome (Option (Returned α) × QueueCallers ι α) := do
  let (returned, shared) ← callers.shared.advance caller
  pure (returned, callers.advanced moved caller shared)

/-- A caller in a call begins no other one. -/
def step (moved : α → α) (callers : QueueCallers ι α) :
    QueueStep ι α → Outcome (QueueAnswer α × QueueCallers ι α)
  | .assign caller element =>
    match callers.shared.position caller with
    | .outside => .ok (.pending, { callers with element := Function.update callers.element caller element })
    | _ => .ok (.pending, callers)
  | .tryEnqueue caller moving =>
    match callers.shared.position caller with
    | .outside => .ok (.pending,
        { callers with
          shared := callers.shared.move caller (.enqueueLock (callers.element caller))
          moving := Function.update callers.moving caller moving })
    | _ => .ok (.pending, callers)
  | .tryDequeue caller =>
    match callers.shared.position caller with
    | .outside => .ok (.pending, { callers with shared := callers.shared.move caller .dequeueLock })
    | _ => .ok (.pending, callers)
  | .empty _ => .ok (.empty callers.shared.empty, callers)
  | .advance caller => do
    let (returned, callers') ← callers.advance moved caller
    match returned with
    | none => pure (.pending, callers')
    | some result => pure (.returned result, callers')

/-- The rest of a call when no other caller makes a step. -/
def complete (moved : α → α) (caller : ι) : ℕ → QueueCallers ι α →
    Outcome (Returned α × QueueCallers ι α)
  | 0, _ => .error .diverged
  | rounds + 1, callers => do
    let (returned, callers') ← callers.advance moved caller
    match returned with
    | none => complete moved caller rounds callers'
    | some result => pure (result, callers')

/-! ## What the calls say they did -/

abbrev QueueTaken (ι α : Type) := Taken (QueueCallers ι α) (QueueStep ι α) (QueueAnswer α)

def enqueuedBy : QueueAnswer α → List α
  | .returned (.enqueued element true) => [element]
  | _ => []

def dequeuedBy : QueueAnswer α → List α
  | .returned (.dequeued (some element)) => [element]
  | _ => []

def Refused : QueueAnswer α → Prop
  | .returned (.enqueued _ false) | .returned (.dequeued none) => True
  | _ => False

/-- The elements of the calls that have returned, the oldest first. -/
def collect (by_ : QueueAnswer α → List α) : List (QueueTaken ι α) → List α
  | [] => []
  | taken :: older => collect by_ older ++ by_ taken.output

/-- What the holder of the lock has put in or taken out. -/
def inHand (of : Position α → List α) (shared : SharedQueue ι α) : List α :=
  match shared.mutex with
  | none => []
  | some caller => of (shared.position caller)

def Sized (callers : QueueCallers ι α) : Prop :=
  callers.shared.mutex = none → callers.shared.size = callers.shared.queue.length

/-- A `TryDequeue` that got the lock of an empty queue returns false and changes nothing. -/
def EmptyHanded (moved : α → α) (callers : QueueCallers ι α) : Prop :=
  ∀ caller, callers.shared.position caller = .pop → callers.shared.queue = [] →
    ∃ rounds callers', complete moved caller rounds callers = .ok (.dequeued none, callers') ∧
      callers'.shared.queue = [] ∧ callers'.shared.size = callers.shared.size ∧
      callers'.element = callers.element

structure FollowsFifo (moved : α → α) (trace : List (QueueTaken ι α)) (callers : QueueCallers ι α) :
    Prop where
  order : collect enqueuedBy trace ++ inHand Position.put callers.shared =
    collect dequeuedBy trace ++ inHand Position.took callers.shared ++ callers.shared.queue
  handed : ∀ taken ∈ trace, ∀ caller element, taken.input = .advance caller →
    taken.output = .returned (.dequeued (some element)) → taken.before.element caller = element
  refused : ∀ taken ∈ trace, Refused taken.output → ∀ after,
    step moved taken.before taken.input = .ok (taken.output, after) →
      after.shared.queue = taken.before.shared.queue ∧ after.shared.size = taken.before.shared.size ∧
        after.element = taken.before.element
  sized : Run.Throughout Sized trace callers
  emptyHanded : Run.Throughout (EmptyHanded moved) trace callers

/-- No `TryDequeue` gets the lock while the queue is empty. -/
def FindsElement (callers : QueueCallers ι α) (step : QueueStep ι α) : Prop :=
  ∀ caller, step = .advance caller → callers.shared.position caller = .dequeueLock →
    callers.shared.mutex = none → callers.shared.queue ≠ []

instance [DecidableEq α] (callers : QueueCallers ι α) (step : QueueStep ι α) :
    Decidable (FindsElement callers step) :=
  match step with
  | .advance caller =>
    decidable_of_iff (callers.shared.position caller = .dequeueLock → callers.shared.mutex = none →
      callers.shared.queue ≠ []) ⟨fun finds _ same => by cases same; exact finds, fun finds => finds caller rfl⟩
  | .assign .. | .tryEnqueue .. | .tryDequeue _ | .empty _ => .isTrue fun _ same => by cases same

/-! ## What every step keeps -/

variable {moved : α → α} {callers callers' : QueueCallers ι α}

/-- The variables keep what was dequeued into them until the call returns. -/
structure Kept (trace : List (QueueTaken ι α)) (callers : QueueCallers ι α) : Prop where
  coherent : callers.shared.Coherent
  order : collect enqueuedBy trace ++ inHand Position.put callers.shared =
    collect dequeuedBy trace ++ inHand Position.took callers.shared ++ callers.shared.queue
  handed : ∀ caller element, (callers.shared.position caller).took = [element] →
    callers.element caller = element

omit [DecidableEq ι] in
theorem kept_make (element : ι → α) : Kept [] (make element) where
  coherent := SharedQueue.coherent_make
  order := rfl
  handed := by
    intro caller element taken
    cases taken

theorem advance_ok {caller : ι} {returned : Option (Returned α)}
    (taken : callers.advance moved caller = .ok (returned, callers')) :
    ∃ shared', SharedQueue.Advance callers.shared caller returned shared' ∧
      callers' = callers.advanced moved caller shared' := by
  obtain ⟨⟨_, shared'⟩, advanced, same⟩ := bind_eq_ok.mp taken
  cases same
  exact ⟨shared', SharedQueue.advance_cases advanced, rfl⟩

section
variable {shared shared' : SharedQueue ι α} (of : Position α → List α)

omit [DecidableEq ι] in
theorem inHand_free (free : shared.mutex = none) : inHand of shared = [] := by
  rw [inHand, free]

omit [DecidableEq ι] in
theorem inHand_held {caller : ι} (held : shared.mutex = some caller) :
    inHand of shared = of (shared.position caller) := by
  rw [inHand, held]

theorem inHand_move {caller : ι} {position : Position α} (other : shared.mutex ≠ some caller) :
    inHand of (shared.move caller position) = inHand of shared := by
  cases held : shared.mutex with
  | none =>
    have held' : (shared.move caller position).mutex = none := held
    rw [inHand_free of held, inHand_free of held']
  | some holder =>
    have held' : (shared.move caller position).mutex = some holder := held
    have differs : holder ≠ caller := by
      rintro rfl
      exact other held
    rw [inHand_held of held, inHand_held of held', SharedQueue.move_position, if_neg differs]

end

def answerOf : Option (Returned α) → QueueAnswer α
  | none => .pending
  | some result => .returned result

/-- What was put in is what was taken out and what is still there, in this order. -/
theorem order_advance {shared shared' : SharedQueue ι α} (coherent : shared.Coherent) {caller : ι}
    {returned : Option (Returned α)} (advance : SharedQueue.Advance shared caller returned shared')
    {enqueued dequeued : List α}
    (order : enqueued ++ inHand Position.put shared = dequeued ++ inHand Position.took shared ++ shared.queue) :
    enqueued ++ enqueuedBy (answerOf returned) ++ inHand Position.put shared' =
      dequeued ++ dequeuedBy (answerOf returned) ++ inHand Position.took shared' ++ shared'.queue := by
  have inside := coherent.inside caller
  cases advance with
  | idles at_ => simpa [answerOf, enqueuedBy, dequeuedBy] using order
  | locks at_ free | acquires at_ free =>
    rw [inHand_free _ free, inHand_free _ free] at order
    simpa [answerOf, enqueuedBy, dequeuedBy, inHand, Position.put, Position.took] using order
  | refused at_ held | misses at_ held =>
    have outside : ¬ (shared.position caller).Inside := by simp [at_, Position.Inside]
    have other := mt inside.mpr outside
    rw [inHand_move _ other, inHand_move _ other]
    simpa [answerOf, enqueuedBy, dequeuedBy] using order
  | emplaces at_ =>
    have held := inside.mp (by simp [at_, Position.Inside])
    rw [inHand_held _ held, inHand_held _ held, at_] at order
    simp only [Position.put, Position.took, List.append_nil] at order
    simp [answerOf, enqueuedBy, dequeuedBy, inHand, held, Position.put, Position.took, order]
  | counts at_ | uncounts at_ =>
    have held := inside.mp (by simp [at_, Position.Inside])
    rw [inHand_held _ held, inHand_held _ held, at_] at order
    simpa [answerOf, enqueuedBy, dequeuedBy, inHand, held, Position.put, Position.took] using order
  | pops at_ queue =>
    have held := inside.mp (by simp [at_, Position.Inside])
    rw [inHand_held _ held, inHand_held _ held, at_, queue] at order
    simpa [answerOf, enqueuedBy, dequeuedBy, inHand, held, Position.put, Position.took] using order
  | returns at_ | releases at_ =>
    have held := inside.mp (by simp [at_, Position.Inside])
    rw [inHand_held _ held, inHand_held _ held, at_] at order
    simpa [answerOf, enqueuedBy, dequeuedBy, inHand, Position.put, Position.took] using order

theorem Kept.begins {trace : List (QueueTaken ι α)} (kept : Kept trace callers) {caller : ι}
    (outside : callers.shared.position caller = .outside) {position : Position α} (after : ¬ position.Inside)
    {input : QueueStep ι α} (same_element : callers'.element = callers.element)
    (begun : callers'.shared = callers.shared.move caller position) :
    Kept (⟨callers, input, .pending⟩ :: trace) callers' := by
  have before : ¬ (callers.shared.position caller).Inside := by simp [outside, Position.Inside]
  have other := mt (kept.coherent.inside caller).mpr before
  have nothing : position.took = [] := by
    cases position <;> first | rfl | exact absurd trivial after
  constructor
  case coherent =>
    rw [begun]
    exact kept.coherent.move before after
  case order =>
    rw [begun, inHand_move _ other, inHand_move _ other]
    simpa [collect, enqueuedBy, dequeuedBy] using kept.order
  case handed =>
    intro c element took
    rw [begun, SharedQueue.move_position] at took
    rw [same_element]
    split at took
    · cases nothing.symm.trans took
    · exact kept.handed c element took

omit [DecidableEq ι] in
theorem Kept.stays {trace : List (QueueTaken ι α)} (kept : Kept trace callers) {input : QueueStep ι α}
    {answer : QueueAnswer α} (nothing : enqueuedBy answer = []) (nothing' : dequeuedBy answer = []) :
    Kept (⟨callers, input, answer⟩ :: trace) callers where
  coherent := kept.coherent
  order := by simpa [collect, nothing, nothing'] using kept.order
  handed := kept.handed

theorem Kept.assigns {trace : List (QueueTaken ι α)} (kept : Kept trace callers) {caller : ι}
    (outside : callers.shared.position caller = .outside) (element : α) {input : QueueStep ι α} :
    Kept (⟨callers, input, .pending⟩ :: trace)
      { callers with element := Function.update callers.element caller element } where
  coherent := kept.coherent
  order := by simpa [collect, enqueuedBy, dequeuedBy] using kept.order
  handed := by
    intro c element' took
    have differs : c ≠ caller := by
      rintro rfl
      rw [outside] at took
      cases took
    show Function.update callers.element caller element c = element'
    rw [Function.update_of_ne differs]
    exact kept.handed c element' took

theorem position_other {shared shared' : SharedQueue ι α} {caller c : ι} {returned : Option (Returned α)}
    (advance : SharedQueue.Advance shared caller returned shared') (differs : c ≠ caller) :
    shared'.position c = shared.position c := by
  cases advance <;> simp [differs]

theorem Kept.passed_eq {trace : List (QueueTaken ι α)} (kept : Kept trace callers) {caller : ι}
    {returned : Option (Returned α)} {shared' : SharedQueue ι α}
    (advance : SharedQueue.Advance callers.shared caller returned shared') {element : α}
    (took : (shared'.position caller).took = [element]) : callers.passed moved caller = element := by
  cases advance with
  | idles at_ => simp [at_, Position.took] at took
  | pops at_ queue =>
    simp only [SharedQueue.take_position, if_true, Position.took, List.cons.injEq, and_true] at took
    rw [passed, at_, queue, took]
  | uncounts at_ =>
    simp only [SharedQueue.count_position, if_true, Position.took, List.cons.injEq, and_true] at took
    have before := kept.handed caller element (by rw [at_, Position.took, took])
    rw [passed, at_]
    exact before
  | locks | refused | emplaces | counts | returns | acquires | misses | releases =>
    simp [Position.took] at took

theorem Kept.advances {trace : List (QueueTaken ι α)} (kept : Kept trace callers) {caller : ι}
    {returned : Option (Returned α)} {shared' : SharedQueue ι α}
    (advance : SharedQueue.Advance callers.shared caller returned shared') :
    Kept (⟨callers, .advance caller, answerOf returned⟩ :: trace) (callers.advanced moved caller shared') where
  coherent := kept.coherent.advanced advance
  order := order_advance kept.coherent advance kept.order
  handed := by
    intro c element took
    by_cases same : c = caller
    · subst same
      exact (Function.update_self ..).trans (kept.passed_eq advance took)
    · have before : (callers.shared.position c).took = [element] := by
        rw [← position_other advance same]
        exact took
      exact (Function.update_of_ne same ..).trans (kept.handed c element before)

theorem step_advance_ok {caller : ι} {answer : QueueAnswer α}
    (taken : step moved callers (.advance caller) = .ok (answer, callers')) :
    ∃ returned shared', SharedQueue.Advance callers.shared caller returned shared' ∧
      answer = answerOf returned ∧ callers' = callers.advanced moved caller shared' := by
  obtain ⟨⟨returned, _⟩, advanced, same⟩ := bind_eq_ok.mp taken
  obtain ⟨shared', advance, rfl⟩ := advance_ok advanced
  cases returned with
  | none =>
    cases same
    exact ⟨none, shared', advance, rfl, rfl⟩
  | some result =>
    cases same
    exact ⟨some result, shared', advance, rfl, rfl⟩

theorem Kept.step {trace : List (QueueTaken ι α)} (kept : Kept trace callers) {input : QueueStep ι α}
    {answer : QueueAnswer α} (taken : step moved callers input = .ok (answer, callers')) :
    Kept (⟨callers, input, answer⟩ :: trace) callers' := by
  cases input with
  | advance caller =>
    obtain ⟨returned, shared', advance, rfl, rfl⟩ := step_advance_ok taken
    exact kept.advances advance
  | empty caller =>
    cases taken
    exact kept.stays rfl rfl
  | assign caller element =>
    simp only [QueueCallers.step] at taken
    split at taken
    next outside =>
      cases taken
      exact kept.assigns outside element
    next =>
      cases taken
      exact kept.stays rfl rfl
  | tryEnqueue caller moving =>
    simp only [QueueCallers.step] at taken
    split at taken
    next outside =>
      cases taken
      exact kept.begins outside id rfl rfl
    next =>
      cases taken
      exact kept.stays rfl rfl
  | tryDequeue caller =>
    simp only [QueueCallers.step] at taken
    split at taken
    next outside =>
      cases taken
      exact kept.begins outside id rfl rfl
    next =>
      cases taken
      exact kept.stays rfl rfl

theorem kept_run {element : ι → α} {trace : List (QueueTaken ι α)}
    (run : Run (QueueCallers.step moved) (make element) trace callers) : Kept trace callers := by
  induction run with
  | start => exact kept_make element
  | next _ taken ih => exact ih.step taken

/-! ## The whole run -/

omit [DecidableEq ι] in
theorem Kept.sized {trace : List (QueueTaken ι α)} (kept : Kept trace callers) : Sized callers :=
  kept.coherent.free

theorem advance_refused (moved : α → α) {caller : ι} {returned : Option (Returned α)} {shared' : SharedQueue ι α}
    (advance : SharedQueue.Advance callers.shared caller returned shared')
    (refused : Refused (answerOf returned)) :
    shared' = callers.shared.move caller .outside ∧ callers.passed moved caller = callers.element caller := by
  cases advance with
  | refused at_ | misses at_ => exact ⟨rfl, by rw [passed, at_]⟩
  | idles | locks | emplaces | counts | returns | acquires | pops | uncounts | releases => exact refused.elim

/-- A failed attempt changes neither the queue nor a variable. -/
theorem refused_unchanged {input : QueueStep ι α} {answer : QueueAnswer α}
    (taken : step moved callers input = .ok (answer, callers')) (refused : Refused answer) :
    callers'.shared.queue = callers.shared.queue ∧ callers'.shared.size = callers.shared.size ∧
      callers'.element = callers.element := by
  cases input with
  | advance caller =>
    obtain ⟨returned, shared', advance, rfl, rfl⟩ := step_advance_ok taken
    obtain ⟨rfl, same⟩ := advance_refused moved advance refused
    refine ⟨rfl, rfl, ?_⟩
    show Function.update callers.element caller (callers.passed moved caller) = callers.element
    rw [same, Function.update_eq_self]
  | empty caller =>
    cases taken
    exact refused.elim
  | assign caller | tryEnqueue caller | tryDequeue caller =>
    simp only [step] at taken
    split at taken <;> cases taken <;> exact refused.elim

theorem complete_undefined {caller : ι} (at_ : callers.shared.position caller = .pop)
    (empty : callers.shared.queue = []) (rounds : ℕ) {answer : Returned α × QueueCallers ι α} :
    complete moved caller rounds callers ≠ .ok answer := by
  cases rounds with
  | zero => exact nofun
  | succ rounds =>
    have undefined : callers.shared.advance caller = .error .undefined := by
      simp only [SharedQueue.advance, at_, empty]
    simp [complete, advance, undefined, bind, Except.bind]

def PopsElement (shared : SharedQueue ι α) : Prop :=
  ∀ caller, shared.position caller = .pop → shared.queue ≠ []

/-- A caller with the lock of an empty queue is the one thing that goes wrong. -/
theorem emptyHanded_iff : EmptyHanded moved callers ↔ PopsElement callers.shared := by
  constructor
  · intro emptyHanded caller at_ empty
    obtain ⟨rounds, callers', completed, -⟩ := emptyHanded caller at_ empty
    exact complete_undefined at_ empty rounds completed
  · intro finds caller at_ empty
    exact absurd empty (finds caller at_)

/-- A step that does not get the lock for a `TryDequeue` brings nobody before an empty queue. -/
theorem popsElement_advance {shared shared' : SharedQueue ι α} (coherent : shared.Coherent)
    (before : PopsElement shared) {caller : ι} {returned : Option (Returned α)}
    (advance : SharedQueue.Advance shared caller returned shared') (here : shared'.position caller ≠ .pop) :
    PopsElement shared' := by
  intro c at_
  have differs : c ≠ caller := by
    rintro rfl
    exact here at_
  have there := (position_other advance differs).symm.trans at_
  have some_left := before c there
  cases advance with
  | emplaces => simp
  | pops popping =>
    -- both would hold the lock
    have holds := (coherent.inside caller).mp (by simp [popping, Position.Inside])
    have holds' := (coherent.inside c).mp (by simp [there, Position.Inside])
    exact absurd (Option.some.inj (holds'.symm.trans holds)) differs
  | idles | locks | refused | counts | returns | acquires | misses | uncounts | releases => exact some_left

theorem popsElement_iff (coherent : callers.shared.Coherent) (before : PopsElement callers.shared)
    {caller : ι} {returned : Option (Returned α)} {shared' : SharedQueue ι α}
    (advance : SharedQueue.Advance callers.shared caller returned shared') :
    PopsElement shared' ↔ FindsElement callers (.advance caller) := by
  by_cases gets : callers.shared.position caller = .dequeueLock ∧ callers.shared.mutex = none
  · obtain ⟨at_, free⟩ := gets
    cases advance with
    | acquires =>
      constructor
      · rintro pops _ ⟨rfl⟩ - -
        exact pops caller (by simp)
      · intro finds _ _
        exact finds caller rfl at_ free
    | misses _ held => exact absurd (free.symm.trans held) nofun
    | idles other | locks other | refused other | emplaces other | counts other | returns other
    | pops other | uncounts other | releases other => exact absurd (at_.symm.trans other) nofun
  · have finds : FindsElement callers (.advance caller) := by
      rintro _ ⟨rfl⟩ at_ free
      exact absurd ⟨at_, free⟩ gets
    refine iff_of_true (popsElement_advance coherent before advance ?_) finds
    intro at_
    cases advance with
    | acquires waits free => exact gets ⟨waits, free⟩
    | idles outside => exact absurd (outside.symm.trans at_) nofun
    | locks | refused | emplaces | counts | returns | misses | pops | uncounts | releases =>
      simp at at_

theorem popsElement_move {shared : SharedQueue ι α} (before : PopsElement shared) (caller : ι)
    {position : Position α} (other : position ≠ .pop) : PopsElement (shared.move caller position) := by
  intro c at_
  rw [SharedQueue.move_position] at at_
  split at at_
  · exact absurd at_ other
  · exact before c at_

theorem popsElement_step {input : QueueStep ι α} {answer : QueueAnswer α} (coherent : callers.shared.Coherent)
    (before : PopsElement callers.shared) (taken : step moved callers input = .ok (answer, callers')) :
    PopsElement callers'.shared ↔ FindsElement callers input := by
  cases input with
  | advance caller =>
    obtain ⟨returned, shared', advance, rfl, rfl⟩ := step_advance_ok taken
    exact popsElement_iff coherent before advance
  | empty caller =>
    cases taken
    exact iff_of_true before (fun _ h => by cases h)
  | assign caller | tryEnqueue caller | tryDequeue caller =>
    refine iff_of_true ?_ (fun _ h => by cases h)
    simp only [step] at taken
    split at taken <;> cases taken
    · first | exact before | exact popsElement_move before caller nofun
    · exact before

theorem kept_before {element : ι → α} {trace : List (QueueTaken ι α)}
    (run : Run (step moved) (make element) trace callers) {taken : QueueTaken ι α} (there : taken ∈ trace) :
    ∃ older, Kept older taken.before := by
  obtain ⟨newer, older, rfl⟩ := List.append_of_mem there
  exact ⟨older, kept_run run.before⟩

/-- What a `TryDequeue` returns is in the variable of its caller. -/
theorem handed_over {older : List (QueueTaken ι α)} (kept : Kept older callers) {caller : ι} {element : α}
    (taken : step moved callers (.advance caller) = .ok (.returned (.dequeued (some element)), callers')) :
    callers.element caller = element := by
  obtain ⟨returned, shared', advance, answer, -⟩ := step_advance_ok taken
  cases advance with
  | releases at_ =>
    cases answer
    exact kept.handed caller element (by rw [at_, Position.took])
  | idles | locks | refused | emplaces | counts | returns | acquires | misses | pops | uncounts => cases answer

/-- The calls do what a first-in-first-out queue does exactly when no `TryDequeue` gets the lock while the
queue is empty. -/
theorem followsFifo_iff {element : ι → α} {trace : List (QueueTaken ι α)}
    (run : Run (step moved) (make element) trace callers) :
    FollowsFifo moved trace callers ↔ Run.Every FindsElement trace := by
  let reached (callers : QueueCallers ι α) : Prop := ∃ older, Kept older callers
  have start : reached (make element) := ⟨[], kept_make element⟩
  have start_pops : EmptyHanded moved (make element) := emptyHanded_iff.mpr fun _ at_ => by cases at_
  have stays : Run.Throughout (EmptyHanded moved) trace callers ↔ Run.Every FindsElement trace := by
    refine Run.stays_iff_every start start_pops ?_ ?_ run
    · rintro callers input answer callers' ⟨older, kept⟩ taken
      exact ⟨_, kept.step taken⟩
    · rintro callers input answer callers' ⟨older, kept⟩ before taken
      rw [emptyHanded_iff] at before ⊢
      exact popsElement_step kept.coherent before taken
  constructor
  · exact fun follows => stays.mp follows.emptyHanded
  · intro every
    have kept := kept_run run
    constructor
    case order => exact kept.order
    case handed =>
      rintro ⟨before, input, output⟩ there caller element rfl rfl
      obtain ⟨older, kept⟩ := kept_before run there
      obtain ⟨after, taken⟩ := Run.taken_step run there
      exact handed_over kept taken
    case refused => exact fun taken there refused after made => refused_unchanged made refused
    case sized =>
      refine ⟨kept.sized, fun taken there => ?_⟩
      obtain ⟨older, kept⟩ := kept_before run there
      exact kept.sized
    case emptyHanded => exact stays.mpr every

theorem followsFifo_iff_sample : ∃ trace callers,
    Run.play (step fun _ => 0) [] (make fun caller : Bool => if caller then 5 else 6)
      ([.tryEnqueue true true] ++ List.replicate 4 (.advance true) ++ [.tryDequeue false, .advance false]) =
        .ok (trace, callers) ∧ FollowsFifo (fun _ => 0) trace callers := by
  obtain ⟨trace, callers, played, every⟩ : ∃ trace callers,
      Run.play (step fun _ => 0) [] (make fun caller : Bool => if caller then 5 else 6)
        ([.tryEnqueue true true] ++ List.replicate 4 (.advance true) ++ [.tryDequeue false, .advance false]) =
          .ok (trace, callers) ∧ Run.Every FindsElement trace := ⟨_, _, rfl, by decide⟩
  exact ⟨trace, callers, played, (followsFifo_iff (Run.of_play .start played)).mpr every⟩

/-- Two callers find the queue not empty, and the first one takes its only element out. -/
theorem not_always_followsFifo : ∃ trace callers,
    Run (step fun _ => 0) (make fun _ : Bool => 5) trace callers ∧ ¬ FollowsFifo (fun _ => 0) trace callers := by
  obtain ⟨trace, callers, played, at_, empty⟩ : ∃ trace callers,
      Run.play (step fun _ => 0) [] (make fun _ : Bool => 5)
        ([.tryEnqueue true false] ++ List.replicate 4 (.advance true) ++
          [.empty true, .empty false, .tryDequeue true, .tryDequeue false] ++
          List.replicate 4 (.advance true) ++ [.advance false]) = .ok (trace, callers) ∧
      callers.shared.position false = .pop ∧ callers.shared.queue = [] := ⟨_, _, rfl, rfl, rfl⟩
  refine ⟨trace, callers, Run.of_play .start played, fun follows => ?_⟩
  exact emptyHanded_iff.mp follows.emptyHanded.1 false at_ empty

end QueueCallers
end AdaptiveAutosar.Com
