import Mathlib.Algebra.Order.Group.Int
import Mathlib.Logic.Function.Basic
import AdaptiveAutosar.Com.Rpc.Socket

/-! # The steps of the concurrent queue

`helper::ConcurrentQueue` between any number of callers, one step at a time: trying the lock, changing
the `std::queue`, changing `mSize`, and unlocking. Behind the unlocking a call touches nothing shared,
so it returns there. `entered` and `left` are all the elements that were put in and taken out so far.
-/

namespace AdaptiveAutosar.Com
open Foundations
set_option autoImplicit false

/-- Where a caller is in a call: the step it takes next. -/
inductive Position (α : Type) where
  | outside
  | enqueueLock (element : α)
  | emplace (element : α)
  | countUp (element : α)
  | enqueueUnlock (element : α)
  | dequeueLock
  | pop
  | countDown (element : α)
  | dequeueUnlock (element : α)
  deriving DecidableEq, Repr

/-- What a call returns, with the element it was called with or hands out. -/
inductive Returned (α : Type) where
  | enqueued (element : α) (successful : Bool)
  | dequeued (element : Option α)
  deriving DecidableEq, Repr

structure SharedQueue (ι α : Type) where
  mutex : Option ι
  queue : List α
  size : ℕ
  position : ι → Position α
  entered : List α
  left : List α

namespace SharedQueue
variable {ι α : Type} [DecidableEq ι]

/-- The constructor, with no caller inside. -/
def make : SharedQueue ι α := ⟨none, [], 0, fun _ => .outside, [], []⟩

def empty (shared : SharedQueue ι α) : Bool := shared.size = 0

def move (shared : SharedQueue ι α) (caller : ι) (position : Position α) : SharedQueue ι α :=
  { shared with position := Function.update shared.position caller position }

def lock (shared : SharedQueue ι α) (caller : ι) (next : Position α) : SharedQueue ι α :=
  { shared with mutex := some caller }.move caller next

def unlock (shared : SharedQueue ι α) (caller : ι) : SharedQueue ι α :=
  { shared with mutex := none }.move caller .outside

def put (shared : SharedQueue ι α) (caller : ι) (element : α) : SharedQueue ι α :=
  { shared with
    queue := shared.queue ++ [element]
    entered := shared.entered ++ [element] }.move caller (.countUp element)

def take (shared : SharedQueue ι α) (caller : ι) (element : α) (rest : List α) : SharedQueue ι α :=
  { shared with
    queue := rest
    left := shared.left ++ [element] }.move caller (.countDown element)

def count (shared : SharedQueue ι α) (caller : ι) (size : ℕ) (next : Position α) : SharedQueue ι α :=
  { shared with size }.move caller next

/-- The next step of a call of `TryEnqueue` or `TryDequeue`, and what the call returns if it ends. -/
def advance (shared : SharedQueue ι α) (caller : ι) :
    Outcome (Option (Returned α) × SharedQueue ι α) :=
  match shared.position caller with
  | .outside => .ok (none, shared)
  | .enqueueLock element =>
    match shared.mutex with
    | none => .ok (none, shared.lock caller (.emplace element))
    | some _ => .ok (some (.enqueued element false), shared.move caller .outside)
  | .emplace element => .ok (none, shared.put caller element)
  | .countUp element => .ok (none, shared.count caller (shared.size + 1) (.enqueueUnlock element))
  | .enqueueUnlock element => .ok (some (.enqueued element true), shared.unlock caller)
  | .dequeueLock =>
    match shared.mutex with
    | none => .ok (none, shared.lock caller .pop)
    | some _ => .ok (some (.dequeued none), shared.move caller .outside)
  | .pop =>
    -- `front` of an empty queue
    match shared.queue with
    | [] => .error .undefined
    | element :: rest => .ok (none, shared.take caller element rest)
  | .countDown element => .ok (none, shared.count caller (shared.size - 1) (.dequeueUnlock element))
  | .dequeueUnlock element => .ok (some (.dequeued (some element)), shared.unlock caller)

/-! ## The fields after each step -/

section
variable (shared : SharedQueue ι α) (caller other : ι) (next : Position α) (element : α) (rest : List α)
  (size : ℕ)

@[simp] theorem move_mutex : (shared.move caller next).mutex = shared.mutex := rfl
@[simp] theorem move_queue : (shared.move caller next).queue = shared.queue := rfl
@[simp] theorem move_size : (shared.move caller next).size = shared.size := rfl
@[simp] theorem move_position : (shared.move caller next).position other =
    if other = caller then next else shared.position other := Function.update_apply ..

@[simp] theorem lock_mutex : (shared.lock caller next).mutex = some caller := rfl
@[simp] theorem lock_queue : (shared.lock caller next).queue = shared.queue := rfl
@[simp] theorem lock_size : (shared.lock caller next).size = shared.size := rfl
@[simp] theorem lock_position : (shared.lock caller next).position other =
    if other = caller then next else shared.position other := Function.update_apply ..

@[simp] theorem unlock_mutex : (shared.unlock caller).mutex = none := rfl
@[simp] theorem unlock_queue : (shared.unlock caller).queue = shared.queue := rfl
@[simp] theorem unlock_size : (shared.unlock caller).size = shared.size := rfl
@[simp] theorem unlock_position : (shared.unlock caller).position other =
    if other = caller then .outside else shared.position other := Function.update_apply ..

@[simp] theorem put_mutex : (shared.put caller element).mutex = shared.mutex := rfl
@[simp] theorem put_queue : (shared.put caller element).queue = shared.queue ++ [element] := rfl
@[simp] theorem put_size : (shared.put caller element).size = shared.size := rfl
@[simp] theorem put_position : (shared.put caller element).position other =
    if other = caller then .countUp element else shared.position other := Function.update_apply ..

@[simp] theorem take_mutex : (shared.take caller element rest).mutex = shared.mutex := rfl
@[simp] theorem take_queue : (shared.take caller element rest).queue = rest := rfl
@[simp] theorem take_size : (shared.take caller element rest).size = shared.size := rfl
@[simp] theorem take_position : (shared.take caller element rest).position other =
    if other = caller then .countDown element else shared.position other := Function.update_apply ..

@[simp] theorem count_mutex : (shared.count caller size next).mutex = shared.mutex := rfl
@[simp] theorem count_queue : (shared.count caller size next).queue = shared.queue := rfl
@[simp] theorem count_size : (shared.count caller size next).size = size := rfl
@[simp] theorem count_position : (shared.count caller size next).position other =
    if other = caller then next else shared.position other := Function.update_apply ..

end

section
variable (shared : SharedQueue ι α) (caller : ι) (next : Position α) (element : α) (rest : List α)
  (size : ℕ)

@[simp] theorem move_entered : (shared.move caller next).entered = shared.entered := rfl
@[simp] theorem move_left : (shared.move caller next).left = shared.left := rfl
@[simp] theorem lock_entered : (shared.lock caller next).entered = shared.entered := rfl
@[simp] theorem lock_left : (shared.lock caller next).left = shared.left := rfl
@[simp] theorem unlock_entered : (shared.unlock caller).entered = shared.entered := rfl
@[simp] theorem unlock_left : (shared.unlock caller).left = shared.left := rfl
@[simp] theorem put_entered : (shared.put caller element).entered = shared.entered ++ [element] := rfl
@[simp] theorem put_left : (shared.put caller element).left = shared.left := rfl
@[simp] theorem take_entered : (shared.take caller element rest).entered = shared.entered := rfl
@[simp] theorem take_left : (shared.take caller element rest).left = shared.left ++ [element] := rfl
@[simp] theorem count_entered : (shared.count caller size next).entered = shared.entered := rfl
@[simp] theorem count_left : (shared.count caller size next).left = shared.left := rfl

end

/-- What a step of a call can do. -/
inductive Advance (shared : SharedQueue ι α) (caller : ι) : Option (Returned α) → SharedQueue ι α → Prop where
  | idles (at_ : shared.position caller = .outside) : Advance shared caller none shared
  | locks {element : α} (at_ : shared.position caller = .enqueueLock element)
      (free : shared.mutex = none) : Advance shared caller none (shared.lock caller (.emplace element))
  | refused {element : α} {holder : ι} (at_ : shared.position caller = .enqueueLock element)
      (held : shared.mutex = some holder) :
      Advance shared caller (some (.enqueued element false)) (shared.move caller .outside)
  | emplaces {element : α} (at_ : shared.position caller = .emplace element) :
      Advance shared caller none (shared.put caller element)
  | counts {element : α} (at_ : shared.position caller = .countUp element) :
      Advance shared caller none (shared.count caller (shared.size + 1) (.enqueueUnlock element))
  | returns {element : α} (at_ : shared.position caller = .enqueueUnlock element) :
      Advance shared caller (some (.enqueued element true)) (shared.unlock caller)
  | acquires (at_ : shared.position caller = .dequeueLock) (free : shared.mutex = none) :
      Advance shared caller none (shared.lock caller .pop)
  | misses {holder : ι} (at_ : shared.position caller = .dequeueLock)
      (held : shared.mutex = some holder) :
      Advance shared caller (some (.dequeued none)) (shared.move caller .outside)
  | pops {element : α} {rest : List α} (at_ : shared.position caller = .pop)
      (queue : shared.queue = element :: rest) :
      Advance shared caller none (shared.take caller element rest)
  | uncounts {element : α} (at_ : shared.position caller = .countDown element) :
      Advance shared caller none (shared.count caller (shared.size - 1) (.dequeueUnlock element))
  | releases {element : α} (at_ : shared.position caller = .dequeueUnlock element) :
      Advance shared caller (some (.dequeued (some element))) (shared.unlock caller)

theorem advance_cases {shared shared' : SharedQueue ι α} {caller : ι} {returned : Option (Returned α)}
    (taken : shared.advance caller = .ok (returned, shared')) :
    Advance shared caller returned shared' := by
  unfold SharedQueue.advance at taken
  cases at_ : shared.position caller with
  | outside =>
    simp only [at_] at taken
    cases taken
    exact .idles at_
  | enqueueLock element =>
    simp only [at_] at taken
    split at taken
    · cases taken
      exact .locks at_ ‹_›
    · cases taken
      exact .refused at_ ‹_›
  | emplace element =>
    simp only [at_] at taken
    cases taken
    exact .emplaces at_
  | countUp element =>
    simp only [at_] at taken
    cases taken
    exact .counts at_
  | enqueueUnlock element =>
    simp only [at_] at taken
    cases taken
    exact .returns at_
  | dequeueLock =>
    simp only [at_] at taken
    split at taken
    · cases taken
      exact .acquires at_ ‹_›
    · cases taken
      exact .misses at_ ‹_›
  | pop =>
    simp only [at_] at taken
    split at taken
    · cases taken
    · cases taken
      exact .pops at_ ‹_›
  | countDown element =>
    simp only [at_] at taken
    cases taken
    exact .uncounts at_
  | dequeueUnlock element =>
    simp only [at_] at taken
    cases taken
    exact .releases at_

/-! ## What holds between any callers -/

end SharedQueue

namespace Position
variable {α : Type}

/-- Between the lock and the unlocking. -/
def Inside : Position α → Prop
  | .outside | .enqueueLock _ | .dequeueLock => False
  | .emplace _ | .countUp _ | .enqueueUnlock _ | .pop | .countDown _ | .dequeueUnlock _ => True

/-- What the call has put into the queue. -/
def put : Position α → List α
  | .countUp element | .enqueueUnlock element => [element]
  | _ => []

/-- What the call has taken out of the queue. -/
def took : Position α → List α
  | .countDown element | .dequeueUnlock element => [element]
  | _ => []

/-- How far `mSize` is behind the length of the queue. -/
def lag : Position α → ℤ
  | .countUp _ => 1
  | .countDown _ => -1
  | _ => 0

end Position

namespace SharedQueue
variable {ι α : Type} [DecidableEq ι]

/-- Only the holder of the lock is inside, `mSize` lags behind by what the holder has still to count,
and the elements leave in the order they entered. -/
structure Coherent (shared : SharedQueue ι α) : Prop where
  inside : ∀ caller, (shared.position caller).Inside ↔ shared.mutex = some caller
  sized : ∀ caller, shared.mutex = some caller →
    (shared.size : ℤ) + (shared.position caller).lag = shared.queue.length
  free : shared.mutex = none → shared.size = shared.queue.length
  ordered : shared.entered = shared.left ++ shared.queue

omit [DecidableEq ι] in
theorem coherent_make : (make : SharedQueue ι α).Coherent where
  inside := by simp [make, Position.Inside]
  sized := by simp [make]
  free := by simp [make]
  ordered := rfl

/-- A caller outside begins a call, or a call ends without the lock. -/
theorem Coherent.move {shared : SharedQueue ι α} (h : shared.Coherent) {caller : ι}
    {position : Position α} (before : ¬ (shared.position caller).Inside) (after : ¬ position.Inside) :
    (shared.move caller position).Coherent := by
  have other : shared.mutex ≠ some caller := fun holds => before ((h.inside caller).mpr holds)
  constructor
  case inside =>
    intro c
    by_cases same : c = caller
    · subst same
      simpa [after] using other
    · simpa [same] using h.inside c
  case sized =>
    intro c holds
    have differs : c ≠ caller := fun same => other (same ▸ holds)
    simpa [differs] using h.sized c holds
  case free => exact h.free
  case ordered => exact h.ordered

theorem Coherent.locked {shared : SharedQueue ι α} (h : shared.Coherent) (free : shared.mutex = none)
    {caller : ι} {position : Position α} (inside : position.Inside) (counted : position.lag = 0) :
    (shared.lock caller position).Coherent := by
  have none_inside (c : ι) : ¬ (shared.position c).Inside := by
    rw [h.inside c, free]
    simp
  constructor
  case inside =>
    intro c
    by_cases same : c = caller
    · subst same
      simp [inside]
    · simp [same, none_inside c, Ne.symm same]
  case sized =>
    intro c holds
    cases holds
    simp [counted, h.free free]
  case free => exact fun open_ => by cases open_
  case ordered => exact h.ordered

theorem Coherent.held {shared : SharedQueue ι α} (h : shared.Coherent) {caller : ι}
    (holds : shared.mutex = some caller) {position : Position α} (inside : position.Inside)
    {queue : List α} {size : ℕ} {entered left : List α} (sized : (size : ℤ) + position.lag = queue.length)
    (ordered : entered = left ++ queue) :
    ({ shared with queue, size, entered, left }.move caller position).Coherent := by
  constructor
  case inside =>
    intro c
    by_cases same : c = caller
    · subst same
      simp [inside, holds]
    · simpa [same] using h.inside c
  case sized =>
    intro c holds'
    cases holds.symm.trans holds'
    simpa using sized
  case free => exact fun open_ => by cases holds.symm.trans open_
  case ordered => exact ordered

theorem Coherent.unlocked {shared : SharedQueue ι α} (h : shared.Coherent) {caller : ι}
    (holds : shared.mutex = some caller) (counted : (shared.position caller).lag = 0) :
    (shared.unlock caller).Coherent := by
  constructor
  case inside =>
    intro c
    by_cases same : c = caller
    · subst same
      simp [Position.Inside]
    · have others : ¬ (shared.position c).Inside := by
        rw [h.inside c, holds]
        simpa [eq_comm] using same
      simp [same, others]
  case sized => exact fun c holds' => by cases holds'
  case free =>
    intro _
    have := h.sized caller holds
    rw [counted] at this
    simp only [unlock_size, unlock_queue]
    omega
  case ordered => exact h.ordered

theorem Coherent.advanced {shared shared' : SharedQueue ι α} (h : shared.Coherent) {caller : ι}
    {returned : Option (Returned α)} (advance : Advance shared caller returned shared') :
    shared'.Coherent := by
  have inside := h.inside caller
  cases advance with
  | idles at_ => exact h
  | locks at_ free | acquires at_ free => exact h.locked free trivial rfl
  | refused at_ held | misses at_ held =>
    exact h.move (by simp [at_, Position.Inside]) (by simp [Position.Inside])
  | emplaces at_ =>
    have holds := inside.mp (by simp [at_, Position.Inside])
    have sized := h.sized caller holds
    refine h.held holds (by simp [Position.Inside]) ?_ ?_
    · simp [at_, Position.lag] at sized ⊢
      exact sized
    · rw [h.ordered, List.append_assoc]
  | counts at_ | uncounts at_ =>
    have holds := inside.mp (by simp [at_, Position.Inside])
    have sized := h.sized caller holds
    refine h.held holds (by simp [Position.Inside]) ?_ h.ordered
    simp [at_, Position.lag] at sized ⊢
    omega
  | pops at_ queue =>
    have holds := inside.mp (by simp [at_, Position.Inside])
    have sized := h.sized caller holds
    refine h.held holds (by simp [Position.Inside]) ?_ ?_
    · simp [at_, Position.lag, queue] at sized ⊢
      omega
    · rw [h.ordered, queue, List.append_assoc]
      rfl
  | returns at_ | releases at_ =>
    exact h.unlocked (inside.mp (by simp [at_, Position.Inside])) (by simp [at_, Position.lag])

theorem Coherent.advance {shared shared' : SharedQueue ι α} (h : shared.Coherent) {caller : ι}
    {returned : Option (Returned α)} (taken : shared.advance caller = .ok (returned, shared')) :
    shared'.Coherent := h.advanced (advance_cases taken)

end SharedQueue
end AdaptiveAutosar.Com
