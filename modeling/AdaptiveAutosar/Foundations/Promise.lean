import AdaptiveAutosar.Foundations.Cursor

/-! # Promises and futures

`std::promise<void>` over a list of shared states: the state of a promise is not ready until it is set, and
is set once. A future is the index of its state.
-/

namespace Foundations
set_option autoImplicit false

/-- What a shared state that is ready holds. -/
inductive Settled (ε : Type) where
  | value
  | exception (error : ε)
  | brokenPromise
  deriving DecidableEq, Repr

abbrev SharedStates (ε : Type) := List (Option (Settled ε))

/-- `retrieved`: `get_future` has been called. -/
structure Promise where
  state : ℕ
  retrieved : Bool
  deriving DecidableEq, Repr

namespace Promise
variable {ε : Type} {states : SharedStates ε} {promise : Promise}

def make (states : SharedStates ε) : Promise × SharedStates ε := (⟨states.length, false⟩, states ++ [none])

def getFuture (promise : Promise) : Outcome (ℕ × Promise) :=
  if promise.retrieved then .error (.thrown (.futureError "std::future_error: Future already retrieved"))
  else .ok (promise.state, { promise with retrieved := true })

/-- `set_value` and `set_exception`. -/
def set (promise : Promise) (settled : Settled ε) (states : SharedStates ε) : Outcome (SharedStates ε) :=
  match states[promise.state]? with
  | some none => .ok (List.set states promise.state (some settled))
  | _ => .error (.thrown (.futureError "std::future_error: Promise already satisfied"))

/-- Setting a promise, with the exception of one that is set already caught. -/
def trySet (promise : Promise) (settled : Settled ε) (states : SharedStates ε) : SharedStates ε :=
  match promise.set settled states with
  | .ok states' => states'
  | .error _ => states

/-- The promise is assigned a new one. A state that is not ready is broken. -/
def renew (promise : Promise) (states : SharedStates ε) : Promise × SharedStates ε :=
  match states[promise.state]? with
  | some none => make (List.set states promise.state (some .brokenPromise))
  | _ => make states

/-- What a future holds, once it is ready. -/
def resultOf (states : SharedStates ε) (future : ℕ) : Option (Settled ε) := states[future]?.join

theorem resultOf_of_pending (pending : states[promise.state]? = some none) :
    resultOf states promise.state = none := by
  unfold resultOf
  rw [pending]
  rfl

theorem resultOf_set {state : ℕ} (inside : state < states.length) (settled : Settled ε) (future : ℕ) :
    resultOf (List.set states state (some settled)) future =
      if future = state then some settled else resultOf states future := by
  unfold resultOf
  rw [List.getElem?_set]
  by_cases here : state = future
  · rw [if_pos here, if_pos inside, if_pos here.symm]
    rfl
  · rw [if_neg here, if_neg (Ne.symm here)]

/-- A new state is not ready. -/
theorem resultOf_append (states : SharedStates ε) (future : ℕ) :
    resultOf (states ++ [none]) future = resultOf states future := by
  unfold resultOf
  by_cases inside : future < states.length
  · rw [List.getElem?_append_left inside]
  · rw [List.getElem?_append_right (by omega), List.getElem?_eq_none (by omega : states.length ≤ future)]
    rcases Nat.eq_zero_or_pos (future - states.length) with zero | positive
    · rw [zero]
      rfl
    · rw [List.getElem?_eq_none (by rw [List.length_singleton]; omega)]

theorem getFuture_fresh (fresh : promise.retrieved = false) :
    promise.getFuture = .ok (promise.state, ⟨promise.state, true⟩) := by
  unfold getFuture
  rw [fresh]
  rfl

theorem set_pending (pending : states[promise.state]? = some none) (settled : Settled ε) :
    promise.set settled states = .ok (List.set states promise.state (some settled)) := by
  unfold set
  rw [pending]

theorem set_settled {before : Settled ε} (ready : states[promise.state]? = some (some before))
    (settled : Settled ε) :
    promise.set settled states =
      .error (.thrown (.futureError "std::future_error: Promise already satisfied")) := by
  unfold set
  rw [ready]

/-- A promise is set by trying unless it was before; it is ready afterwards. -/
theorem trySet_cases (promise : Promise) (inside : promise.state < states.length) (settled : Settled ε) :
    (promise.trySet settled states = states ∨
        states[promise.state]? = some none ∧
          promise.trySet settled states = List.set states promise.state (some settled)) ∧
      (promise.trySet settled states).length = states.length ∧
      ∃ ready, (promise.trySet settled states)[promise.state]? = some (some ready) := by
  unfold trySet
  rcases there : states[promise.state]? with _ | _ | before
  · rw [List.getElem?_eq_getElem inside] at there
    cases there
  · rw [set_pending there]
    refine ⟨.inr ⟨rfl, rfl⟩, List.length_set, settled, ?_⟩
    rw [List.getElem?_set_self inside]
  · rw [set_settled there]
    exact ⟨.inl rfl, rfl, before, there⟩

theorem renew_settled {before : Settled ε} (ready : states[promise.state]? = some (some before)) :
    promise.renew states = (⟨states.length, false⟩, states ++ [none]) := by
  unfold renew
  rw [ready]
  rfl

/-- The new promise has a state of its own, behind all others. -/
theorem exists_renew (promise : Promise) (states : SharedStates ε) :
    ∃ states', promise.renew states = (⟨states'.length, false⟩, states' ++ [none]) := by
  unfold renew
  split
  · exact ⟨_, rfl⟩
  · exact ⟨_, rfl⟩

end Promise
end Foundations
