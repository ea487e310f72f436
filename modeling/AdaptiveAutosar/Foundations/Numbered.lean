import AdaptiveAutosar.Foundations.Transition

/-! # Values sent under a number of their own

Some of the outputs of a run are values sent for a key. Where each of them is what the count of the ones
before it for the same key calls for, the values of a key are numbered, however the keys take turns.
-/

namespace Foundations
set_option autoImplicit false

variable {σ ι ο κ β ε : Type} {step : σ → ι → Except ε (ο × σ)} {init : σ}

/-- The values sent for a key, the oldest first. -/
def sentFor (sends : κ → ι → ο → Option β) (key : κ) (trace : List (Taken σ ι ο)) : List β :=
  trace.reverse.filterMap (fun taken => sends key taken.input taken.output)

namespace Run
variable {sends : κ → ι → ο → Option β}

theorem sentFor_cons (key : κ) (head : Taken σ ι ο) (trace : List (Taken σ ι ο)) :
    sentFor sends key (head :: trace) = sentFor sends key trace ++ (sends key head.input head.output).toList := by
  unfold sentFor
  rw [List.reverse_cons, List.filterMap_append, List.filterMap_cons, List.filterMap_nil]
  cases sends key head.input head.output with
  | none => rfl
  | some value => rfl

/-- What a step leaves of the counts of the values sent. -/
def counted (sends : κ → ι → ο → Option β) (counts : κ → ℕ) (input : ι) (output : ο) (key : κ) : ℕ :=
  counts key + (sends key input output).toList.length

/-- When a step from a state that agrees with the counts agrees with the next counts, and sends what the
count of its key calls for, the values sent for every key are numbered from zero. -/
theorem numbered {agrees : (κ → ℕ) → σ → Prop} {calls : κ → ℕ → β → Prop} (start : agrees (fun _ => 0) init)
    (next : ∀ counts state input output state', agrees counts state →
      step state input = .ok (output, state') →
      agrees (counted sends counts input output) state' ∧
        ∀ key value, sends key input output = some value → calls key (counts key) value)
    {trace : List (Taken σ ι ο)} {state : σ} (run : Run step init trace state) (key : κ) {k : ℕ} {value : β}
    (sent : (sentFor sends key trace)[k]? = some value) : calls key k value := by
  have both : agrees (fun key => (sentFor sends key trace).length) state ∧
      ∀ key k value, (sentFor sends key trace)[k]? = some value → calls key k value := by
    clear sent
    induction run with
    | start => exact ⟨start, fun _ _ _ h => by simp [sentFor] at h⟩
    | @next trace state state' input output run taken ih =>
      obtain ⟨agreed, earlier⟩ := ih
      obtain ⟨agrees', here⟩ := next _ _ _ _ _ agreed taken
      constructor
      · have counts : (fun key => (sentFor sends key (⟨state, input, output⟩ :: trace)).length) =
            counted sends (fun key => (sentFor sends key trace).length) input output := by
          funext key
          rw [sentFor_cons, List.length_append, counted]
        rw [counts]
        exact agrees'
      · intro key k value sent
        rw [sentFor_cons] at sent
        rcases Nat.lt_or_ge k (sentFor sends key trace).length with old | new
        · rw [List.getElem?_append_left old] at sent
          exact earlier key k value sent
        · rw [List.getElem?_append_right new] at sent
          cases last_sent : sends key input output with
          | none => simp [last_sent] at sent
          | some last =>
            -- only the one value of this step is behind the older ones
            simp only [last_sent, Option.toList_some, List.getElem?_singleton] at sent
            split_ifs at sent with at_end
            have last_k : k = (sentFor sends key trace).length := by omega
            cases sent
            rw [last_k]
            exact here key value last_sent
  exact both.2 key k value sent

end Run
end Foundations
