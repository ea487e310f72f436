import AdaptiveAutosar.Foundations.Cursor
import AdaptiveAutosar.Foundations.OrderedMap

/-! # Network layers

`ara::com::helper::NetworkLayer`. A receiver callback is kept under the address of its object and
works on the objects of all receivers; each is given a message decoded anew, and an exception ends the
loop over them.
-/

namespace AdaptiveAutosar.Com
open Foundations
set_option autoImplicit false

/-- `std::function<void(T)>`: how the call ends and what it leaves of the objects. -/
abbrev ReceiverCallback (T σ : Type) := T → σ → Outcome Unit × σ

structure NetworkLayer (T σ : Type) where
  receiverCallbacks : OrderedMap ℕ (ReceiverCallback T σ)

/-- How a delivery ends, what it leaves of the objects, and which of them were handed which message. -/
structure Delivery (T σ : Type) where
  outcome : Outcome Unit
  objects : σ
  handed : List (ℕ × T)

namespace NetworkLayer
variable {T σ : Type}

def fire (deserialize : Bytes → Outcome T) (payload : Bytes) :
    List (ℕ × ReceiverCallback T σ) → σ → Delivery T σ
  | [], objects => ⟨.ok (), objects, []⟩
  | (object, callback) :: rest, objects =>
    match deserialize payload with
    | .error e => ⟨.error e, objects, []⟩
    | .ok receivedMessage =>
      match callback receivedMessage objects with
      | (.error e, objects) => ⟨.error e, objects, [(object, receivedMessage)]⟩
      | (.ok (), objects) =>
        let delivery := fire deserialize payload rest objects
        { delivery with handed := (object, receivedMessage) :: delivery.handed }

def fireReceiverCallbacks (layer : NetworkLayer T σ) (deserialize : Bytes → Outcome T) (payload : Bytes)
    (objects : σ) : Delivery T σ :=
  fire deserialize payload layer.receiverCallbacks.entries objects

/-- Each callback returns on the message, with the objects as the ones before it have left them. -/
def Returning (message : T) : List (ℕ × ReceiverCallback T σ) → σ → Prop
  | [], _ => True
  | (_, callback) :: rest, objects =>
    (callback message objects).1 = .ok () ∧ Returning message rest (callback message objects).2

/-! ## What a delivery does -/

variable {deserialize : Bytes → Outcome T} {payload : Bytes}

/-- Of a payload that is not decoded no callback hears, and without callbacks nobody decodes it. -/
theorem fire_error {e : Fault} (undecoded : deserialize payload = .error e)
    (callbacks : List (ℕ × ReceiverCallback T σ)) (objects : σ) :
    fire deserialize payload callbacks objects =
      ⟨if callbacks = [] then .ok () else .error e, objects, []⟩ := by
  cases callbacks with
  | nil => rfl
  | cons entry rest =>
    rw [fire, undecoded, if_neg (List.cons_ne_nil _ _)]

/-- A decoded message ends normally exactly when all callbacks do, and then each object is handed it. -/
theorem fire_ok {message : T} (decoded : deserialize payload = .ok message)
    (callbacks : List (ℕ × ReceiverCallback T σ)) (objects : σ) :
    ((fire deserialize payload callbacks objects).outcome = .ok () ↔
        Returning message callbacks objects) ∧
      (Returning message callbacks objects →
        (fire deserialize payload callbacks objects).handed =
          callbacks.map fun entry => (entry.1, message)) := by
  induction callbacks generalizing objects with
  | nil => exact ⟨iff_of_true rfl trivial, fun _ => rfl⟩
  | cons entry rest ih =>
    obtain ⟨object, callback⟩ := entry
    obtain ⟨ends, hands⟩ := ih (callback message objects).2
    rw [fire, decoded]
    simp only [Returning]
    rcases called : callback message objects with ⟨_ | ⟨⟩, left⟩
    · simp
    · rw [called] at ends hands
      simp only [true_and]
      refine ⟨ends, ?_⟩
      intro returning
      rw [hands returning, List.map_cons]

/-- Each registered object is handed the message once, and nothing else is handed to anybody. -/
def ReachesEach (layer : NetworkLayer T σ) (delivery : Delivery T σ) (message : T) : Prop :=
  (delivery.handed.map Prod.fst).Nodup ∧
    ∀ object received, (object, received) ∈ delivery.handed ↔
      object ∈ layer.receiverCallbacks.keys ∧ received = message

theorem fireReceiverCallbacks_reachesEach (layer : NetworkLayer T σ) {message : T} {objects : σ}
    (decoded : deserialize payload = .ok message)
    (returning : Returning message layer.receiverCallbacks.entries objects) :
    layer.ReachesEach (layer.fireReceiverCallbacks deserialize payload objects) message := by
  have handed := (fire_ok decoded layer.receiverCallbacks.entries objects).2 returning
  unfold ReachesEach fireReceiverCallbacks
  rw [handed, List.map_map]
  constructor
  · exact layer.receiverCallbacks.keys_nodup
  · intro object received
    simp only [OrderedMap.keys, List.mem_map, Prod.mk.injEq]
    constructor
    · rintro ⟨entry, there, rfl, rfl⟩
      exact ⟨⟨entry, there, rfl⟩, rfl⟩
    · rintro ⟨⟨entry, there, rfl⟩, rfl⟩
      exact ⟨entry, there, rfl, rfl⟩

end NetworkLayer

end AdaptiveAutosar.Com
