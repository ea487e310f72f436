import AdaptiveAutosar.Com.Rpc.Socket

/-! # Sending datagrams

`SdNetworkLayer::onSend` and `PubSubEventNetworkLayer::onSend` take a payload out of their queue, copy
it to the front of a buffer of their own size and send the whole buffer, to their group or to each
unicast peer. Bytes copied behind the end of the buffer are written outside of it.
-/

namespace AdaptiveAutosar.Com
open Foundations Foundations.BigEndian
set_option autoImplicit false

/-- `std::array<uint8_t, size>`. -/
abbrev Buffer (size : ℕ) := { bytes : Bytes // bytes.length = size }

namespace Buffer
variable {size : ℕ}

def zero (size : ℕ) : Buffer size := ⟨List.replicate size 0, List.length_replicate⟩

/-- `std::copy_n` of a whole payload to the beginning of the buffer. -/
def copyN (buffer : Buffer size) (payload : Bytes) : Outcome (Buffer size) :=
  if fits : payload.length ≤ size then
    .ok ⟨payload ++ buffer.1.drop payload.length, by
      rw [List.length_append, List.length_drop, buffer.2]
      omega⟩
  else .error .undefined

theorem copyN_ok (buffer : Buffer size) {payload : Bytes} (fits : payload.length ≤ size) :
    ∃ filled, buffer.copyN payload = .ok filled ∧ payload <+: filled.1 := by
  rw [copyN, dif_pos fits]
  exact ⟨_, rfl, List.prefix_append _ _⟩

theorem copyN_undefined (buffer : Buffer size) {payload : Bytes} (exceeds : ¬ payload.length ≤ size) :
    buffer.copyN payload = .error .undefined := by
  rw [copyN, dif_neg exceeds]

end Buffer

structure Datagram where
  bytes : Bytes
  ipAddress : String
  port : UInt16
  deriving DecidableEq, Repr

/-- A round of `onSend`: whether `TryDequeue` gets the lock, and what the buffer holds before the copy. -/
structure SendRound (size : ℕ) where
  locked : Bool
  buffer : Buffer size

structure Destination where
  group : String
  port : UInt16
  unicastPeers : List String
  deriving DecidableEq, Repr

namespace Destination
variable {size : ℕ}

/-- The buffer to the group, or to each of the peers. -/
def datagrams (destination : Destination) (buffer : Buffer size) : List Datagram :=
  if destination.unicastPeers = [] then [⟨buffer.1, destination.group, destination.port⟩]
  else destination.unicastPeers.map fun peer => ⟨buffer.1, peer, destination.port⟩

def transmit (destination : Destination) (buffer : Buffer size) (payload : Bytes) :
    Outcome (List Datagram) := do
  let buffer ← buffer.copyN payload
  pure (destination.datagrams buffer)

/-- The loop over the queue for the rounds given: the datagrams sent and the queue left. -/
def drain (destination : Destination) : List (SendRound size) → List Bytes →
    Outcome (List Datagram × List Bytes)
  | [], queue => .ok ([], queue)
  | round :: rounds, queue =>
    if queue = [] then .ok ([], queue)
    else
      match ConcurrentQueue.tryDequeue queue round.locked with
      | (none, queue) => drain destination rounds queue
      | (some payload, queue) => do
        let sent ← destination.transmit round.buffer payload
        let (later, queue) ← drain destination rounds queue
        pure (sent ++ later, queue)

/-- Each payload is at the front of a buffer that was sent, and nothing else was sent. -/
inductive Whole (size : ℕ) (destination : Destination) : List Bytes → List Datagram → Prop where
  | nil : Whole size destination [] []
  | cons {payload : Bytes} {buffer : Buffer size} {payloads : List Bytes} {later : List Datagram}
      (front : payload <+: buffer.1) (rest : Whole size destination payloads later) :
      Whole size destination (payload :: payloads) (destination.datagrams buffer ++ later)

/-! ## The loop -/

theorem datagrams_ne_nil (destination : Destination) (buffer : Buffer size) :
    destination.datagrams buffer ≠ [] := by
  unfold datagrams
  split_ifs with group
  · exact List.cons_ne_nil _ _
  · exact fun none_ => group (List.map_eq_nil_iff.mp none_)

theorem bytes_of_mem {destination : Destination} {buffer : Buffer size}
    {datagram : Datagram} (there : datagram ∈ destination.datagrams buffer) :
    datagram.bytes = buffer.1 := by
  unfold datagrams at there
  split_ifs at there
  · rw [List.mem_singleton.mp there]
  · obtain ⟨peer, -, rfl⟩ := List.mem_map.mp there
    rfl

/-- A loop over payloads that fit returns, and has sent those whole that it has taken out. -/
theorem drain_fits (destination : Destination) (rounds : List (SendRound size)) (queue : List Bytes)
    (fit : ∀ payload ∈ queue, payload.length ≤ size) : ∃ payloads sent left,
      destination.drain rounds queue = .ok (sent, left) ∧ queue = payloads ++ left ∧
        Whole size destination payloads sent := by
  induction rounds generalizing queue with
  | nil => exact ⟨[], [], queue, rfl, rfl, .nil⟩
  | cons round rounds ih =>
    cases queue with
    | nil => exact ⟨[], [], [], rfl, rfl, .nil⟩
    | cons payload queue =>
      obtain ⟨fits, rest⟩ := List.forall_mem_cons.mp fit
      rw [drain, if_neg (List.cons_ne_nil _ _)]
      cases locked : round.locked with
      | false => exact ih (payload :: queue) fit
      | true =>
        obtain ⟨buffer, copied, front⟩ := round.buffer.copyN_ok fits
        obtain ⟨payloads, later, left, drained, split, whole⟩ := ih queue rest
        refine ⟨payload :: payloads, destination.datagrams buffer ++ later, left, ?_, ?_,
          .cons front whole⟩
        · simp [ConcurrentQueue.tryDequeue, transmit, copied, drained, bind, Except.bind, pure,
            Except.pure]
        · rw [split, List.cons_append]

theorem drain_over (destination : Destination) (buffer : Buffer size) {payload : Bytes}
    (exceeds : ¬ payload.length ≤ size) :
    destination.drain [⟨true, buffer⟩] [payload] = .error .undefined := by
  rw [drain, if_neg (List.cons_ne_nil _ _)]
  simp [ConcurrentQueue.tryDequeue, transmit, buffer.copyN_undefined exceeds, bind, Except.bind]

theorem tryEnqueue_fit {pending : List Bytes} {payload : Bytes}
    (fit : ∀ older ∈ pending, older.length ≤ size) (fits : payload.length ≤ size) (locked : Bool) :
    ∀ older ∈ (ConcurrentQueue.tryEnqueue pending locked payload).2, older.length ≤ size := by
  intro older there
  cases locked with
  | false => exact fit older there
  | true =>
    rcases List.mem_append.mp there with earlier | last
    · exact fit older earlier
    · rw [List.mem_singleton.mp last]
      exact fits

end Destination

/-! ## Receiving -/

/-- What `Receive` leaves of a datagram in a buffer: the rest of a longer one is lost. -/
def receive (size : ℕ) (datagram : Bytes) : Bytes := datagram.take size

def cSdServiceId : UInt16 := 0xFFFF

/-- The service ID from the first two elements of the buffer; those not received are indeterminate. -/
def serviceIdOf : Bytes → Outcome UInt16
  | b0 :: b1 :: _ => .ok (word16 b0 b1)
  | _ => .error .undefined

end AdaptiveAutosar.Com
