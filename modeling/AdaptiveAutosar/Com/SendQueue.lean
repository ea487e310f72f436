import AdaptiveAutosar.Com.ConcurrentQueue
import AdaptiveAutosar.Foundations.Transition

/-! # The queues of messages to be sent

`SocketRpcClient`, `SocketRpcServer`, `SdNetworkLayer` and `PubSubEventNetworkLayer` put a message into
their `mSendingQueue` with one `TryEnqueue`, whose result nobody looks at; `onSend` of the poller
takes the messages out until `Empty`. Any number of producers may send at a time.
-/

namespace AdaptiveAutosar.Com
open Foundations
set_option autoImplicit false

/-- Who has the queue. -/
inductive Layer where
  | rpcClient
  | rpcServer
  | sd
  | pubSub
  deriving DecidableEq, Repr

namespace Layer

/-- The buffer of the two datagram layers. -/
def cBufferSize : ℕ := 256

/-- What `onSend` does with a message it took out: the messages given to `send`. The RPC sockets
leave an empty one out; the datagram layers copy it into their buffer without a check. -/
def transmit (layer : Layer) (message : Bytes) : Outcome (List Bytes) :=
  match layer with
  | rpcClient | rpcServer => .ok (if message = [] then [] else [message])
  | sd | pubSub => if message.length ≤ cBufferSize then .ok [message] else .error .undefined

/-- The message is one for this layer: not empty, or at most as long as a datagram. -/
def Carries (layer : Layer) (message : Bytes) : Prop :=
  match layer with
  | rpcClient | rpcServer => message ≠ []
  | sd | pubSub => message.length ≤ cBufferSize

instance (layer : Layer) (message : Bytes) : Decidable (layer.Carries message) :=
  match layer with
  | rpcClient | rpcServer => inferInstanceAs (Decidable (message ≠ []))
  | sd | pubSub => inferInstanceAs (Decidable (message.length ≤ cBufferSize))

theorem transmit_of_carries {layer : Layer} {message : Bytes} (carries : layer.Carries message) :
    layer.transmit message = .ok [message] := by
  cases layer with
  | rpcClient | rpcServer => exact congrArg Except.ok (if_neg carries)
  | sd | pubSub => exact if_pos carries

end Layer

/-- Where the poller is in `onSend`. -/
inductive Sending where
  | resting
  | checking
  | dequeuing
  | transmitting (payload : Bytes)
  deriving DecidableEq, Repr

/-- The poller is the caller `none`. `sent` are the messages whose send has returned, `transmitted`
those given to the socket. -/
structure SendQueue (ι : Type) where
  sendingQueue : SharedQueue (Option ι) Bytes
  poller : Sending
  sent : List Bytes
  transmitted : List Bytes

inductive SendStep (ι : Type) where
  | send (producer : ι) (message : Bytes)
  | produce (producer : ι)
  | poll

namespace SendQueue
variable {ι : Type} [DecidableEq ι]

def make : SendQueue ι := ⟨.make, .resting, [], []⟩

/-- A send returns whether or not the message got into the queue. -/
def returns (state : SendQueue ι) : Option (Returned Bytes) → SendQueue ι
  | some (.enqueued message _) => { state with sent := state.sent ++ [message] }
  | _ => state

/-- A producer sends one message at a time; the poller begins `onSend` when it rests. -/
def step (layer : Layer) (state : SendQueue ι) : SendStep ι → Outcome (Unit × SendQueue ι)
  | .send producer message =>
    match state.sendingQueue.position (some producer) with
    | .outside => .ok ((), { state with
        sendingQueue := state.sendingQueue.move (some producer) (.enqueueLock message) })
    | _ => .ok ((), state)
  | .produce producer => do
    let (returned, sendingQueue) ← state.sendingQueue.advance (some producer)
    pure ((), { state with sendingQueue }.returns returned)
  | .poll =>
    match state.poller with
    | .resting => .ok ((), { state with poller := .checking })
    | .checking =>
      if state.sendingQueue.empty then .ok ((), { state with poller := .resting })
      else .ok ((), { state with
        sendingQueue := state.sendingQueue.move none .dequeueLock
        poller := .dequeuing })
    | .dequeuing => do
      let (returned, sendingQueue) ← state.sendingQueue.advance none
      match returned with
      | some (.dequeued (some payload)) =>
        pure ((), { state with sendingQueue, poller := .transmitting payload })
      | some _ => pure ((), { state with sendingQueue, poller := .checking })
      | none => pure ((), { state with sendingQueue })
    | .transmitting payload => do
      let messages ← layer.transmit payload
      pure ((), { state with transmitted := state.transmitted ++ messages, poller := .checking })

/-! ## What is kept -/

/-- The message a producer has put into the queue in a send that has not returned. -/
def unreturned (state : SendQueue ι) : List Bytes :=
  match state.sendingQueue.mutex with
  | some (some producer) => (state.sendingQueue.position (some producer)).put
  | _ => []

/-- The message the poller has taken out and not transmitted. -/
def inHand (state : SendQueue ι) : List Bytes :=
  match state.poller with
  | .transmitting payload => [payload]
  | .dequeuing => (state.sendingQueue.position none).took
  | .resting | .checking => []

/-- The messages sent are those transmitted, the one in the poller's hand and those in the queue, each
once and in this order, and all of them can be transmitted. -/
structure Kept (layer : Layer) (state : SendQueue ι) : Prop where
  order : state.sent ++ state.unreturned =
    state.transmitted ++ state.inHand ++ state.sendingQueue.queue
  carried : ∀ message ∈ state.sent, layer.Carries message

/-- No producer tries the lock while it is held, and no send of a message returns that the layer
cannot transmit. -/
def Uncontended (layer : Layer) (state : SendQueue ι) : SendStep ι → Prop
  | .produce producer =>
    match state.sendingQueue.position (some producer) with
    | .enqueueLock _ => state.sendingQueue.mutex = none
    | .enqueueUnlock message => layer.Carries message
    | _ => True
  | _ => True

instance (layer : Layer) (state : SendQueue ι) (step : SendStep ι) :
    Decidable (state.Uncontended layer step) := by
  unfold Uncontended
  split
  · split <;> infer_instance
  · infer_instance

end SendQueue

namespace Position
variable {α : Type}

/-- Outside, or in a call of `TryEnqueue`. -/
def Enqueuing : Position α → Prop
  | .outside | .enqueueLock _ | .emplace _ | .countUp _ | .enqueueUnlock _ => True
  | .dequeueLock | .pop | .countDown _ | .dequeueUnlock _ => False

/-- In a call of `TryDequeue`. -/
def Dequeuing : Position α → Prop
  | .dequeueLock | .pop | .countDown _ | .dequeueUnlock _ => True
  | .outside | .enqueueLock _ | .emplace _ | .countUp _ | .enqueueUnlock _ => False

/-- In `TryDequeue`, and nothing taken out yet. -/
def Taking (position : Position α) : Prop := position = .dequeueLock ∨ position = .pop

end Position

namespace SendQueue
variable {ι : Type} [DecidableEq ι] {layer : Layer} {state state' : SendQueue ι}

/-- The producers only enqueue and the poller only dequeues, from a queue it has found not empty;
what a producer has put in last stays the last in the queue until its send returns. -/
structure Sound (state : SendQueue ι) : Prop where
  coherent : state.sendingQueue.Coherent
  producers : ∀ producer, (state.sendingQueue.position (some producer)).Enqueuing
  busy : state.poller = .dequeuing → (state.sendingQueue.position none).Dequeuing
  idle : state.poller ≠ .dequeuing → state.sendingQueue.position none = .outside
  last : ∀ producer message, (state.sendingQueue.position (some producer)).put = [message] →
    ∃ front, state.sendingQueue.queue = front ++ [message]
  available : (state.sendingQueue.position none).Taking → 0 < state.sendingQueue.size

omit [DecidableEq ι] in
theorem sound_make : (make : SendQueue ι).Sound where
  coherent := SharedQueue.coherent_make
  producers := fun _ => trivial
  busy := by simp [make]
  idle := fun _ => rfl
  last := by simp [make, SharedQueue.make, Position.put]
  available := by simp [make, SharedQueue.make, Position.Taking]

omit [DecidableEq ι] in
theorem kept_make (layer : Layer) : Kept layer (make : SendQueue ι) where
  order := rfl
  carried := by simp [make]

/-- What a step can do. -/
inductive Effect (layer : Layer) (state : SendQueue ι) : SendStep ι → SendQueue ι → Prop where
  | waits {producer : ι} {message : Bytes} : Effect layer state (.send producer message) state
  | idles {producer : ι} (outside : state.sendingQueue.position (some producer) = .outside) :
      Effect layer state (.produce producer) state
  | begins {producer : ι} {message : Bytes}
      (outside : state.sendingQueue.position (some producer) = .outside) :
      Effect layer state (.send producer message)
        { state with sendingQueue := state.sendingQueue.move (some producer) (.enqueueLock message) }
  | locks {producer : ι} {message : Bytes}
      (at_ : state.sendingQueue.position (some producer) = .enqueueLock message)
      (free : state.sendingQueue.mutex = none) :
      Effect layer state (.produce producer)
        { state with sendingQueue := state.sendingQueue.lock (some producer) (.emplace message) }
  | refused {producer : ι} {message : Bytes} {holder : Option ι}
      (at_ : state.sendingQueue.position (some producer) = .enqueueLock message)
      (held : state.sendingQueue.mutex = some holder) :
      Effect layer state (.produce producer)
        { state with
          sendingQueue := state.sendingQueue.move (some producer) .outside
          sent := state.sent ++ [message] }
  | emplaces {producer : ι} {message : Bytes}
      (at_ : state.sendingQueue.position (some producer) = .emplace message) :
      Effect layer state (.produce producer)
        { state with sendingQueue := state.sendingQueue.put (some producer) message }
  | counts {producer : ι} {message : Bytes}
      (at_ : state.sendingQueue.position (some producer) = .countUp message) :
      Effect layer state (.produce producer)
        { state with
          sendingQueue := state.sendingQueue.count (some producer) (state.sendingQueue.size + 1)
            (.enqueueUnlock message) }
  | returns {producer : ι} {message : Bytes}
      (at_ : state.sendingQueue.position (some producer) = .enqueueUnlock message) :
      Effect layer state (.produce producer)
        { state with
          sendingQueue := state.sendingQueue.unlock (some producer)
          sent := state.sent ++ [message] }
  | wakes (rests : state.poller = .resting) :
      Effect layer state .poll { state with poller := .checking }
  | rests (checks : state.poller = .checking) (empty : state.sendingQueue.size = 0) :
      Effect layer state .poll { state with poller := .resting }
  | calls (checks : state.poller = .checking) (available : 0 < state.sendingQueue.size) :
      Effect layer state .poll
        { state with sendingQueue := state.sendingQueue.move none .dequeueLock, poller := .dequeuing }
  | acquires (busy : state.poller = .dequeuing) (at_ : state.sendingQueue.position none = .dequeueLock)
      (free : state.sendingQueue.mutex = none) :
      Effect layer state .poll
        { state with sendingQueue := state.sendingQueue.lock none .pop, poller := .dequeuing }
  | misses {holder : Option ι} (busy : state.poller = .dequeuing)
      (at_ : state.sendingQueue.position none = .dequeueLock)
      (held : state.sendingQueue.mutex = some holder) :
      Effect layer state .poll
        { state with sendingQueue := state.sendingQueue.move none .outside, poller := .checking }
  | pops {message : Bytes} {rest : List Bytes} (busy : state.poller = .dequeuing)
      (at_ : state.sendingQueue.position none = .pop)
      (queue : state.sendingQueue.queue = message :: rest) :
      Effect layer state .poll
        { state with sendingQueue := state.sendingQueue.take none message rest, poller := .dequeuing }
  | uncounts {message : Bytes} (busy : state.poller = .dequeuing)
      (at_ : state.sendingQueue.position none = .countDown message) :
      Effect layer state .poll
        { state with
          sendingQueue := state.sendingQueue.count none (state.sendingQueue.size - 1)
            (.dequeueUnlock message)
          poller := .dequeuing }
  | releases {message : Bytes} (busy : state.poller = .dequeuing)
      (at_ : state.sendingQueue.position none = .dequeueUnlock message) :
      Effect layer state .poll
        { state with
          sendingQueue := state.sendingQueue.unlock none
          poller := .transmitting message }
  | transmits {message : Bytes} {messages : List Bytes} (hand : state.poller = .transmitting message)
      (given : layer.transmit message = .ok messages) :
      Effect layer state .poll
        { state with transmitted := state.transmitted ++ messages, poller := .checking }

theorem step_effect {step : SendStep ι} (h : state.Sound)
    (taken : state.step layer step = .ok ((), state')) : Effect layer state step state' := by
  cases step with
  | send producer message =>
    simp only [SendQueue.step] at taken
    split at taken
    · cases taken
      exact .begins ‹_›
    · cases taken
      exact .waits
  | produce producer =>
    have enqueuing := h.producers producer
    obtain ⟨⟨returned, sendingQueue⟩, advanced, rest⟩ := bind_eq_ok.mp taken
    cases rest
    cases SharedQueue.advance_cases advanced with
    | idles at_ => exact .idles at_
    | locks at_ free => exact .locks at_ free
    | refused at_ held => exact .refused at_ held
    | emplaces at_ => exact .emplaces at_
    | counts at_ => exact .counts at_
    | returns at_ => exact .returns at_
    | acquires at_ | misses at_ | pops at_ | uncounts at_ | releases at_ =>
      simp [at_, Position.Enqueuing] at enqueuing
  | poll =>
    unfold SendQueue.step at taken
    cases poller : state.poller with
    | resting =>
      simp only [poller] at taken
      cases taken
      exact .wakes poller
    | checking =>
      simp only [poller] at taken
      split_ifs at taken with empty
      · cases taken
        exact .rests poller (by simpa [SharedQueue.empty] using empty)
      · cases taken
        exact .calls poller (Nat.pos_of_ne_zero (by simpa [SharedQueue.empty] using empty))
    | dequeuing =>
      have dequeuing := h.busy poller
      simp only [poller] at taken
      obtain ⟨⟨returned, sendingQueue⟩, advanced, rest⟩ := bind_eq_ok.mp taken
      cases SharedQueue.advance_cases advanced with
      | acquires at_ free =>
        cases rest
        exact .acquires poller at_ free
      | misses at_ held =>
        cases rest
        exact .misses poller at_ held
      | pops at_ queue =>
        cases rest
        exact .pops poller at_ queue
      | uncounts at_ =>
        cases rest
        exact .uncounts poller at_
      | releases at_ =>
        cases rest
        exact .releases poller at_
      | idles at_ | locks at_ | refused at_ | emplaces at_ | counts at_ | returns at_ =>
        simp [at_, Position.Dequeuing] at dequeuing
    | transmitting message =>
      simp only [poller] at taken
      obtain ⟨messages, given, taken⟩ := bind_eq_ok.mp taken
      cases taken
      exact .transmits poller given

omit [DecidableEq ι] in
/-- A producer whose message is in the queue holds the lock. -/
theorem Sound.entered_holds (h : state.Sound) {producer : ι} {message : Bytes}
    (entered : (state.sendingQueue.position (some producer)).put = [message]) :
    state.sendingQueue.mutex = some (some producer) := by
  refine (h.coherent.inside (some producer)).mp ?_
  cases at_ : state.sendingQueue.position (some producer) <;> simp_all [Position.put, Position.Inside]

/-- A step of a producer, which leaves the queue alone while another one's message is the last in it. -/
theorem Sound.produced (h : state.Sound) {producer : ι} {sendingQueue : SharedQueue (Option ι) Bytes}
    {next : Position Bytes} {sent : List Bytes} (coherent : sendingQueue.Coherent)
    (positions : ∀ caller, sendingQueue.position caller =
      if caller = some producer then next else state.sendingQueue.position caller)
    (enqueuing : next.Enqueuing)
    (last : ∀ message, next.put = [message] → ∃ front, sendingQueue.queue = front ++ [message])
    (others : ∀ other, other ≠ producer → state.sendingQueue.mutex = some (some other) →
      sendingQueue.queue = state.sendingQueue.queue)
    (counted : state.sendingQueue.size ≤ sendingQueue.size) :
    Sound { state with sendingQueue, sent } := by
  constructor
  case coherent => exact coherent
  case producers =>
    intro other
    have := h.producers other
    simp only [positions]
    split_ifs
    · exact enqueuing
    · exact this
  case busy => simpa [positions] using h.busy
  case idle => simpa [positions] using h.idle
  case last =>
    intro other message
    simp only [positions, Option.some.injEq]
    split_ifs with it
    · exact last message
    · intro entered
      rw [others other it (h.entered_holds entered)]
      exact h.last other message entered
  case available =>
    intro taking
    have := h.available (by simpa [positions] using taking)
    exact Nat.lt_of_lt_of_le this counted

omit [DecidableEq ι] in
/-- A step of the poller, which takes nothing away while a producer's message is the last in the
queue. -/
theorem Sound.polled (h : state.Sound) {sendingQueue : SharedQueue (Option ι) Bytes}
    {next : Position Bytes} {poller : Sending} {transmitted : List Bytes}
    (coherent : sendingQueue.Coherent)
    (positions : ∀ caller, sendingQueue.position caller =
      if caller = none then next else state.sendingQueue.position caller)
    (busy : poller = .dequeuing → next.Dequeuing) (idle : poller ≠ .dequeuing → next = .outside)
    (others : ∀ producer, state.sendingQueue.mutex = some (some producer) →
      sendingQueue.queue = state.sendingQueue.queue)
    (available : next.Taking → 0 < sendingQueue.size) :
    Sound { state with sendingQueue, poller, transmitted } := by
  constructor
  case coherent => exact coherent
  case producers => simpa [positions] using h.producers
  case busy => simpa [positions] using busy
  case idle => simpa [positions] using idle
  case last =>
    intro producer message entered
    have before : (state.sendingQueue.position (some producer)).put = [message] := by
      simpa [positions] using entered
    show ∃ front, sendingQueue.queue = front ++ [message]
    rw [others producer (h.entered_holds before)]
    exact h.last producer message before
  case available => simpa [positions] using available

theorem sound_step {step : SendStep ι} (h : state.Sound)
    (taken : state.step layer step = .ok ((), state')) : state'.Sound := by
  have coherent := h.coherent
  cases step_effect h taken with
  | waits => exact h
  | idles outside => exact h
  | begins outside =>
    refine h.produced ?_ (fun _ => SharedQueue.move_position ..) trivial ?_ (fun _ _ _ => rfl) le_rfl
    · exact coherent.move (by simp [outside, Position.Inside]) (by simp [Position.Inside])
    · simp [Position.put]
  | locks at_ free =>
    refine h.produced ?_ (fun _ => SharedQueue.lock_position ..) trivial ?_ (fun _ _ _ => rfl) le_rfl
    · exact coherent.locked free trivial rfl
    · simp [Position.put]
  | refused at_ held =>
    refine h.produced ?_ (fun _ => SharedQueue.move_position ..) trivial ?_ (fun _ _ _ => rfl) le_rfl
    · exact coherent.move (by simp [at_, Position.Inside]) (by simp [Position.Inside])
    · simp [Position.put]
  | @emplaces producer message at_ =>
    have holds := (coherent.inside (some producer)).mp (by simp [at_, Position.Inside])
    refine h.produced (coherent.advanced (.emplaces at_)) (fun _ => SharedQueue.put_position ..) trivial ?_ ?_ le_rfl
    · intro other entered
      have : other = message := by simpa [Position.put, eq_comm] using entered
      exact ⟨_, by rw [this]; rfl⟩
    · intro other it otherHolds
      rw [holds] at otherHolds
      cases otherHolds
      exact absurd rfl it
  | @counts producer message at_ =>
    refine h.produced (coherent.advanced (.counts at_)) (fun _ => SharedQueue.count_position ..) trivial ?_
      (fun _ _ _ => rfl) (Nat.le_succ _)
    intro other entered
    have : other = message := by simpa [Position.put, eq_comm] using entered
    exact h.last producer other (by rw [at_, this]; rfl)
  | returns at_ =>
    refine h.produced (coherent.advanced (.returns at_)) (fun _ => SharedQueue.unlock_position ..) trivial ?_
      (fun _ _ _ => rfl) le_rfl
    simp [Position.put]
  | wakes rests =>
    have outside := h.idle (by simp [rests])
    exact h.polled coherent (by simp +contextual [outside]) (by simp) (fun _ => outside)
      (fun _ _ => rfl) (by simp [outside, Position.Taking])
  | rests checks empty =>
    have outside := h.idle (by simp [checks])
    exact h.polled coherent (by simp +contextual [outside]) (by simp) (fun _ => outside)
      (fun _ _ => rfl) (by simp [outside, Position.Taking])
  | calls checks available =>
    have outside := h.idle (by simp [checks])
    refine h.polled ?_ (fun _ => SharedQueue.move_position ..) (fun _ => trivial) (by simp)
      (fun _ _ => rfl) (fun _ => available)
    exact coherent.move (by simp [outside, Position.Inside]) (by simp [Position.Inside])
  | acquires busy at_ free =>
    refine h.polled ?_ (fun _ => SharedQueue.lock_position ..) (fun _ => trivial) (by simp)
      (fun _ _ => rfl) (fun _ => h.available (Or.inl at_))
    exact coherent.locked free trivial rfl
  | misses busy at_ held =>
    refine h.polled ?_ (fun _ => SharedQueue.move_position ..) (by simp) (fun _ => rfl)
      (fun _ _ => rfl) (by simp [Position.Taking])
    exact coherent.move (by simp [at_, Position.Inside]) (by simp [Position.Inside])
  | pops busy at_ queue =>
    have holds := (coherent.inside none).mp (by simp [at_, Position.Inside])
    refine h.polled (coherent.advanced (.pops at_ queue)) (fun _ => SharedQueue.take_position ..) (fun _ => trivial)
      (by simp) ?_ (by simp [Position.Taking])
    intro producer other
    rw [holds] at other
    cases other
  | uncounts busy at_ =>
    exact h.polled (coherent.advanced (.uncounts at_)) (fun _ => SharedQueue.count_position ..) (fun _ => trivial)
      (by simp) (fun _ _ => rfl) (by simp [Position.Taking])
  | releases busy at_ =>
    exact h.polled (coherent.advanced (.releases at_)) (fun _ => SharedQueue.unlock_position ..) (by simp)
      (fun _ => rfl) (fun _ _ => rfl) (by simp [Position.Taking])
  | transmits hand given =>
    have outside := h.idle (by simp [hand])
    exact h.polled coherent (by simp +contextual [outside]) (by simp) (fun _ => outside)
      (fun _ _ => rfl) (by simp [outside, Position.Taking])

/-! ## The order of the messages -/

omit [DecidableEq ι] in
theorem unreturned_of_mutex (mutex : ∀ producer, state.sendingQueue.mutex ≠ some (some producer)) :
    state.unreturned = [] := by
  unfold unreturned
  split
  · exact absurd ‹_› (mutex _)
  · rfl

omit [DecidableEq ι] in
theorem unreturned_of_holder {producer : ι} (holds : state.sendingQueue.mutex = some (some producer)) :
    state.unreturned = (state.sendingQueue.position (some producer)).put := by
  simp only [unreturned, holds]

omit [DecidableEq ι] in
theorem unreturned_congr (state : SendQueue ι) (mutex : state'.sendingQueue.mutex = state.sendingQueue.mutex)
    (same : ∀ producer, state.sendingQueue.mutex = some (some producer) →
      state'.sendingQueue.position (some producer) = state.sendingQueue.position (some producer)) :
    state'.unreturned = state.unreturned := by
  unfold unreturned
  rw [mutex]
  split
  · rename_i producer holds
    rw [same producer holds]
  · rfl

omit [DecidableEq ι] in
theorem inHand_produced (state : SendQueue ι) (sendingQueue : SharedQueue (Option ι) Bytes)
    (sent : List Bytes) (same : sendingQueue.position none = state.sendingQueue.position none) :
    (SendQueue.mk sendingQueue state.poller sent state.transmitted).inHand = state.inHand := by
  simp only [inHand, same]

omit [DecidableEq ι] in
/-- The message in the poller's hand has been sent: the one whose send may still be open is in the
queue. -/
theorem Sound.hand_sent (h : state.Sound) (kept : state.Kept layer) {message : Bytes}
    (hand : state.inHand = [message]) : message ∈ state.sent := by
  have order := kept.order
  rw [hand] at order
  cases open_ : state.unreturned with
  | nil =>
    rw [open_, List.append_nil] at order
    rw [order]
    simp
  | cons other rest =>
    obtain ⟨producer, holds⟩ : ∃ producer, state.sendingQueue.mutex = some (some producer) := by
      by_contra none
      rw [unreturned_of_mutex (not_exists.mp none)] at open_
      cases open_
    have only : (state.sendingQueue.position (some producer)).put = [other] ∧ rest = [] := by
      rw [unreturned_of_holder holds] at open_
      cases at_ : state.sendingQueue.position (some producer) <;> simp_all [Position.put]
    obtain ⟨front, queue⟩ := h.last producer other only.1
    rw [open_, only.2, queue, ← List.append_assoc] at order
    have sent := (List.append_inj' order rfl).1
    rw [sent]
    simp

/-- A step of a producer outside the critical section changes nothing. -/
theorem Sound.unreturned_move (h : state.Sound) (caller : Option ι) (next : Position Bytes)
    (poller : Sending) (sent : List Bytes)
    (outside : ¬ (state.sendingQueue.position caller).Inside) :
    (SendQueue.mk (state.sendingQueue.move caller next) poller sent state.transmitted).unreturned =
      state.unreturned := by
  refine unreturned_congr state rfl fun producer holds => ?_
  have inside := (h.coherent.inside (some producer)).mpr holds
  have differs : some producer ≠ caller := fun same => outside (same ▸ inside)
  simp [differs]

omit [DecidableEq ι] in
/-- A producer in the critical section moves its message into the queue, or has it there already. -/
theorem Kept.inside (kept : state.Kept layer) {producer : ι} {sendingQueue : SharedQueue (Option ι) Bytes}
    (holds : sendingQueue.mutex = some (some producer))
    (same : sendingQueue.position none = state.sendingQueue.position none)
    (moved : state.sent ++ (sendingQueue.position (some producer)).put =
      state.transmitted ++ state.inHand ++ sendingQueue.queue) :
    (SendQueue.mk sendingQueue state.poller state.sent state.transmitted).Kept layer := by
  refine ⟨?_, kept.carried⟩
  rw [unreturned_of_holder holds, inHand_produced state _ _ same]
  exact moved

/-- A send that is refused the lock returns, and its message is nowhere. -/
theorem Sound.refused (h : state.Sound) (kept : state.Kept layer) {producer : ι} {message : Bytes}
    (at_ : state.sendingQueue.position (some producer) = .enqueueLock message) :
    ¬ (SendQueue.mk (state.sendingQueue.move (some producer) .outside) state.poller (state.sent ++ [message])
      state.transmitted).Kept layer := by
  rintro ⟨after, -⟩
  rw [h.unreturned_move _ _ _ _ (by simp [at_, Position.Inside]), inHand_produced state _ _ (by simp)] at after
  have lengths := congrArg List.length kept.order
  have lengths' := congrArg List.length after
  simp only [List.length_append, SharedQueue.move_queue, List.length_singleton] at lengths lengths'
  omega

/-- A send that has queued its message returns well when the layer can transmit it. -/
theorem Sound.returned_iff (h : state.Sound) (kept : state.Kept layer) {producer : ι} {message : Bytes}
    (at_ : state.sendingQueue.position (some producer) = .enqueueUnlock message) :
    (SendQueue.mk (state.sendingQueue.unlock (some producer)) state.poller (state.sent ++ [message])
      state.transmitted).Kept layer ↔ layer.Carries message := by
  have holds := (h.coherent.inside (some producer)).mp (by simp [at_, Position.Inside])
  have order := kept.order
  rw [unreturned_of_holder holds, at_] at order
  constructor
  · exact fun after => after.carried message (by simp)
  · intro carries
    refine ⟨?_, ?_⟩
    · rw [unreturned_of_mutex (by simp), inHand_produced state _ _ (by simp)]
      simpa [Position.put] using order
    · intro other there
      obtain there | rfl := List.mem_append.mp there |>.imp_right List.mem_singleton.mp
      · exact kept.carried other there
      · exact carries

theorem Sound.produced_iff (h : state.Sound) (kept : state.Kept layer) {producer : ι}
    (effect : Effect layer state (.produce producer) state') :
    state'.Kept layer ↔ state.Uncontended layer (.produce producer) := by
  have order := kept.order
  cases effect with
  | idles outside => exact iff_of_true kept (by simp [Uncontended, outside])
  | locks at_ free =>
    refine iff_of_true (kept.inside rfl (by simp) ?_) (by simp [Uncontended, at_, free])
    rw [unreturned_of_mutex (by simp [free])] at order
    simpa [Position.put] using order
  | refused at_ held => exact iff_of_false (h.refused kept at_) (by simp [Uncontended, at_, held])
  | @emplaces producer message at_ =>
    have holds := (h.coherent.inside (some producer)).mp (by simp [at_, Position.Inside])
    refine iff_of_true (kept.inside (by simpa using holds) (by simp) ?_) (by simp [Uncontended, at_])
    rw [unreturned_of_holder holds, at_] at order
    simpa [Position.put] using congrArg (· ++ [message]) order
  | counts at_ =>
    have holds := (h.coherent.inside (some producer)).mp (by simp [at_, Position.Inside])
    refine iff_of_true (kept.inside (by simpa using holds) (by simp) ?_) (by simp [Uncontended, at_])
    rw [unreturned_of_holder holds, at_] at order
    simpa [Position.put] using order
  | returns at_ =>
    rw [h.returned_iff kept at_]
    simp [Uncontended, at_]

/-- The poller loses nothing. -/
theorem Sound.polled_kept (h : state.Sound) (kept : state.Kept layer) (effect : Effect layer state .poll state') :
    state'.Kept layer := by
  have inside := h.coherent.inside none
  have order := kept.order
  have carried := kept.carried
  cases effect with
  | wakes rests =>
    refine ⟨?_, carried⟩
    simpa [unreturned, inHand, rests] using order
  | rests checks empty =>
    refine ⟨?_, carried⟩
    simpa [unreturned, inHand, checks] using order
  | calls checks available =>
    have outside := h.idle (by simp [checks])
    refine ⟨?_, carried⟩
    rw [h.unreturned_move _ _ _ _ (by simp [outside, Position.Inside])]
    simpa [inHand, checks, Position.took] using order
  | acquires busy at_ free =>
    refine ⟨?_, carried⟩
    rw [unreturned_of_mutex (by simp)]
    rw [unreturned_of_mutex (by simp [free])] at order
    simpa [inHand, busy, at_, Position.took] using order
  | misses busy at_ held =>
    refine ⟨?_, carried⟩
    rw [h.unreturned_move _ _ _ _ (by simp [at_, Position.Inside])]
    simpa [inHand, busy, at_, Position.took] using order
  | pops busy at_ queue =>
    have holds := inside.mp (by simp [at_, Position.Inside])
    refine ⟨?_, carried⟩
    rw [unreturned_of_mutex (by simp [holds])]
    rw [unreturned_of_mutex (by simp [holds])] at order
    simpa [inHand, busy, at_, queue, Position.took] using order
  | uncounts busy at_ =>
    have holds := inside.mp (by simp [at_, Position.Inside])
    refine ⟨?_, carried⟩
    rw [unreturned_of_mutex (by simp [holds])]
    rw [unreturned_of_mutex (by simp [holds])] at order
    simpa [inHand, busy, at_, Position.took] using order
  | releases busy at_ =>
    have holds := inside.mp (by simp [at_, Position.Inside])
    refine ⟨?_, carried⟩
    rw [unreturned_of_mutex (by simp)]
    rw [unreturned_of_mutex (by simp [holds])] at order
    simpa [inHand, busy, at_, Position.took] using order
  | @transmits message messages hand given =>
    have sent : message ∈ state.sent := h.hand_sent kept (by simp only [inHand, hand])
    rw [Layer.transmit_of_carries (carried message sent)] at given
    cases given
    refine ⟨?_, carried⟩
    simpa [unreturned, inHand, hand] using order

theorem kept_iff_uncontended_step {step : SendStep ι} (h : state.Sound) (kept : state.Kept layer)
    (taken : state.step layer step = .ok ((), state')) :
    state'.Kept layer ↔ state.Uncontended layer step := by
  have effect := step_effect h taken
  cases step with
  | produce producer => exact h.produced_iff kept effect
  | poll => exact iff_of_true (h.polled_kept kept effect) trivial
  | send producer message =>
    refine iff_of_true ?_ trivial
    cases effect with
    | waits => exact kept
    | begins outside =>
      refine ⟨?_, kept.carried⟩
      rw [h.unreturned_move _ _ _ _ (by simp [outside, Position.Inside]), inHand_produced state _ _ (by simp)]
      exact kept.order

/-! ## The poller alone -/

/-- The poller can always go on, as long as what has been sent can be transmitted. -/
theorem poll_ok (h : state.Sound) (kept : state.Kept layer) :
    ∃ state', state.step layer .poll = .ok ((), state') := by
  unfold SendQueue.step
  cases poller : state.poller with
  | resting => exact ⟨_, rfl⟩
  | checking =>
    dsimp only
    split_ifs
    · exact ⟨_, rfl⟩
    · exact ⟨_, rfl⟩
  | dequeuing =>
    have dequeuing := h.busy poller
    simp only [SharedQueue.advance]
    cases at_ : state.sendingQueue.position none with
    | dequeueLock =>
      cases state.sendingQueue.mutex with
      | none => exact ⟨_, rfl⟩
      | some holder => exact ⟨_, rfl⟩
    | pop =>
      cases queue : state.sendingQueue.queue with
      | nil =>
        have holds := (h.coherent.inside none).mp (by simp [at_, Position.Inside])
        have sized := h.coherent.sized none holds
        have available := h.available (Or.inr at_)
        simp only [at_, Position.lag, queue, List.length_nil] at sized
        omega
      | cons message rest => exact ⟨_, rfl⟩
    | countDown message => exact ⟨_, rfl⟩
    | dequeueUnlock message => exact ⟨_, rfl⟩
    | outside | enqueueLock _ | emplace _ | countUp _ | enqueueUnlock _ =>
      simp [at_, Position.Dequeuing] at dequeuing
  | transmitting message =>
    have sent : message ∈ state.sent := h.hand_sent kept (by simp only [inHand, poller])
    simp only [Layer.transmit_of_carries (kept.carried message sent)]
    exact ⟨_, rfl⟩

/-- No producer is inside, and `sent` are the messages whose send has returned. -/
structure Draining (layer : Layer) (sent : List Bytes) (state : SendQueue ι) : Prop where
  sound : state.Sound
  kept : state.Kept layer
  alone : ∀ producer, state.sendingQueue.mutex ≠ some (some producer)
  same : state.sent = sent

/-- The steps of the poller until it rests and the queue is empty, at most. -/
def burden (state : SendQueue ι) : ℕ :=
  match state.poller with
  | .resting => if state.sendingQueue.queue = [] then 0 else 8 * state.sendingQueue.queue.length + 2
  | .checking => 8 * state.sendingQueue.queue.length + 1
  | .dequeuing =>
    match state.sendingQueue.position none with
    | .pop => 8 * state.sendingQueue.queue.length - 1
    | .countDown _ => 8 * state.sendingQueue.queue.length + 4
    | .dequeueUnlock _ => 8 * state.sendingQueue.queue.length + 3
    | _ => 8 * state.sendingQueue.queue.length
  | .transmitting _ => 8 * state.sendingQueue.queue.length + 2

omit [DecidableEq ι] in
/-- Behind the lock of no producer, `mSize` is right whenever the poller is outside too. -/
theorem Draining.size_eq {sent : List Bytes} (h : state.Draining layer sent)
    (outside : ¬ (state.sendingQueue.position none).Inside) :
    state.sendingQueue.size = state.sendingQueue.queue.length := by
  refine h.sound.coherent.free ?_
  cases owner : state.sendingQueue.mutex with
  | none => rfl
  | some holder =>
    cases holder with
    | none => exact absurd ((h.sound.coherent.inside none).mpr owner) outside
    | some producer => exact absurd owner (h.alone producer)

theorem Draining.polled {sent : List Bytes} (h : state.Draining layer sent)
    (taken : state.step layer .poll = .ok ((), state')) (burdened : 0 < state.burden) :
    state'.Draining layer sent ∧ state'.burden < state.burden := by
  have sound := sound_step h.sound taken
  have kept := (kept_iff_uncontended_step h.sound h.kept taken).mpr trivial
  cases step_effect h.sound taken with
  | wakes rests =>
    refine ⟨⟨sound, kept, h.alone, h.same⟩, ?_⟩
    have queue : state.sendingQueue.queue ≠ [] := by
      intro queue
      simp [burden, rests, queue] at burdened
    simp [burden, rests, queue]
  | rests checks empty =>
    refine ⟨⟨sound, kept, h.alone, h.same⟩, ?_⟩
    have outside := h.sound.idle (by simp [checks])
    have length := h.size_eq (by simp [outside, Position.Inside])
    have queue := List.length_eq_zero_iff.mp (length.symm.trans empty)
    simp [burden, checks, queue]
  | calls checks available =>
    refine ⟨⟨sound, kept, h.alone, h.same⟩, ?_⟩
    simp [burden, checks]
  | acquires busy at_ free =>
    refine ⟨⟨sound, kept, by simp, h.same⟩, ?_⟩
    have length := h.size_eq (by simp [at_, Position.Inside])
    have available := h.sound.available (Or.inl at_)
    simp only [burden, busy, at_, SharedQueue.lock_position, if_pos, SharedQueue.lock_queue]
    omega
  | misses busy at_ held =>
    -- only the poller itself could hold the lock
    cases holder : state.sendingQueue.mutex with
    | none => simp [holder] at held
    | some caller =>
      cases caller with
      | none =>
        have inside := (h.sound.coherent.inside none).mpr holder
        simp [at_, Position.Inside] at inside
      | some producer => exact absurd holder (h.alone producer)
  | pops busy at_ queue =>
    refine ⟨⟨sound, kept, h.alone, h.same⟩, ?_⟩
    simp only [burden, busy, at_, queue, SharedQueue.take_position, if_pos, SharedQueue.take_queue,
      List.length_cons]
    omega
  | uncounts busy at_ =>
    refine ⟨⟨sound, kept, h.alone, h.same⟩, ?_⟩
    simp [burden, busy, at_]
  | releases busy at_ =>
    refine ⟨⟨sound, kept, by simp, h.same⟩, ?_⟩
    simp [burden, busy, at_]
  | transmits hand given =>
    refine ⟨⟨sound, kept, h.alone, h.same⟩, ?_⟩
    simp [burden, hand]

omit [DecidableEq ι] in
theorem Draining.done {sent : List Bytes} (h : state.Draining layer sent) (burden : state.burden = 0) :
    state.transmitted = sent := by
  have order := h.kept.order
  have idle : state.inHand = [] ∧ state.sendingQueue.queue = [] := by
    unfold SendQueue.burden at burden
    cases poller : state.poller with
    | resting =>
      simp only [poller] at burden
      split_ifs at burden with queue
      exact ⟨by simp [inHand, poller], queue⟩
    | checking => simp [poller] at burden
    | transmitting message => simp [poller] at burden
    | dequeuing =>
      have dequeuing := h.sound.busy poller
      cases at_ : state.sendingQueue.position none with
      | dequeueLock =>
        have available := h.sound.available (Or.inl at_)
        have length := h.size_eq (by simp [at_, Position.Inside])
        simp only [poller, at_] at burden
        omega
      | pop =>
        have available := h.sound.available (Or.inr at_)
        have holds := (h.sound.coherent.inside none).mp (by simp [at_, Position.Inside])
        have sized := h.sound.coherent.sized none holds
        simp only [poller, at_, Position.lag] at burden sized
        omega
      | countDown message | dequeueUnlock message => simp [poller, at_] at burden
      | outside | enqueueLock _ | emplace _ | countUp _ | enqueueUnlock _ =>
        simp [at_, Position.Dequeuing] at dequeuing
  rw [unreturned_of_mutex h.alone, idle.1, idle.2, h.same] at order
  simpa using order.symm

/-- In every run of any producers and the poller: what has been sent is transmitted or on its way,
once and in order, in every state exactly when no producer ever finds the lock held and every message
is one for the layer. Then the poller transmits all of it as soon as no producer is inside. -/
theorem kept_iff_uncontended (layer : Layer) {trace : List (Taken (SendQueue ι) (SendStep ι) Unit)}
    (run : Run (step layer) make trace state) :
    (Run.Throughout (Kept layer) trace state ↔ Run.Every (Uncontended layer) trace) ∧
      (Run.Every (Uncontended layer) trace →
        (∀ producer, state.sendingQueue.mutex ≠ some (some producer)) →
        ∃ times trace' state',
          Run.play (step layer) trace state (List.replicate times .poll) = .ok (trace', state') ∧
            state'.transmitted = state.sent) := by
  have kept := Run.stays_iff_every sound_make (kept_make layer)
    (fun _ _ _ _ h taken => sound_step h taken)
    (fun _ _ _ _ h kept taken => kept_iff_uncontended_step h kept taken) run
  refine ⟨kept, fun every alone => ?_⟩
  have sound : state.Sound := Run.reached sound_make (fun _ _ _ _ h taken => sound_step h taken) run
  have draining : state.Draining layer state.sent := ⟨sound, (kept.mpr every).1, alone, rfl⟩
  have lowers (now : SendQueue ι) (h : now.Draining layer state.sent) (burdened : 0 < now.burden) :
      ∃ output next, now.step layer .poll = .ok (output, next) ∧ next.Draining layer state.sent ∧
        next.burden < now.burden := by
    obtain ⟨next, taken⟩ := poll_ok h.sound h.kept
    exact ⟨(), next, taken, h.polled taken burdened⟩
  obtain ⟨times, trace', drained, played, h, done⟩ := Run.exists_replicate lowers trace draining
  exact ⟨times, trace', drained, played, h.done done⟩

/-- One producer behind the other, the second while the poller already looks into the queue. -/
def oneByOne : List (SendStep Bool) :=
  [.send false [1], .produce false, .produce false, .produce false, .produce false, .poll,
    .send true [2], .produce true, .produce true, .produce true, .poll, .produce true]

theorem kept_iff_uncontended_oneByOne : ∃ trace state,
    Run.play (step .rpcClient) [] make oneByOne = .ok (trace, state) ∧
      Run.Throughout (Kept .rpcClient) trace state ∧ state.sent = [[1], [2]] ∧
        ∃ times trace' state',
          Run.play (step .rpcClient) trace state (List.replicate times .poll) = .ok (trace', state') ∧
            state'.transmitted = [[1], [2]] := by
  obtain ⟨trace, state, played, every, sent, free⟩ : ∃ trace state,
      Run.play (step .rpcClient) [] make oneByOne = .ok (trace, state) ∧
        Run.Every (Uncontended .rpcClient) trace ∧ state.sent = [[1], [2]] ∧
          state.sendingQueue.mutex = none :=
    ⟨_, _, rfl, by decide, rfl, rfl⟩
  obtain ⟨kept, drains⟩ := kept_iff_uncontended .rpcClient (Run.of_play .start played)
  have drained := drains every (by simp [free])
  rw [sent] at drained
  exact ⟨trace, state, played, kept.mpr every, sent, drained⟩

/-- The poller is inside `TryDequeue` while a second producer sends. -/
def contendedSend : List (SendStep Bool) :=
  [.send false [1], .produce false, .produce false, .produce false, .produce false, .poll, .poll,
    .poll, .send true [2], .produce true, .poll, .poll, .poll, .poll, .poll]

theorem not_always_kept : ∃ trace state,
    Run.play (step .rpcClient) [] make contendedSend = .ok (trace, state) ∧
      state.sent = [[1], [2]] ∧ state.transmitted = [[1]] ∧ state.sendingQueue.queue = [] ∧
        state.poller = .resting ∧ ¬ Run.Throughout (Kept .rpcClient) trace state := by
  refine ⟨_, _, rfl, rfl, rfl, rfl, rfl, ?_⟩
  rintro ⟨⟨order, -⟩, -⟩
  exact absurd order (by decide)

end SendQueue
end AdaptiveAutosar.Com
