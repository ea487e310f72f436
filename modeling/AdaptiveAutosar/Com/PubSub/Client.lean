import AdaptiveAutosar.Com.Datagram
import AdaptiveAutosar.Com.Sd.Message
import AdaptiveAutosar.Foundations.Transition

/-! # The acknowledgements that the publish-subscribe client hands on

`ara::com::someip::pubsub::SomeIpPubSubClient` between the poller, which handles one message after the
other, and the one caller of `TryGetProcessedSubscription`. The loop of `onMessageReceived` moves the
message into the queue and goes on over the entries, wherever they are stored by then; a moved message
keeps everything but its entries.
-/

namespace AdaptiveAutosar.Com
open Foundations
set_option autoImplicit false

/-- Where the entries are that the loop goes over: in the received message, in the queue with so many
messages ahead, in the message handed to the caller, or nowhere once the caller has let go of it. -/
inductive EntryStorage where
  | received
  | queued (ahead : ℕ)
  | returned
  | freed
  deriving DecidableEq, Repr

namespace EntryStorage

def dequeued : EntryStorage → EntryStorage
  | queued 0 => returned
  | queued (ahead + 1) => queued ahead
  | storage => storage

def released : EntryStorage → EntryStorage
  | returned => freed
  | storage => storage

end EntryStorage

/-- `onMessageReceived` in its loop: the message, and the entries not looked at. -/
structure MessageLoop where
  message : SomeIpSdMessage
  rest : List AnyEntry
  storage : EntryStorage
  deriving DecidableEq, Repr

def MessageLoop.moved (move : EntryStorage → EntryStorage) (loop : MessageLoop) : MessageLoop :=
  { loop with storage := move loop.storage }

/-- Where the caller of `TryGetProcessedSubscription` is. -/
inductive Getting where
  | outside
  | waiting
  | dequeuing
  deriving DecidableEq, Repr

structure SomeIpPubSubClient where
  messageBuffer : List SomeIpSdMessage
  validNotify : Bool
  handling : Option MessageLoop
  getting : Getting
  deriving DecidableEq, Repr

/-- `receive` begins `onMessageReceived` and `handle` is a round of its loop, `get` begins
`TryGetProcessedSubscription`; `wake` ends its wait, by a notification or without one if it is no timeout.
With `release` the caller destroys or overwrites what it was handed. -/
inductive PubSubClientStep where
  | receive (message : SomeIpSdMessage)
  | handle (locked : Bool)
  | get
  | wake (timeout : Bool)
  | dequeue (locked : Bool)
  | release
  deriving DecidableEq, Repr

def AnyEntry.IsAcknowledging (entry : AnyEntry) : Bool := entry.toEntry.type = .acknowledging

namespace SomeIpPubSubClient

def make : SomeIpPubSubClient := ⟨[], true, none, .outside⟩

def handle (client : SomeIpPubSubClient) (loop : MessageLoop) (locked : Bool) :
    Outcome SomeIpPubSubClient :=
  match loop.rest with
  | [] => .ok { client with handling := none }
  | entry :: rest =>
    if loop.storage = .freed then .error .undefined
    else if entry.IsAcknowledging then
      match ConcurrentQueue.tryEnqueue client.messageBuffer locked loop.message with
      | (true, messageBuffer) =>
        -- the iterators of the loop follow the entries to where they are moved
        .ok { client with
          messageBuffer
          handling := some
            { message := { loop.message with entries := [] }
              rest
              storage :=
                if loop.storage = .received then .queued client.messageBuffer.length
                else loop.storage } }
      | (false, _) => .ok { client with handling := some { loop with rest } }
    else .ok { client with handling := some { loop with rest } }

/-- `TryDequeue` takes the front of the queue whether or not there is one. -/
def dequeue (client : SomeIpPubSubClient) (locked : Bool) :
    Outcome (Option SomeIpSdMessage × SomeIpPubSubClient) :=
  if locked then
    match client.messageBuffer with
    | [] => .error .undefined
    | message :: messageBuffer =>
      .ok (some message, { client with
        messageBuffer
        getting := .outside
        handling := client.handling.map (MessageLoop.moved EntryStorage.dequeued) })
  else .ok (none, { client with getting := .outside })

/-- What is handed to the caller, if anything, and the client behind the step. -/
def step (client : SomeIpPubSubClient) :
    PubSubClientStep → Outcome (Option SomeIpSdMessage × SomeIpPubSubClient)
  | .receive message =>
    match client.handling with
    | none => .ok (none, { client with handling := some ⟨message, message.entries, .received⟩ })
    | some _ => .ok (none, client)
  | .handle locked =>
    match client.handling with
    | none => .ok (none, client)
    | some loop => do
      let client ← client.handle loop locked
      pure (none, client)
  | .get =>
    match client.getting with
    | .outside =>
      .ok (none, { client with getting := if client.messageBuffer = [] then .waiting else .dequeuing })
    | .waiting | .dequeuing => .ok (none, client)
  | .wake timeout =>
    match client.getting with
    | .waiting =>
      .ok (none, { client with
        getting := if client.validNotify && !timeout then .dequeuing else .outside })
    | .outside | .dequeuing => .ok (none, client)
  | .dequeue locked =>
    match client.getting with
    | .dequeuing => client.dequeue locked
    | .outside | .waiting => .ok (none, client)
  | .release =>
    .ok (none, { client with
      handling := client.handling.map (MessageLoop.moved EntryStorage.released) })

/-- The message of the loop while it is still to be enqueued. -/
def pending (client : SomeIpPubSubClient) : List SomeIpSdMessage :=
  match client.handling with
  | none => []
  | some loop =>
    if loop.storage = .received ∧ loop.rest.any AnyEntry.IsAcknowledging then [loop.message] else []

end SomeIpPubSubClient

/-- The client with the messages it has got and given: the received ones with an acknowledge entry, and
those handed to the caller. -/
structure Acknowledgements where
  client : SomeIpPubSubClient
  arrived : List SomeIpSdMessage
  returned : List SomeIpSdMessage
  undefined : Bool
  deriving DecidableEq, Repr

namespace Acknowledgements

def make : Acknowledgements := ⟨.make, [], [], false⟩

def arrivedWith (state : Acknowledgements) : PubSubClientStep → List SomeIpSdMessage
  | .receive message =>
    if state.client.handling = none ∧ message.entries.any AnyEntry.IsAcknowledging then
      state.arrived ++ [message]
    else state.arrived
  | _ => state.arrived

def step (state : Acknowledgements) (input : PubSubClientStep) : Outcome (Unit × Acknowledgements) :=
  if state.undefined then .ok ((), state)
  else
    match state.client.step input with
    | .error _ => .ok ((), { state with undefined := true })
    | .ok (message, client) =>
      .ok ((), { state with
        client
        arrived := state.arrivedWith input
        returned := state.returned ++ message.toList })

/-- Every acknowledged message is handed to the caller, in the queue or about to be enqueued, once, whole
and in the order of arrival. -/
structure HandsOn (state : Acknowledgements) : Prop where
  defined : state.undefined = false
  order : state.returned ++ state.client.messageBuffer ++ state.client.pending = state.arrived

/-- One of the attempts to enqueue a message gets the lock, and none behind it; the caller keeps what it
was handed while the loop goes over it; and the lock for a message is not got behind a wait that ended
without one. -/
def Undisturbed (state : Acknowledgements) : PubSubClientStep → Prop
  | .handle locked =>
    match state.client.handling with
    | none => True
    | some loop =>
      match loop.rest with
      | [] => True
      | entry :: rest =>
        loop.storage ≠ .freed ∧ (entry.IsAcknowledging = true →
          if loop.storage = .received then locked = true ∨ rest.any AnyEntry.IsAcknowledging = true
          else locked = false)
  | .dequeue locked =>
    state.client.getting = .dequeuing → locked = true → state.client.messageBuffer ≠ []
  | _ => True

instance (state : Acknowledgements) (input : PubSubClientStep) : Decidable (state.Undisturbed input) := by
  unfold Undisturbed
  split
  · split
    · infer_instance
    · split <;> infer_instance
  · infer_instance
  · infer_instance

variable {state state' : Acknowledgements} {input : PubSubClientStep}

/-! ## Steps of the client -/

theorem step_ok {message : Option SomeIpSdMessage} {client : SomeIpPubSubClient}
    (defined : state.undefined = false) (taken : state.client.step input = .ok (message, client)) :
    state.step input = .ok ((), { state with
      client
      arrived := state.arrivedWith input
      returned := state.returned ++ message.toList }) := by
  simp only [step, defined, Bool.false_eq_true, if_false, taken]

theorem step_error {e : Fault} (defined : state.undefined = false)
    (failed : state.client.step input = .error e) :
    state.step input = .ok ((), { state with undefined := true }) := by
  simp only [step, defined, Bool.false_eq_true, if_false, failed]

/-- Where the step leads: undisturbed, everything is handed on, and otherwise something is not. -/
def Decided (state : Acknowledgements) (input : PubSubClientStep) (state' : Acknowledgements) : Prop :=
  (state.Undisturbed input → state'.HandsOn) ∧ (¬ state.Undisturbed input → ¬ state'.HandsOn)

theorem decided_quiet (h : state.HandsOn) {client : SomeIpPubSubClient}
    (taken : state.client.step input = .ok (none, client)) (undisturbed : state.Undisturbed input)
    (arrived : state.arrivedWith input = state.arrived)
    (buffer : client.messageBuffer = state.client.messageBuffer)
    (pending : client.pending = state.client.pending) :
    ∃ state', state.step input = .ok ((), state') ∧ state.Decided input state' := by
  refine ⟨_, step_ok h.defined taken, fun _ => ⟨h.defined, ?_⟩, fun not => absurd undisturbed not⟩
  show state.returned ++ [] ++ client.messageBuffer ++ client.pending = state.arrivedWith input
  rw [List.append_nil, buffer, pending, arrived]
  exact h.order

theorem decided_undefined (h : state.HandsOn) {e : Fault} (failed : state.client.step input = .error e)
    (disturbed : ¬ state.Undisturbed input) :
    ∃ state', state.step input = .ok ((), state') ∧ state.Decided input state' := by
  refine ⟨_, step_error h.defined failed, fun undisturbed => absurd undisturbed disturbed, ?_⟩
  intro _ handsOn
  cases handsOn.defined

theorem decided_receive (h : state.HandsOn) (message : SomeIpSdMessage) :
    ∃ state', state.step (.receive message) = .ok ((), state') ∧
      state.Decided (.receive message) state' := by
  cases busy : state.client.handling with
  | some loop =>
    have taken : state.client.step (.receive message) = .ok (none, state.client) := by
      simp only [SomeIpPubSubClient.step, busy]
    exact decided_quiet h taken trivial (by simp [arrivedWith, busy]) rfl rfl
  | none =>
    have taken : state.client.step (.receive message) =
        .ok (none, { state.client with handling := some ⟨message, message.entries, .received⟩ }) := by
      simp only [SomeIpPubSubClient.step, busy]
    have before : state.client.pending = [] := by
      simp only [SomeIpPubSubClient.pending, busy]
    refine ⟨_, step_ok h.defined taken, fun _ => ⟨h.defined, ?_⟩, fun not => absurd trivial not⟩
    have order := h.order
    rw [before, List.append_nil] at order
    by_cases acknowledged : message.entries.any AnyEntry.IsAcknowledging = true
    · simp [SomeIpPubSubClient.pending, arrivedWith, busy, acknowledged, order]
    · simp [SomeIpPubSubClient.pending, arrivedWith, busy, acknowledged, order]

section Round
variable {loop : MessageLoop} {entry : AnyEntry} {rest : List AnyEntry}

theorem client_handle {locked : Bool} {client : SomeIpPubSubClient}
    (busy : state.client.handling = some loop) (handled : state.client.handle loop locked = .ok client) :
    state.client.step (.handle locked) = .ok (none, client) := by
  simp only [SomeIpPubSubClient.step, busy, handled]
  rfl

theorem decided_other (h : state.HandsOn) (busy : state.client.handling = some loop)
    (entries : loop.rest = entry :: rest) (stored : loop.storage ≠ .freed)
    (other : entry.IsAcknowledging = false) (locked : Bool) :
    ∃ state', state.step (.handle locked) = .ok ((), state') ∧ state.Decided (.handle locked) state' := by
  have handled : state.client.handle loop locked =
      .ok { state.client with handling := some { loop with rest } } := by
    simp only [SomeIpPubSubClient.handle, entries, stored, if_false, other, Bool.false_eq_true]
  have undisturbed : state.Undisturbed (.handle locked) := by
    simp only [Undisturbed, busy, entries]
    exact ⟨stored, fun acknowledging => absurd (other.symm.trans acknowledging) (by decide)⟩
  apply decided_quiet h (client_handle busy handled) undisturbed rfl rfl
  simp only [SomeIpPubSubClient.pending, busy, entries, List.any_cons, other, Bool.false_or]

/-- An attempt that does not get the lock leaves the message for a later acknowledge entry, if there is
one. -/
theorem decided_missed (h : state.HandsOn) (busy : state.client.handling = some loop)
    (entries : loop.rest = entry :: rest) (stored : loop.storage ≠ .freed)
    (acknowledging : entry.IsAcknowledging = true) :
    ∃ state', state.step (.handle false) = .ok ((), state') ∧ state.Decided (.handle false) state' := by
  have handled : state.client.handle loop false =
      .ok { state.client with handling := some { loop with rest } } := by
    simp only [SomeIpPubSubClient.handle, entries, stored, if_false, acknowledging, if_true,
      ConcurrentQueue.tryEnqueue, Bool.false_eq_true]
  have undisturbed_iff : state.Undisturbed (.handle false) ↔
      (loop.storage = .received → rest.any AnyEntry.IsAcknowledging = true) := by
    simp only [Undisturbed, busy, entries, acknowledging, forall_const, Bool.false_eq_true, false_or]
    constructor
    · rintro ⟨-, first⟩ received
      rwa [if_pos received] at first
    · intro later
      refine ⟨stored, ?_⟩
      split_ifs with received
      exact later received
  by_cases later : loop.storage = .received → rest.any AnyEntry.IsAcknowledging = true
  · apply decided_quiet h (client_handle busy handled) (undisturbed_iff.mpr later) rfl rfl
    simp only [SomeIpPubSubClient.pending, busy, entries, List.any_cons, acknowledging, Bool.true_or, and_true]
    by_cases received : loop.storage = .received
    · rw [if_pos ⟨received, later received⟩, if_pos received]
    · rw [if_neg (fun both => received both.1), if_neg received]
  · obtain ⟨received, last⟩ := Classical.not_imp.mp later
    refine ⟨_, step_ok h.defined (client_handle busy handled),
      fun undisturbed => absurd (undisturbed_iff.mp undisturbed) later, fun _ handsOn => ?_⟩
    have order := h.order
    have order' := handsOn.order
    simp only [SomeIpPubSubClient.pending, busy, entries, List.any_cons, acknowledging, Bool.true_or, and_true, received,
      if_true] at order
    simp only [SomeIpPubSubClient.pending, arrivedWith, last, List.append_nil, Option.toList_none, ← order] at order'
    simp at order'

/-- The first attempt that gets the lock enqueues the message, and every other one what it left of it. -/
theorem decided_enqueued (h : state.HandsOn) (busy : state.client.handling = some loop)
    (entries : loop.rest = entry :: rest) (stored : loop.storage ≠ .freed)
    (acknowledging : entry.IsAcknowledging = true) :
    ∃ state', state.step (.handle true) = .ok ((), state') ∧ state.Decided (.handle true) state' := by
  have handled : state.client.handle loop true =
      .ok { state.client with
        messageBuffer := state.client.messageBuffer ++ [loop.message]
        handling := some
          { message := { loop.message with entries := [] }
            rest
            storage :=
              if loop.storage = .received then .queued state.client.messageBuffer.length
              else loop.storage } } := by
    simp only [SomeIpPubSubClient.handle, entries, stored, if_false, acknowledging, if_true,
      ConcurrentQueue.tryEnqueue]
  have undisturbed_iff : state.Undisturbed (.handle true) ↔ loop.storage = .received := by
    simp only [Undisturbed, busy, entries, acknowledging, forall_const, true_or, Bool.true_eq_false]
    constructor
    · rintro ⟨-, first⟩
      by_contra moved
      rwa [if_neg moved] at first
    · intro received
      rw [if_pos received]
      exact ⟨stored, trivial⟩
  have moved : (if loop.storage = .received then EntryStorage.queued state.client.messageBuffer.length
      else loop.storage) ≠ .received := by
    split_ifs with received
    · exact fun same => by cases same
    · exact received
  have order := h.order
  by_cases received : loop.storage = .received
  · refine ⟨_, step_ok h.defined (client_handle busy handled), fun _ => ⟨h.defined, ?_⟩,
      fun not => absurd (undisturbed_iff.mpr received) not⟩
    simp only [SomeIpPubSubClient.pending, busy, entries, List.any_cons, acknowledging, Bool.true_or, and_true, received,
      if_true] at order
    simp only [SomeIpPubSubClient.pending, arrivedWith, moved, false_and, if_false, List.append_nil, Option.toList_none,
      ← order, List.append_assoc]
  · refine ⟨_, step_ok h.defined (client_handle busy handled),
      fun undisturbed => absurd (undisturbed_iff.mp undisturbed) received, fun _ handsOn => ?_⟩
    have order' := handsOn.order
    simp only [SomeIpPubSubClient.pending, busy, received, false_and, if_false, List.append_nil] at order
    simp only [SomeIpPubSubClient.pending, arrivedWith, moved, false_and, if_false, List.append_nil, Option.toList_none,
      ← order, ← List.append_assoc] at order'
    simp at order'

theorem decided_handle (h : state.HandsOn) (locked : Bool) :
    ∃ state', state.step (.handle locked) = .ok ((), state') ∧ state.Decided (.handle locked) state' := by
  cases busy : state.client.handling with
  | none =>
    have taken : state.client.step (.handle locked) = .ok (none, state.client) := by
      simp only [SomeIpPubSubClient.step, busy]
    have undisturbed : state.Undisturbed (.handle locked) := by
      simp only [Undisturbed, busy]
    exact decided_quiet h taken undisturbed rfl rfl rfl
  | some loop =>
    cases entries : loop.rest with
    | nil =>
      have handled : state.client.handle loop locked = .ok { state.client with handling := none } := by
        simp only [SomeIpPubSubClient.handle, entries]
      have undisturbed : state.Undisturbed (.handle locked) := by
        simp only [Undisturbed, busy, entries]
      apply decided_quiet h (client_handle busy handled) undisturbed rfl rfl
      simp [SomeIpPubSubClient.pending, busy, entries]
    | cons entry rest =>
      by_cases freed : loop.storage = .freed
      · have failed : state.client.step (.handle locked) = .error .undefined := by
          simp only [SomeIpPubSubClient.step, busy, SomeIpPubSubClient.handle, entries, freed, if_true]
          rfl
        apply decided_undefined h failed
        simp only [Undisturbed, busy, entries]
        exact fun undisturbed => undisturbed.1 freed
      · cases acknowledging : entry.IsAcknowledging with
        | false => exact decided_other h busy entries freed acknowledging locked
        | true =>
          cases locked with
          | false => exact decided_missed h busy entries freed acknowledging
          | true => exact decided_enqueued h busy entries freed acknowledging

end Round

/-- A move of entries that are not in the received message leaves what is still to be enqueued. -/
theorem pending_moved (client : SomeIpPubSubClient) {move : EntryStorage → EntryStorage}
    (keeps : ∀ storage, move storage = .received ↔ storage = .received)
    (messageBuffer : List SomeIpSdMessage) (getting : Getting) :
    SomeIpPubSubClient.pending { client with
      messageBuffer
      getting
      handling := client.handling.map (MessageLoop.moved move) } = client.pending := by
  simp only [SomeIpPubSubClient.pending]
  cases client.handling with
  | none => rfl
  | some loop => simp only [Option.map_some, MessageLoop.moved, keeps]

theorem dequeued_eq_received (storage : EntryStorage) :
    storage.dequeued = .received ↔ storage = .received := by
  cases storage with
  | received | returned | freed => rfl
  | queued ahead => cases ahead <;> exact iff_of_false (fun same => by cases same) (fun same => by cases same)

theorem released_eq_received (storage : EntryStorage) :
    storage.released = .received ↔ storage = .received := by
  cases storage with
  | received | queued ahead | freed => rfl
  | returned => exact iff_of_false (fun same => by cases same) (fun same => by cases same)

theorem decided_dequeue (h : state.HandsOn) (locked : Bool) :
    ∃ state', state.step (.dequeue locked) = .ok ((), state') ∧
      state.Decided (.dequeue locked) state' := by
  by_cases inside : state.client.getting = .dequeuing
  · have calls : state.client.step (.dequeue locked) = state.client.dequeue locked := by
      simp only [SomeIpPubSubClient.step, inside]
    cases locked with
    | false =>
      have taken : state.client.step (.dequeue false) =
          .ok (none, { state.client with getting := .outside }) := calls
      exact decided_quiet h taken (fun _ locked => by cases locked) rfl rfl rfl
    | true =>
      cases queue : state.client.messageBuffer with
      | nil =>
        have failed : state.client.step (.dequeue true) = .error .undefined := by
          rw [calls]
          simp only [SomeIpPubSubClient.dequeue, if_true, queue]
        exact decided_undefined h failed fun undisturbed => undisturbed inside rfl queue
      | cons message rest =>
        have taken : state.client.step (.dequeue true) =
            .ok (some message, { state.client with
              messageBuffer := rest
              getting := .outside
              handling := state.client.handling.map (MessageLoop.moved EntryStorage.dequeued) }) := by
          rw [calls]
          simp only [SomeIpPubSubClient.dequeue, if_true, queue]
        have undisturbed : state.Undisturbed (.dequeue true) := by
          intro _ _
          rw [queue]
          exact List.cons_ne_nil _ _
        refine ⟨_, step_ok h.defined taken, fun _ => ⟨h.defined, ?_⟩, fun not => absurd undisturbed not⟩
        have order := h.order
        rw [queue] at order
        have same := pending_moved state.client dequeued_eq_received rest .outside
        show state.returned ++ [message] ++ rest ++ _ = state.arrived
        rw [same, ← order, List.append_assoc state.returned]
        rfl
  · have taken : state.client.step (.dequeue locked) = .ok (none, state.client) := by
      cases place : state.client.getting with
      | outside | waiting => simp only [SomeIpPubSubClient.step, place]
      | dequeuing => exact absurd place inside
    exact decided_quiet h taken (fun here => absurd here inside) rfl rfl rfl

theorem decided_step (h : state.HandsOn) (input : PubSubClientStep) :
    ∃ state', state.step input = .ok ((), state') ∧ state.Decided input state' := by
  cases input with
  | receive message => exact decided_receive h message
  | handle locked => exact decided_handle h locked
  | dequeue locked => exact decided_dequeue h locked
  | get =>
    cases place : state.client.getting with
    | outside =>
      have taken : state.client.step .get = .ok (none, { state.client with
          getting := if state.client.messageBuffer = [] then .waiting else .dequeuing }) := by
        simp only [SomeIpPubSubClient.step, place]
      exact decided_quiet h taken trivial rfl rfl rfl
    | waiting | dequeuing =>
      have taken : state.client.step .get = .ok (none, state.client) := by
        simp only [SomeIpPubSubClient.step, place]
      exact decided_quiet h taken trivial rfl rfl rfl
  | wake timeout =>
    cases place : state.client.getting with
    | waiting =>
      have taken : state.client.step (.wake timeout) = .ok (none, { state.client with
          getting := if state.client.validNotify && !timeout then .dequeuing else .outside }) := by
        simp only [SomeIpPubSubClient.step, place]
      exact decided_quiet h taken trivial rfl rfl rfl
    | outside | dequeuing =>
      have taken : state.client.step (.wake timeout) = .ok (none, state.client) := by
        simp only [SomeIpPubSubClient.step, place]
      exact decided_quiet h taken trivial rfl rfl rfl
  | release =>
    have taken : state.client.step .release = .ok (none, { state.client with
        handling := state.client.handling.map (MessageLoop.moved EntryStorage.released) }) := rfl
    apply decided_quiet h taken trivial rfl rfl
    exact pending_moved state.client released_eq_received state.client.messageBuffer state.client.getting

theorem handsOn_make : make.HandsOn := ⟨rfl, rfl⟩

/-- For every sequence of messages, in every interleaving with the caller: each acknowledged message is
handed on once, whole and in order, and no empty queue is taken from, exactly when every step is
undisturbed. -/
theorem handsOn_iff_undisturbed {trace : List (Taken Acknowledgements PubSubClientStep Unit)}
    (run : Run step make trace state) :
    Run.Throughout HandsOn trace state ↔ Run.Every Undisturbed trace :=
  Run.throughout_iff_decided (fun _ h => h) handsOn_make (fun _ input h => ⟨(), decided_step h input⟩) run

def acknowledging (count : ℕ) : SomeIpSdMessage :=
  { messageId := SomeIpSdMessage.cMessageId, clientId := 0, sessionId := 1, protocolVersion := 1,
    interfaceVersion := 1, messageType := .notification, returnCode := .eOK, rebooted := true,
    entries := List.replicate count (.eventgroup
      { toEntry := Entry.make .acknowledging 1 1 cSubscribeEventTTL 1, counter := 0, eventgroupId := 4,
        counter_le := by decide }) }

theorem handsOn_iff_undisturbed_one : ∃ trace state,
    Run.play step [] make [.get, .receive (acknowledging 1), .handle true, .wake false, .dequeue true,
        .handle true] = .ok (trace, state) ∧
      Run.Throughout HandsOn trace state ∧ state.returned = [acknowledging 1] := by
  obtain ⟨trace, state, played, every, returned⟩ : ∃ trace state,
      Run.play step [] make [.get, .receive (acknowledging 1), .handle true, .wake false, .dequeue true,
          .handle true] = .ok (trace, state) ∧
        Run.Every Undisturbed trace ∧ state.returned = [acknowledging 1] := ⟨_, _, rfl, by decide, rfl⟩
  exact ⟨trace, state, played, (handsOn_iff_undisturbed (Run.of_play .start played)).mpr every, returned⟩

/-- A message with two acknowledge entries is returned twice, the second time without its entries, and a
wait that ends for no reason is followed by a dequeue of nothing. -/
theorem not_always_handsOn :
    (∃ trace state, Run.play step [] make [.receive (acknowledging 2), .handle true, .handle true,
          .handle true, .get, .dequeue true, .get, .dequeue true] = .ok (trace, state) ∧
        state.arrived = [acknowledging 2] ∧ state.returned = [acknowledging 2, acknowledging 0] ∧
        ¬ Run.Throughout HandsOn trace state) ∧
      ∃ trace state, Run.play step [] make [.get, .wake false, .dequeue true] = .ok (trace, state) ∧
        state.undefined = true ∧ ¬ Run.Throughout HandsOn trace state := by
  constructor
  · refine ⟨_, _, rfl, rfl, rfl, ?_⟩
    rintro ⟨handsOn, -⟩
    exact absurd (congrArg List.length handsOn.order) (by decide)
  · refine ⟨_, _, rfl, rfl, ?_⟩
    rintro ⟨handsOn, -⟩
    cases handsOn.defined

end Acknowledgements
end AdaptiveAutosar.Com
