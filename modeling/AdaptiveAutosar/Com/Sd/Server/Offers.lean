import AdaptiveAutosar.Com.SendQueue
import AdaptiveAutosar.Com.Sd.Server.Matching

/-! # The finds and the offers of the service discovery server

`SomeIpSdServer::receiveFind` puts a Find into `mMessageBuffer` and tries again until it is in;
`sendOffer` takes them out until `Empty` and sends an Offer for each. Any number of threads may receive
at a time. The timed states of all phases call `sendOffer` from the one thread of the state machine,
so a call of it may begin whenever none is going on.
-/

namespace AdaptiveAutosar.Com
open Foundations
set_option autoImplicit false

/-- Where the state machine is in `sendOffer`. -/
inductive Offering where
  | resting
  | checking
  | dequeuing
  | sending (find : SomeIpSdMessage)
  deriving DecidableEq, Repr

/-- The state machine is the caller `none`. `offers` are the messages given to `Send`. Behind it is a
record of the run: the finds that were answered, those whose `receiveFind` has returned, and how many
offers are to be sent when the call of `sendOffer` that began last returns. -/
structure OfferQueue (ι : Type) where
  messageBuffer : SharedQueue (Option ι) SomeIpSdMessage
  machine : Offering
  offerServiceMessage : SomeIpSdMessage
  offers : List SomeIpSdMessage
  answered : List SomeIpSdMessage
  received : List SomeIpSdMessage
  due : ℕ

/-- `receive` calls `receiveFind` and `attempt` is the next step in it; `expire` calls `sendOffer` and
`proceed` is the next step in it. -/
inductive OfferStep (ι : Type) where
  | receive (receiver : ι) (message : SomeIpSdMessage)
  | attempt (receiver : ι)
  | expire
  | proceed

namespace OfferQueue
variable {ι : Type} [DecidableEq ι]

def make (offerServiceMessage : SomeIpSdMessage) : OfferQueue ι :=
  ⟨.make, .resting, offerServiceMessage, [], [], [], 0⟩

def step (service : OfferedService) (state : OfferQueue ι) :
    OfferStep ι → Outcome (Unit × OfferQueue ι)
  | .receive receiver message =>
    match state.messageBuffer.position (some receiver) with
    | .outside =>
      if service.matchOfferingService message.entries then
        .ok ((), { state with
          messageBuffer := state.messageBuffer.move (some receiver) (.enqueueLock message) })
      else .ok ((), state)
    | _ => .ok ((), state)
  | .attempt receiver => do
    let (returned, messageBuffer) ← state.messageBuffer.advance (some receiver)
    match returned with
    | some (.enqueued message false) =>
      -- asleep for a millisecond
      pure ((), { state with
        messageBuffer := messageBuffer.move (some receiver) (.enqueueLock message) })
    | some (.enqueued message true) =>
      pure ((), { state with messageBuffer, received := state.received ++ [message] })
    | _ => pure ((), { state with messageBuffer })
  | .expire =>
    match state.machine with
    | .resting => .ok ((), { state with
        machine := .checking
        due := state.offers.length + state.messageBuffer.size })
    | _ => .ok ((), state)
  | .proceed =>
    match state.machine with
    | .resting => .ok ((), state)
    | .checking =>
      if state.messageBuffer.empty then .ok ((), { state with machine := .resting })
      else .ok ((), { state with
        messageBuffer := state.messageBuffer.move none .dequeueLock
        machine := .dequeuing })
    | .dequeuing => do
      let (returned, messageBuffer) ← state.messageBuffer.advance none
      match returned with
      | some (.dequeued (some find)) => pure ((), { state with messageBuffer, machine := .sending find })
      | some _ => pure ((), { state with messageBuffer, machine := .checking })
      | none => pure ((), { state with messageBuffer })
    | .sending find => .ok ((), { state with
        machine := .checking
        offers := state.offers ++ [state.offerServiceMessage]
        offerServiceMessage := state.offerServiceMessage.incrementSessionId.2
        answered := state.answered ++ [find] })

/-- The find that a receiver has put into the queue in a call that has not returned. -/
def unreturned (state : OfferQueue ι) : List SomeIpSdMessage :=
  match state.messageBuffer.mutex with
  | some (some receiver) => (state.messageBuffer.position (some receiver)).put
  | _ => []

/-- The find that `sendOffer` has taken out and not answered. -/
def inHand (state : OfferQueue ι) : List SomeIpSdMessage :=
  match state.machine with
  | .sending find => [find]
  | .dequeuing => (state.messageBuffer.position none).took
  | .resting | .checking => []

/-- The finds accepted are those answered, the one in the hand of `sendOffer` and those in the queue, in
this order; there is one offer for each answered one, and when `sendOffer` has returned, every find is
answered that was counted in the queue when it began. The finds received are accepted, the last one
possibly before its call returns. -/
structure Conserved (service : OfferedService) (state : OfferQueue ι) : Prop where
  order : state.messageBuffer.entered =
    state.answered ++ state.inHand ++ state.messageBuffer.queue
  each : state.offers.length = state.answered.length
  drained : state.machine = .resting → state.due ≤ state.offers.length
  accepted : state.messageBuffer.entered = state.received ++ state.unreturned
  matching : ∀ find ∈ state.messageBuffer.entered, service.matchOfferingService find.entries = true

end OfferQueue

/-! ## What every step keeps -/

namespace Position
variable {α : Type}

/-- The element of a call of `TryEnqueue`. -/
def asked : Position α → List α
  | .enqueueLock element | .emplace element | .countUp element | .enqueueUnlock element => [element]
  | .outside | .dequeueLock | .pop | .countDown _ | .dequeueUnlock _ => []

/-- One for an element that is taken out and still counted. -/
def overcount : Position α → ℕ
  | .countDown _ => 1
  | _ => 0

end Position

namespace OfferQueue
variable {ι : Type} [DecidableEq ι] {service : OfferedService} {state state' : OfferQueue ι}

/-- The receivers only enqueue finds for the service, and the state machine only dequeues, from a queue
it has found not empty. -/
structure Sound (service : OfferedService) (state : OfferQueue ι) : Prop where
  coherent : state.messageBuffer.Coherent
  receivers : ∀ receiver, (state.messageBuffer.position (some receiver)).Enqueuing
  asked : ∀ receiver, ∀ find ∈ (state.messageBuffer.position (some receiver)).asked,
    service.matchOfferingService find.entries = true
  busy : state.machine = .dequeuing → (state.messageBuffer.position none).Dequeuing
  idle : state.machine ≠ .dequeuing → state.messageBuffer.position none = .outside
  available : (state.messageBuffer.position none).Taking → 0 < state.messageBuffer.size
  left : state.messageBuffer.left = state.answered ++ state.inHand
  each : state.offers.length = state.answered.length
  due : state.due + (state.messageBuffer.position none).overcount ≤
    state.offers.length + state.inHand.length + state.messageBuffer.size
  drained : state.machine = .resting → state.due ≤ state.offers.length
  accepted : state.messageBuffer.entered = state.received ++ state.unreturned
  matching : ∀ find ∈ state.messageBuffer.entered, service.matchOfferingService find.entries = true

omit [DecidableEq ι] in
theorem sound_make (service : OfferedService) (offerServiceMessage : SomeIpSdMessage) :
    Sound service (make offerServiceMessage : OfferQueue ι) where
  coherent := SharedQueue.coherent_make
  receivers := fun _ => trivial
  asked := by simp [make, SharedQueue.make, Position.asked]
  busy := by simp [make]
  idle := fun _ => rfl
  available := by simp [make, SharedQueue.make, Position.Taking]
  left := rfl
  each := rfl
  due := le_rfl
  drained := fun _ => le_rfl
  accepted := rfl
  matching := by simp [make, SharedQueue.make]

omit [DecidableEq ι] in
theorem Sound.conserved (h : state.Sound service) : state.Conserved service where
  order := by rw [h.coherent.ordered, h.left]
  each := h.each
  drained := h.drained
  accepted := h.accepted
  matching := h.matching

omit [DecidableEq ι] in
theorem unreturned_of_mutex (mutex : ∀ receiver, state.messageBuffer.mutex ≠ some (some receiver)) :
    state.unreturned = [] := by
  unfold unreturned
  split
  · exact absurd ‹_› (mutex _)
  · rfl

omit [DecidableEq ι] in
theorem unreturned_of_holder {receiver : ι}
    (holds : state.messageBuffer.mutex = some (some receiver)) :
    state.unreturned = (state.messageBuffer.position (some receiver)).put := by
  simp only [unreturned, holds]

omit [DecidableEq ι] in
theorem unreturned_congr (mutex : state'.messageBuffer.mutex = state.messageBuffer.mutex)
    (position : ∀ receiver, state.messageBuffer.mutex = some (some receiver) →
      state'.messageBuffer.position (some receiver) = state.messageBuffer.position (some receiver)) :
    state'.unreturned = state.unreturned := by
  unfold unreturned
  rw [mutex]
  split
  · rename_i receiver holds
    rw [position receiver holds]
  · rfl

theorem Sound.attempted (h : state.Sound service) {receiver : ι}
    {messageBuffer : SharedQueue (Option ι) SomeIpSdMessage} {next : Position SomeIpSdMessage}
    {received : List SomeIpSdMessage} (coherent : messageBuffer.Coherent)
    (positions : ∀ caller, messageBuffer.position caller =
      if caller = some receiver then next else state.messageBuffer.position caller)
    (enqueuing : next.Enqueuing)
    (asked : ∀ find ∈ next.asked, service.matchOfferingService find.entries = true)
    (left : messageBuffer.left = state.messageBuffer.left)
    (counted : state.messageBuffer.size ≤ messageBuffer.size)
    (accepted : messageBuffer.entered =
      received ++ OfferQueue.unreturned { state with messageBuffer, received })
    (matching : ∀ find ∈ messageBuffer.entered, service.matchOfferingService find.entries = true) :
    Sound service { state with messageBuffer, received } := by
  have machine : messageBuffer.position none = state.messageBuffer.position none := by
    simp [positions]
  have hand : OfferQueue.inHand { state with messageBuffer, received } = state.inHand := by
    simp only [inHand, machine]
  constructor
  case coherent => exact coherent
  case receivers =>
    intro other
    have := h.receivers other
    simp only [positions]
    split_ifs
    · exact enqueuing
    · exact this
  case asked =>
    intro other
    have := h.asked other
    simp only [positions]
    split_ifs
    · exact asked
    · exact this
  case busy => simpa only [machine] using h.busy
  case idle => simpa only [machine] using h.idle
  case available =>
    intro taking
    have := h.available (by simpa only [machine] using taking)
    exact Nat.lt_of_lt_of_le this counted
  case left =>
    rw [hand]
    exact left.trans h.left
  case each => exact h.each
  case due =>
    have := h.due
    simp only [hand, machine]
    omega
  case drained => exact h.drained
  case accepted => exact accepted
  case matching => exact matching

/-- A step of a receiver behind the lock of nobody or of another caller. -/
theorem Sound.moved (h : state.Sound service) {receiver : ι} {next : Position SomeIpSdMessage}
    (before : ¬ (state.messageBuffer.position (some receiver)).Inside) (after : ¬ next.Inside)
    (enqueuing : next.Enqueuing)
    (asked : ∀ find ∈ next.asked, service.matchOfferingService find.entries = true) :
    Sound service
      { state with messageBuffer := state.messageBuffer.move (some receiver) next } := by
  refine h.attempted (h.coherent.move before after) (fun _ => SharedQueue.move_position ..) enqueuing
    asked rfl le_rfl ?_ h.matching
  have same : OfferQueue.unreturned
      { state with messageBuffer := state.messageBuffer.move (some receiver) next } =
        state.unreturned := by
    refine unreturned_congr rfl fun other holds => ?_
    have differs : other ≠ receiver := by
      rintro rfl
      exact before ((h.coherent.inside _).mpr holds)
    simp [differs]
  show state.messageBuffer.entered = state.received ++ _
  rw [same]
  exact h.accepted

theorem Sound.attempt (h : state.Sound service) {receiver : ι}
    (taken : state.step service (.attempt receiver) = .ok ((), state')) : state'.Sound service := by
  have enqueuing := h.receivers receiver
  have asked := h.asked receiver
  obtain ⟨⟨returned, messageBuffer⟩, advanced, taken⟩ := bind_eq_ok.mp taken
  have coherent := h.coherent.advance advanced
  have holds (inside : (state.messageBuffer.position (some receiver)).Inside) :=
    (h.coherent.inside (some receiver)).mp inside
  cases SharedQueue.advance_cases advanced with
  | idles at_ =>
    cases taken
    exact h
  | @locks find at_ free =>
    cases taken
    refine h.attempted coherent (fun _ => SharedQueue.lock_position ..) trivial ?_ rfl le_rfl ?_ h.matching
    · simpa [at_, Position.asked] using asked
    · have nothing : state.unreturned = [] := unreturned_of_mutex (by simp [free])
      have accepted := h.accepted
      rw [nothing] at accepted
      simpa [unreturned, Position.put] using accepted
  | @refused find holder at_ held =>
    cases taken
    have moved : Sound service { state with
        messageBuffer := state.messageBuffer.move (some receiver) (.enqueueLock find) } := h.moved
      (by simp [at_, Position.Inside]) (by simp [Position.Inside]) trivial
      (by simpa [at_, Position.asked] using asked)
    simpa [SharedQueue.move] using moved
  | @emplaces find at_ =>
    cases taken
    have holds := holds (by simp [at_, Position.Inside])
    refine h.attempted coherent (fun _ => SharedQueue.put_position ..) trivial ?_ rfl le_rfl ?_ ?_
    · simpa [at_, Position.asked] using asked
    · have accepted := h.accepted
      rw [unreturned_of_holder holds, at_] at accepted
      simpa [unreturned, holds, Position.put] using accepted
    · intro other there
      rcases List.mem_append.mp there with there | there
      · exact h.matching other there
      · exact asked other (by simpa [at_, Position.asked] using there)
  | @counts find at_ =>
    cases taken
    have holds := holds (by simp [at_, Position.Inside])
    refine h.attempted coherent (fun _ => SharedQueue.count_position ..) trivial ?_ rfl
      (Nat.le_succ _) ?_ h.matching
    · simpa [at_, Position.asked] using asked
    · have accepted := h.accepted
      rw [unreturned_of_holder holds, at_] at accepted
      simpa [unreturned, holds, Position.put] using accepted
  | @returns find at_ =>
    cases taken
    have holds := holds (by simp [at_, Position.Inside])
    refine h.attempted coherent (fun _ => SharedQueue.unlock_position ..) trivial ?_ rfl le_rfl ?_ h.matching
    · simp [Position.asked]
    · have accepted := h.accepted
      rw [unreturned_of_holder holds, at_] at accepted
      simpa [unreturned, Position.put] using accepted
  | acquires at_ | misses at_ | pops at_ | uncounts at_ | releases at_ =>
    simp [at_, Position.Enqueuing] at enqueuing

omit [DecidableEq ι] in
theorem Sound.proceeded (h : state.Sound service)
    {messageBuffer : SharedQueue (Option ι) SomeIpSdMessage} {next : Position SomeIpSdMessage}
    {machine : Offering} (coherent : messageBuffer.Coherent)
    (positions : ∀ caller, messageBuffer.position caller =
      if caller = none then next else state.messageBuffer.position caller)
    (mutex : ∀ receiver, messageBuffer.mutex = some (some receiver) ↔
      state.messageBuffer.mutex = some (some receiver))
    (busy : machine = .dequeuing → next.Dequeuing) (idle : machine ≠ .dequeuing → next = .outside)
    (available : next.Taking → 0 < messageBuffer.size)
    (entered : messageBuffer.entered = state.messageBuffer.entered)
    (left : messageBuffer.left =
      state.answered ++ OfferQueue.inHand { state with messageBuffer, machine })
    (due : state.due + next.overcount ≤ state.offers.length +
      (OfferQueue.inHand { state with messageBuffer, machine }).length + messageBuffer.size)
    (drained : machine = .resting → state.due ≤ state.offers.length) :
    Sound service { state with messageBuffer, machine } := by
  have machinePosition : messageBuffer.position none = next := by simp [positions]
  have others (receiver : ι) : messageBuffer.position (some receiver) =
      state.messageBuffer.position (some receiver) := by simp [positions]
  constructor
  case coherent => exact coherent
  case receivers => simpa only [others] using h.receivers
  case asked => simpa only [others] using h.asked
  case busy => simpa only [machinePosition] using busy
  case idle => simpa only [machinePosition] using idle
  case available => simpa only [machinePosition] using available
  case left => exact left
  case each => exact h.each
  case due => simpa only [machinePosition] using due
  case drained => exact drained
  case accepted =>
    show messageBuffer.entered = state.received ++ OfferQueue.unreturned _
    rw [entered, h.accepted]
    congr 1
    by_cases held : ∃ receiver, state.messageBuffer.mutex = some (some receiver)
    · obtain ⟨receiver, holds⟩ := held
      have holds' := (mutex receiver).mpr holds
      rw [unreturned_of_holder holds]
      refine Eq.trans ?_ (unreturned_of_holder holds').symm
      rw [others]
    · have free := not_exists.mp held
      rw [unreturned_of_mutex free]
      exact (unreturned_of_mutex fun receiver holds' => free receiver ((mutex receiver).mp holds')).symm
  case matching =>
    show ∀ find ∈ messageBuffer.entered, _
    rw [entered]
    exact h.matching

theorem Sound.dequeue (h : state.Sound service) (busy : state.machine = .dequeuing)
    (taken : state.step service .proceed = .ok ((), state')) : state'.Sound service := by
  have dequeuing := h.busy busy
  have left := h.left
  have due := h.due
  simp only [step, busy] at taken
  obtain ⟨⟨returned, messageBuffer⟩, advanced, taken⟩ := bind_eq_ok.mp taken
  have coherent := h.coherent.advance advanced
  have holds (inside : (state.messageBuffer.position none).Inside) :=
    (h.coherent.inside none).mp inside
  cases SharedQueue.advance_cases advanced with
  | @acquires at_ free =>
    cases taken
    simp only [inHand, busy, at_, Position.took, Position.overcount] at left due
    refine h.proceeded coherent (fun _ => SharedQueue.lock_position ..) (by simp [free])
      (fun _ => trivial) (fun other => absurd rfl other) ?_ rfl ?_ ?_
      (fun rests => by cases rests)
    · intro _
      exact h.available (.inl at_)
    · simpa [inHand, Position.took] using left
    · simpa [inHand, Position.took, Position.overcount] using due
  | @misses holder at_ held =>
    cases taken
    simp only [inHand, busy, at_, Position.took, Position.overcount] at left due
    refine h.proceeded coherent (fun _ => SharedQueue.move_position ..) (fun _ => Iff.rfl)
      (fun busy => by cases busy) (fun _ => rfl) (by simp [Position.Taking]) rfl ?_ ?_
      (fun rests => by cases rests)
    · simpa [inHand] using left
    · simpa [inHand, Position.overcount] using due
  | @pops find rest at_ queue =>
    cases taken
    have holds := holds (by simp [at_, Position.Inside])
    simp only [inHand, busy, at_, Position.took, Position.overcount] at left due
    refine h.proceeded coherent (fun _ => SharedQueue.take_position ..) (by simp [holds])
      (fun _ => trivial) (fun other => absurd rfl other) (by simp [Position.Taking]) rfl ?_ ?_
      (fun rests => by cases rests)
    · simpa [inHand, Position.took] using left
    · simp only [inHand, SharedQueue.take_position, if_true, Position.took, Position.overcount,
        SharedQueue.take_size, List.length_singleton]
      simp only [List.length_nil] at due
      omega
  | @uncounts find at_ =>
    cases taken
    have holds := holds (by simp [at_, Position.Inside])
    simp only [inHand, busy, at_, Position.took, Position.overcount] at left due
    refine h.proceeded coherent (fun _ => SharedQueue.count_position ..) (by simp [holds])
      (fun _ => trivial) (fun other => absurd rfl other) (by simp [Position.Taking]) rfl ?_ ?_
      (fun rests => by cases rests)
    · simpa [inHand, Position.took] using left
    · simp only [inHand, SharedQueue.count_position, if_true, Position.took, Position.overcount,
        SharedQueue.count_size, List.length_singleton] at due ⊢
      omega
  | @releases find at_ =>
    cases taken
    have holds := holds (by simp [at_, Position.Inside])
    simp only [inHand, busy, at_, Position.took, Position.overcount] at left due
    refine h.proceeded coherent (fun _ => SharedQueue.unlock_position ..) (by simp [holds])
      (fun busy => by cases busy) (fun _ => rfl) (by simp [Position.Taking]) rfl ?_ ?_
      (fun rests => by cases rests)
    · simpa [inHand] using left
    · simpa [inHand, Position.overcount] using due
  | idles at_ | locks at_ | refused at_ | emplaces at_ | counts at_ | returns at_ =>
    simp [at_, Position.Dequeuing] at dequeuing

theorem sound_step {input : OfferStep ι} (h : state.Sound service)
    (taken : state.step service input = .ok ((), state')) : state'.Sound service := by
  cases input with
  | receive receiver message =>
    simp only [step] at taken
    split at taken
    · rename_i outside
      split_ifs at taken with matched
      · cases taken
        refine h.moved (by simp [outside, Position.Inside]) (by simp [Position.Inside]) trivial ?_
        simpa [Position.asked] using matched
      · cases taken
        exact h
    · cases taken
      exact h
  | attempt receiver => exact h.attempt taken
  | expire =>
    simp only [step] at taken
    split at taken
    · rename_i rests
      cases taken
      have outside := h.idle (by simp [rests])
      have left := h.left
      simp only [inHand, rests] at left
      exact { h with
        busy := by simp
        idle := fun _ => outside
        left := left
        due := by simp [outside, Position.overcount, inHand]
        drained := by simp
        accepted := h.accepted }
    · cases taken
      exact h
  | proceed =>
    cases machine : state.machine with
    | resting =>
      simp only [step, machine] at taken
      cases taken
      exact h
    | checking =>
      have outside := h.idle (by simp [machine])
      have left := h.left
      have due := h.due
      simp only [inHand, machine, outside, Position.overcount] at left due
      simp only [step, machine, SharedQueue.empty, decide_eq_true_eq] at taken
      split_ifs at taken with empty
      · cases taken
        refine h.proceeded h.coherent (by simp +contextual [outside]) (fun _ => Iff.rfl) (by simp)
          (fun _ => outside) (by simp [outside, Position.Taking]) rfl ?_ ?_ (fun _ => ?_)
        · simpa [inHand] using left
        · simpa [inHand, outside, Position.overcount] using due
        · simpa [empty] using due
      · cases taken
        have moved : (state.messageBuffer.move none .dequeueLock).Coherent := h.coherent.move
          (by simp [outside, Position.Inside]) (by simp [Position.Inside])
        refine h.proceeded moved (fun _ => SharedQueue.move_position ..) (fun _ => Iff.rfl)
          (fun _ => trivial) (by simp) (fun _ => Nat.pos_of_ne_zero empty) rfl ?_ ?_ (by simp)
        · simpa [inHand, Position.took] using left
        · simpa [inHand, Position.took, Position.overcount] using due
    | dequeuing => exact h.dequeue machine taken
    | sending find =>
      have outside := h.idle (by simp [machine])
      have left := h.left
      have due := h.due
      simp only [inHand, machine, outside, Position.overcount] at left due
      simp only [step, machine] at taken
      cases taken
      exact { h with
        busy := by simp
        idle := fun _ => outside
        left := by simpa [inHand] using left
        each := by simp [h.each]
        due := by
          simp only [inHand, outside, Position.overcount, List.length_append, List.length_singleton,
            List.length_nil] at due ⊢
          omega
        drained := by simp
        accepted := h.accepted }

/-- Every step can be taken; `front` is never called on an empty queue. -/
theorem Sound.total (h : state.Sound service) (input : OfferStep ι) :
    ∃ state', state.step service input = .ok ((), state') := by
  cases input with
  | receive receiver message =>
    simp only [step]
    split
    · split_ifs
      · exact ⟨_, rfl⟩
      · exact ⟨_, rfl⟩
    · exact ⟨_, rfl⟩
  | attempt receiver =>
    have enqueuing := h.receivers receiver
    simp only [step, SharedQueue.advance]
    cases at_ : state.messageBuffer.position (some receiver) with
    | outside | emplace _ | countUp _ | enqueueUnlock _ => exact ⟨_, rfl⟩
    | enqueueLock find =>
      cases state.messageBuffer.mutex with
      | none => exact ⟨_, rfl⟩
      | some holder => exact ⟨_, rfl⟩
    | dequeueLock | pop | countDown _ | dequeueUnlock _ => simp [at_, Position.Enqueuing] at enqueuing
  | expire =>
    simp only [step]
    split
    · exact ⟨_, rfl⟩
    · exact ⟨_, rfl⟩
  | proceed =>
    simp only [step]
    cases machine : state.machine with
    | resting => exact ⟨_, rfl⟩
    | sending find => exact ⟨_, rfl⟩
    | checking =>
      dsimp only
      split_ifs
      · exact ⟨_, rfl⟩
      · exact ⟨_, rfl⟩
    | dequeuing =>
      have dequeuing := h.busy machine
      simp only [SharedQueue.advance]
      cases at_ : state.messageBuffer.position none with
      | dequeueLock =>
        cases state.messageBuffer.mutex with
        | none => exact ⟨_, rfl⟩
        | some holder => exact ⟨_, rfl⟩
      | pop =>
        cases queue : state.messageBuffer.queue with
        | nil =>
          have holds := (h.coherent.inside none).mp (by simp [at_, Position.Inside])
          have sized := h.coherent.sized none holds
          have available := h.available (.inr at_)
          simp only [at_, Position.lag, queue, List.length_nil] at sized
          omega
        | cons find rest => exact ⟨_, rfl⟩
      | countDown _ | dequeueUnlock _ => exact ⟨_, rfl⟩
      | outside | enqueueLock _ | emplace _ | countUp _ | enqueueUnlock _ =>
        simp [at_, Position.Dequeuing] at dequeuing

/-! ## A call of `sendOffer` alone -/

/-- With no receiver inside the queue, six steps answer the first find. -/
theorem Sound.round (h : state.Sound service) (checks : state.machine = .checking)
    (free : state.messageBuffer.mutex = none) {find : SomeIpSdMessage} {rest : List SomeIpSdMessage}
    (queue : state.messageBuffer.queue = find :: rest)
    (trace : List (Taken (OfferQueue ι) (OfferStep ι) Unit)) :
    ∃ trace' state', state'.Sound service ∧ state'.machine = .checking ∧
      state'.messageBuffer.mutex = none ∧ state'.messageBuffer.queue = rest ∧
      state'.answered = state.answered ++ [find] ∧
      ∀ more, Run.play (step service) trace state (List.replicate (more + 6) .proceed) =
        Run.play (step service) trace' state' (List.replicate more .proceed) := by
  have size := h.coherent.free free
  rw [queue, List.length_cons] at size
  obtain ⟨s1, e1, taken1⟩ : ∃ s1, s1 = { state with
      messageBuffer := state.messageBuffer.move none .dequeueLock, machine := .dequeuing } ∧
      state.step service .proceed = .ok ((), s1) := by
    refine ⟨_, rfl, ?_⟩
    simp [step, checks, SharedQueue.empty, size]
  obtain ⟨s2, e2, taken2⟩ : ∃ s2, s2 = { s1 with
      messageBuffer := s1.messageBuffer.lock none .pop } ∧ s1.step service .proceed = .ok ((), s2) := by
    refine ⟨_, rfl, ?_⟩
    simp [e1, step, SharedQueue.advance, free, bind, Except.bind, pure, Except.pure]
  obtain ⟨s3, e3, taken3⟩ : ∃ s3, s3 = { s2 with
      messageBuffer := s2.messageBuffer.take none find rest } ∧
      s2.step service .proceed = .ok ((), s3) := by
    refine ⟨_, rfl, ?_⟩
    simp [e2, e1, step, SharedQueue.advance, queue, bind, Except.bind, pure, Except.pure]
  obtain ⟨s4, e4, taken4⟩ : ∃ s4, s4 = { s3 with
      messageBuffer := s3.messageBuffer.count none (s3.messageBuffer.size - 1)
        (.dequeueUnlock find) } ∧ s3.step service .proceed = .ok ((), s4) := by
    refine ⟨_, rfl, ?_⟩
    simp [e3, e2, e1, step, SharedQueue.advance, bind, Except.bind, pure, Except.pure]
  obtain ⟨s5, e5, taken5⟩ : ∃ s5, s5 = { s4 with
      messageBuffer := s4.messageBuffer.unlock none, machine := .sending find } ∧
      s4.step service .proceed = .ok ((), s5) := by
    refine ⟨_, rfl, ?_⟩
    simp [e4, e3, e2, e1, step, SharedQueue.advance, bind, Except.bind, pure, Except.pure]
  obtain ⟨s6, e6, taken6⟩ : ∃ s6, s6 = { s5 with
      machine := .checking
      offers := s5.offers ++ [s5.offerServiceMessage]
      offerServiceMessage := s5.offerServiceMessage.incrementSessionId.2
      answered := s5.answered ++ [find] } ∧ s5.step service .proceed = .ok ((), s6) := by
    refine ⟨_, rfl, ?_⟩
    simp [e5, step]
  have sound := sound_step (sound_step (sound_step (sound_step (sound_step (sound_step h taken1) taken2)
    taken3) taken4) taken5) taken6
  refine ⟨⟨s5, .proceed, ()⟩ :: ⟨s4, .proceed, ()⟩ :: ⟨s3, .proceed, ()⟩ :: ⟨s2, .proceed, ()⟩ ::
    ⟨s1, .proceed, ()⟩ :: ⟨state, .proceed, ()⟩ :: trace, s6, sound, ?_, ?_, ?_, ?_, fun more => ?_⟩
  · rw [e6]
  · subst e1 e2 e3 e4 e5 e6
    rfl
  · subst e1 e2 e3 e4 e5 e6
    rfl
  · subst e1 e2 e3 e4 e5 e6
    rfl
  · simp only [List.replicate_succ, Run.play, taken1, taken2, taken3, taken4, taken5, taken6]

theorem Sound.drains (h : state.Sound service) (checks : state.machine = .checking)
    (free : state.messageBuffer.mutex = none)
    (trace : List (Taken (OfferQueue ι) (OfferStep ι) Unit)) :
    ∃ times trace' state',
      Run.play (step service) trace state (List.replicate times .proceed) = .ok (trace', state') ∧
        state'.machine = .resting ∧ state'.messageBuffer.queue = [] ∧
        state'.answered = state.answered ++ state.messageBuffer.queue := by
  induction queue : state.messageBuffer.queue generalizing state trace with
  | nil =>
    have size := h.coherent.free free
    rw [queue, List.length_nil] at size
    refine ⟨1, [⟨state, .proceed, ()⟩] ++ trace, { state with machine := .resting }, ?_, rfl, queue, ?_⟩
    · have taken : state.step service .proceed = .ok ((), { state with machine := .resting }) := by
        simp [step, checks, SharedQueue.empty, size]
      simp only [List.replicate_one, Run.play, taken]
      rfl
    · simp
  | cons find rest ih =>
    obtain ⟨trace1, s, sound, checks', free', queue', answered, played⟩ := h.round checks free queue trace
    obtain ⟨times, trace', last, played', rests, empty, all⟩ := ih sound checks' free' trace1 queue'
    refine ⟨times + 6, trace', last, ?_, rests, empty, ?_⟩
    · rw [played, played']
    · rw [all, answered, List.append_assoc]
      rfl

omit [DecidableEq ι] in
theorem inHand_length_le (state : OfferQueue ι) : state.inHand.length ≤ 1 := by
  unfold inHand
  split
  · exact le_rfl
  · unfold Position.took
    split
    · exact le_rfl
    · exact le_rfl
    · exact Nat.zero_le _
  · exact Nat.zero_le _
  · exact Nat.zero_le _

/-- In every run of any receivers and the state machine: the offers sent, the find in the hand of
`sendOffer`, if it has one, and the finds in the queue are as many as the finds accepted. Each accepted
find is one for the service and is answered once, in its turn; a call of `sendOffer` that is over has
answered all that were counted when it began, and one that runs with no receiver inside the queue ends
with all of them answered. -/
theorem offers_conserved (service : OfferedService) (offerServiceMessage : SomeIpSdMessage)
    {trace : List (Taken (OfferQueue ι) (OfferStep ι) Unit)}
    (run : Run (step service) (make offerServiceMessage) trace state) :
    state.offers.length + state.inHand.length + state.messageBuffer.queue.length =
        state.messageBuffer.entered.length ∧
      state.inHand.length ≤ 1 ∧ state.Conserved service ∧
      (∀ input, ∃ state', state.step service input = .ok ((), state')) ∧
      (state.machine = .resting → state.messageBuffer.mutex = none →
        ∃ times trace' state',
          Run.play (step service) trace state (.expire :: List.replicate times .proceed) =
              .ok (trace', state') ∧
            state'.machine = .resting ∧ state'.messageBuffer.queue = [] ∧
            state'.answered = state.messageBuffer.entered) := by
  have sound : state.Sound service :=
    Run.reached (sound_make service offerServiceMessage) (fun _ _ _ _ h taken => sound_step h taken) run
  have conserved := sound.conserved
  refine ⟨?_, inHand_length_le state, conserved, sound.total, fun rests free => ?_⟩
  · rw [conserved.order, conserved.each]
    simp only [List.length_append]
  · obtain ⟨started, taken⟩ : ∃ started, state.step service .expire = .ok ((), started) ∧
        started.machine = .checking ∧ started.messageBuffer = state.messageBuffer ∧
        started.answered = state.answered :=
      ⟨{ state with
          machine := .checking
          due := state.offers.length + state.messageBuffer.size }, by simp only [step, rests], rfl, rfl, rfl⟩
    obtain ⟨taken, checks, buffer, answered⟩ := taken
    obtain ⟨times, trace', last, played, rests', empty, all⟩ :=
      (sound_step sound taken).drains checks (buffer ▸ free) (⟨state, .expire, ()⟩ :: trace)
    refine ⟨times, trace', last, ?_, rests', empty, ?_⟩
    · simp only [Run.play, taken]
      exact played
    · rw [all, buffer, answered, conserved.order]
      simp [inHand, rests]

/-- A Find for service 1. -/
def findMessage : SomeIpSdMessage :=
  { SdReceiver.foreignOffer with entries := [.service (ServiceEntry.make .finding 1 1 3 1 0)] }

/-- It is received and answered. -/
def answeredFind : List (OfferStep Unit) :=
  [.receive () findMessage, .attempt (), .attempt (), .attempt (), .attempt (), .expire, .proceed,
    .proceed, .proceed, .proceed, .proceed, .proceed]

theorem offers_conserved_answeredFind : ∃ trace state,
    Run.play (step ⟨1, 1, 1, 0⟩) [] (make SdReceiver.foreignOffer) answeredFind = .ok (trace, state) ∧
      state.answered = [findMessage] ∧ state.Conserved ⟨1, 1, 1, 0⟩ := by
  obtain ⟨trace, state, played, answered⟩ : ∃ trace state,
      Run.play (step ⟨1, 1, 1, 0⟩) [] (make SdReceiver.foreignOffer) answeredFind = .ok (trace, state) ∧
        state.answered = [findMessage] := ⟨_, _, rfl, rfl⟩
  have conserved := offers_conserved _ _ (Run.of_play .start played)
  exact ⟨trace, state, played, answered, conserved.2.2.1⟩

/-- A find that is taken out and not answered yet is neither in the queue nor among the offers, and one
that is in the queue and not counted yet is not drained. -/
theorem not_always_conserved :
    (∃ trace state,
      Run.play (step ⟨1, 1, 1, 0⟩) [] (make SdReceiver.foreignOffer) (answeredFind.take 11) =
          .ok (trace, state) ∧
        state.offers.length = 0 ∧ state.messageBuffer.queue.length = 0 ∧
        state.messageBuffer.entered.length = 1) ∧
      ∃ trace state,
        Run.play (step ⟨1, 1, 1, 0⟩) [] (make SdReceiver.foreignOffer)
            [.receive () findMessage, .attempt (), .attempt (), .expire, .proceed] = .ok (trace, state) ∧
          state.machine = .resting ∧ state.offers.length = 0 ∧ state.messageBuffer.entered.length = 1 :=
  ⟨⟨_, _, rfl, rfl, rfl, rfl⟩, ⟨_, _, rfl, rfl, rfl, rfl⟩⟩

end OfferQueue
end AdaptiveAutosar.Com
