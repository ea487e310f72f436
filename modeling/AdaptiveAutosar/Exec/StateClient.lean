import Mathlib.Logic.Function.Basic
import AdaptiveAutosar.Com.Rpc.Client
import AdaptiveAutosar.Exec.FunctionGroupState
import AdaptiveAutosar.Exec.Reply
import AdaptiveAutosar.Foundations.Transition

/-! # The state client and its futures

`ara::exec::StateClient`: each of its two methods has one promise. A call cancels the future that the call
before it returned and takes a new promise; a reply settles the promise that is there, whichever request it
answers.
-/

namespace AdaptiveAutosar.Exec
open Foundations Com
set_option autoImplicit false

inductive StateMethod where
  | setState
  | stateTransition
  deriving DecidableEq, Repr

/-- The promise and the future of a method. -/
structure StateRequest where
  promise : Promise
  future : Option ℕ
  deriving DecidableEq, Repr

structure StateClient where
  states : SharedStates ExecErrc
  requests : StateMethod → StateRequest

namespace StateClient

def cServiceId : UInt16 := 3
def cClientId : UInt16 := 4

/-- `cSetStateId` and `cStateTransition`. -/
def methodId : StateMethod → UInt16
  | .setState => 1
  | .stateTransition => 2

/-- The promises of a new client have no future yet. -/
def make : StateClient :=
  ⟨[none, none], fun method =>
    match method with
    | .setState => ⟨⟨0, false⟩, none⟩
    | .stateTransition => ⟨⟨1, false⟩, none⟩⟩

/-- `setStateHandler` and `stateTransitionHandler`. -/
def handler (method : StateMethod) : ResponseHandler StateClient := fun message client =>
  match settle (client.requests method).promise message.rpcPayload client.states with
  | .ok states => (.ok (), { client with states })
  | .error e => (.error e, client)

/-- The RPC client with the handlers that the constructor sets. -/
def rpcClient (protocolVersion interfaceVersion : UInt8) : RpcClient StateClient :=
  ((RpcClient.make protocolVersion interfaceVersion).setHandler cServiceId (methodId .setState)
    (handler .setState)).setHandler cServiceId (methodId .stateTransition) (handler .stateTransition)

/-- The promise of a method whose future is valid is cancelled, unless it is set, and replaced. -/
def cancelled (client : StateClient) (method : StateMethod) : StateClient :=
  let request := client.requests method
  if request.future.isSome then
    let renewed := request.promise.renew (request.promise.trySet (.exception .cancelled) client.states)
    { states := renewed.2, requests := Function.update client.requests method { request with promise := renewed.1 } }
  else client

/-- `getFuture`, with what it hands to `Send`. Behind a promise whose future is retrieved the future holds
`kFailed`. -/
def getFuture (client : StateClient) (method : StateMethod) (rpcPayload : Bytes) :
    (ℕ × Option RpcCall) × StateClient :=
  let request := client.requests method
  match request.promise.getFuture with
  | .ok (future, promise) =>
    ((future, some ⟨cServiceId, methodId method, cClientId, rpcPayload⟩),
      { client with requests := Function.update client.requests method { request with promise } })
  | .error _ =>
    ((client.states.length, none), { client with states := client.states ++ [some (.exception .failed)] })

/-- The part that `SetState` and `GetInitialMachineStateTransitionResult` share: the future they return, and
what they send. -/
def call (client : StateClient) (method : StateMethod) (rpcPayload : Bytes) :
    (ℕ × Option RpcCall) × StateClient :=
  let (result, called) := (client.cancelled method).getFuture method rpcPayload
  (result, { called with
    requests := Function.update called.requests method
      { called.requests method with future := some result.1 } })

def setState (client : StateClient) (state : FunctionGroupState) : (ℕ × Option RpcCall) × StateClient :=
  client.call .setState (state.serialize [])

def getInitialMachineStateTransitionResult (client : StateClient) : (ℕ × Option RpcCall) × StateClient :=
  client.call .stateTransition []

/-! ## What a call does -/

/-- The call of a method, as it is sent. -/
def rpcCallOf (method : StateMethod) (rpcPayload : Bytes) : RpcCall :=
  ⟨cServiceId, methodId method, cClientId, rpcPayload⟩

variable {client : StateClient} {method : StateMethod}

/-- The first call of a method returns the future of the promise that is there. -/
theorem call_first (first : (client.requests method).future = none)
    (fresh : (client.requests method).promise.retrieved = false) (rpcPayload : Bytes) :
    client.call method rpcPayload = (((client.requests method).promise.state, some (rpcCallOf method rpcPayload)),
      ⟨client.states, Function.update client.requests method
        ⟨⟨(client.requests method).promise.state, true⟩, some (client.requests method).promise.state⟩⟩) := by
  have untouched : client.cancelled method = client := by
    unfold cancelled
    dsimp only
    rw [first]
    rfl
  unfold call getFuture
  rw [untouched]
  dsimp only
  rw [Promise.getFuture_fresh fresh]
  simp [rpcCallOf]

/-- Any later call cancels the future before it, if it is not ready, and returns a new one. -/
theorem call_again (again : (client.requests method).future.isSome = true)
    (inside : (client.requests method).promise.state < client.states.length) (rpcPayload : Bytes) :
    ∃ states, (states = client.states ∨ client.states[(client.requests method).promise.state]? = some none ∧
        states = List.set client.states (client.requests method).promise.state (some (.exception .cancelled))) ∧
      client.call method rpcPayload = ((client.states.length, some (rpcCallOf method rpcPayload)),
        ⟨states ++ [none], Function.update client.requests method
          ⟨⟨client.states.length, true⟩, some client.states.length⟩⟩) := by
  obtain ⟨cases, length, settled, ready⟩ :=
    Promise.trySet_cases (client.requests method).promise inside (.exception .cancelled)
  refine ⟨_, cases, ?_⟩
  unfold call getFuture cancelled
  dsimp only
  rw [if_pos again, Promise.renew_settled ready, length]
  simp [Promise.getFuture, rpcCallOf]

end StateClient

/-! ## The client and its server -/

/-- A request that is not answered yet, with the future that its call returned. -/
structure StateInFlight where
  method : StateMethod
  future : ℕ
  deriving DecidableEq, Repr

structure StateLink where
  client : StateClient
  rpc : RpcClient StateClient
  inFlight : List StateInFlight

inductive StateEvent where
  | setState (state : FunctionGroupState)
  | getInitialMachineStateTransitionResult
  /-- The response to the oldest request arrives. -/
  | respond (message : SomeIpRpcMessage)

inductive StateOutput where
  | returned (future : ℕ)
  | handled (result : Outcome Unit)

namespace StateLink

def start (protocolVersion interfaceVersion : UInt8) : StateLink :=
  ⟨.make, StateClient.rpcClient protocolVersion interfaceVersion, []⟩

/-- What a call leaves: what it sends is in flight. -/
def sent (link : StateLink) (method : StateMethod) (called : (ℕ × Option RpcCall) × StateClient) :
    Except Unit (StateOutput × StateLink) :=
  match called.1.2 with
  | some rpcCall =>
    match link.rpc.send rpcCall with
    | .ok (_, rpc) =>
      .ok (.returned called.1.1, ⟨called.2, rpc, link.inFlight ++ [⟨method, called.1.1⟩]⟩)
    | .error _ => .error ()
  | none => .ok (.returned called.1.1, { link with client := called.2 })

/-- `message` is a response to the oldest request in flight. -/
def Answers (link : StateLink) (message : SomeIpRpcMessage) : Prop :=
  ∃ head ∈ link.inFlight.head?,
    message.messageId = messageIdOf StateClient.cServiceId (StateClient.methodId head.method) ∧
      message.rpcPayload.length + 8 < 2 ^ 32

instance (link : StateLink) (message : SomeIpRpcMessage) : Decidable (link.Answers message) :=
  @Option.decidableExistsMem _ _ (fun _ => instDecidableAnd) _

/-- The server answers the requests in their order. -/
def step (link : StateLink) : StateEvent → Except Unit (StateOutput × StateLink)
  | .setState state => link.sent .setState (link.client.setState state)
  | .getInitialMachineStateTransitionResult =>
    link.sent .stateTransition link.client.getInitialMachineStateTransitionResult
  | .respond message =>
    if link.Answers message then
      let (result, client, _) := link.rpc.invokeHandler message.payload link.client
      .ok (.handled result, ⟨client, link.rpc, link.inFlight.tail⟩)
    else .error ()

/-! ## What the futures should do -/

/-- A step settles no future twice, and settles a future with a cancellation or with what the response to its
own request says; the handler of a response does not throw. -/
structure Owned (before : StateLink) (event : StateEvent) (output : StateOutput) (after : StateLink) : Prop where
  once : ∀ future settled, Promise.resultOf before.client.states future = some settled →
    Promise.resultOf after.client.states future = some settled
  own : ∀ future settled, Promise.resultOf before.client.states future = none →
    Promise.resultOf after.client.states future = some settled →
      match event with
      | .respond message =>
        (∃ head ∈ before.inFlight.head?, head.future = future) ∧ settled = outcomeOf message.rpcPayload
      | _ => settled = .exception .cancelled
  returns : ∀ result, output = .handled result → result = .ok ()

/-- Every response that arrives answers the newest request of its method. -/
def AnswersNewest (link : StateLink) (event : StateEvent) : Prop :=
  match event with
  | .respond _ => ∀ head ∈ link.inFlight.head?, ∀ later ∈ link.inFlight.tail, later.method ≠ head.method
  | _ => True

instance (link : StateLink) (event : StateEvent) : Decidable (link.AnswersNewest event) :=
  match event with
  | .respond _ => @Option.decidableForallMem _ _ (fun _ => List.decidableBAll _ _) _
  | .setState _ => .isTrue trivial
  | .getInitialMachineStateTransitionResult => .isTrue trivial

/-! ## What holds before every step -/

/-- The futures of a method's requests in flight, the oldest first. -/
def waiting (inFlight : List StateInFlight) (method : StateMethod) : List ℕ :=
  (inFlight.filter (·.method = method)).map StateInFlight.future

theorem waiting_append (inFlight : List StateInFlight) (method other : StateMethod) (future : ℕ) :
    waiting (inFlight ++ [⟨other, future⟩]) method =
      if other = method then waiting inFlight method ++ [future] else waiting inFlight method := by
  unfold waiting
  rw [List.filter_append, List.map_append]
  by_cases same : other = method
  · simp [same]
  · simp [same]

theorem waiting_cons (head : StateInFlight) (rest : List StateInFlight) (method : StateMethod) :
    waiting (head :: rest) method =
      if head.method = method then head.future :: waiting rest method else waiting rest method := by
  unfold waiting
  rw [List.filter_cons]
  by_cases same : head.method = method
  · simp [same]
  · simp [same]

theorem waiting_eq_nil_iff (inFlight : List StateInFlight) (method : StateMethod) :
    waiting inFlight method = [] ↔ ∀ later ∈ inFlight, later.method ≠ method := by
  unfold waiting
  simp

/-- As long as every response answers the newest request of its method: a request in flight is the one whose
promise the method has, or was cancelled by that one's call. -/
structure Sound (link : StateLink) : Prop where
  handlers : ∀ method, link.rpc.handlers (messageIdOf StateClient.cServiceId (StateClient.methodId method)) =
    some (StateClient.handler method)
  inside : ∀ method, (link.client.requests method).promise.state < link.client.states.length
  apart : ∀ method other, (link.client.requests method).promise.state =
    (link.client.requests other).promise.state → method = other
  retrieved : ∀ method, (link.client.requests method).promise.retrieved =
    (link.client.requests method).future.isSome
  first : ∀ method, (link.client.requests method).future = none → waiting link.inFlight method = [] ∧
    link.client.states[(link.client.requests method).promise.state]? = some none
  bounded : ∀ method, ∀ future ∈ waiting link.inFlight method, future < link.client.states.length
  newest : ∀ method, waiting link.inFlight method = [] ∨
    ∃ older, waiting link.inFlight method = older ++ [(link.client.requests method).promise.state] ∧
      (link.client.requests method).promise.state ∉ older ∧
      link.client.states[(link.client.requests method).promise.state]? = some none

theorem start_sound (protocolVersion interfaceVersion : UInt8) :
    (start protocolVersion interfaceVersion).Sound where
  handlers method := by cases method <;> rfl
  inside method := by cases method <;> simp [start, StateClient.make]
  apart method other same := by
    cases method with
    | setState =>
      cases other with
      | setState => rfl
      | stateTransition => cases same
    | stateTransition =>
      cases other with
      | setState => cases same
      | stateTransition => rfl
  retrieved method := by cases method <;> rfl
  first method _ := by cases method <;> exact ⟨rfl, rfl⟩
  bounded _ _ there := by cases there
  newest _ := .inl rfl

/-- A response to a request whose method has a promise that is not set settles that promise. -/
theorem invokeHandler_pending {link : StateLink} {method : StateMethod} {message : SomeIpRpcMessage}
    (handlers : link.rpc.handlers (messageIdOf StateClient.cServiceId (StateClient.methodId method)) =
      some (StateClient.handler method))
    (id : message.messageId = messageIdOf StateClient.cServiceId (StateClient.methodId method))
    (fits : message.Fits)
    (pending : link.client.states[(link.client.requests method).promise.state]? = some none) :
    link.rpc.invokeHandler message.payload link.client = (.ok (),
      ⟨List.set link.client.states (link.client.requests method).promise.state
        (some (outcomeOf message.rpcPayload)), link.client.requests⟩, [message]) := by
  have handled : StateClient.handler method message link.client = (.ok (),
      ⟨List.set link.client.states (link.client.requests method).promise.state
        (some (outcomeOf message.rpcPayload)), link.client.requests⟩) := by
    unfold StateClient.handler
    rw [settle_eq, Promise.set_pending pending]
  exact RpcClient.invokeHandler_returns fits (id ▸ handlers) handled

variable {link : StateLink} {method : StateMethod}

theorem Sound.called (sound : link.Sound) {states : SharedStates ExecErrc} {rpc : RpcClient StateClient}
    {state : ℕ} (handlers : rpc.handlers = link.rpc.handlers) (grown : link.client.states.length ≤ states.length)
    (pending : states[state]? = some none) (own : state ∉ waiting link.inFlight method)
    (others : ∀ other ≠ method, (link.client.requests other).promise.state ≠ state ∧
      states[(link.client.requests other).promise.state]? =
        link.client.states[(link.client.requests other).promise.state]?) :
    Sound ⟨⟨states, Function.update link.client.requests method ⟨⟨state, true⟩, some state⟩⟩, rpc,
      link.inFlight ++ [⟨method, state⟩]⟩ := by
  have inside : state < states.length := by
    by_contra outside
    rw [List.getElem?_eq_none (Nat.le_of_not_lt outside)] at pending
    cases pending
  refine ⟨?_, ?_, ?_, ?_, ?_, ?_, ?_⟩
  · intro other
    rw [handlers]
    exact sound.handlers other
  · intro other
    by_cases same : other = method
    · subst same
      simpa using inside
    · simpa [same] using Nat.lt_of_lt_of_le (sound.inside other) grown
  · intro one other
    by_cases here : one = method
    · by_cases there : other = method
      · exact fun _ => here.trans there.symm
      · subst here
        simp only [Function.update_self, Function.update_of_ne there]
        exact fun same => absurd same.symm (others other there).1
    · by_cases there : other = method
      · subst there
        simp only [Function.update_self, Function.update_of_ne here]
        exact fun same => absurd same (others one here).1
      · simp only [Function.update_of_ne here, Function.update_of_ne there]
        exact sound.apart one other
  · intro other
    by_cases same : other = method
    · subst same
      simp
    · simpa [same] using sound.retrieved other
  · intro other
    by_cases same : other = method
    · subst same
      simp
    · simp only [Function.update_of_ne same, waiting_append, if_neg (Ne.symm same)]
      rw [(others other same).2]
      exact sound.first other
  · intro other future there
    rw [waiting_append] at there
    have either : future ∈ waiting link.inFlight other ∨ future = state := by
      split_ifs at there with same
      · exact (List.mem_append.mp there).imp_right List.mem_singleton.mp
      · exact .inl there
    rcases either with before | rfl
    · exact Nat.lt_of_lt_of_le (sound.bounded other future before) grown
    · exact inside
  · intro other
    by_cases same : other = method
    · subst same
      right
      refine ⟨waiting link.inFlight other, ?_, ?_, ?_⟩
      · simp [waiting_append]
      · simpa using own
      · simpa using pending
    · simp only [Function.update_of_ne same, waiting_append, if_neg (Ne.symm same)]
      rw [(others other same).2]
      exact sound.newest other

/-- A call keeps the link sound, and settles at most the future before it, with a cancellation. -/
theorem Sound.sent (sound : link.Sound) (method : StateMethod) (rpcPayload : Bytes) :
    ∃ future link', link.sent method (link.client.call method rpcPayload) = .ok (.returned future, link') ∧
      link'.Sound ∧
      (∀ future settled, Promise.resultOf link.client.states future = some settled →
        Promise.resultOf link'.client.states future = some settled) ∧
      ∀ future settled, Promise.resultOf link.client.states future = none →
        Promise.resultOf link'.client.states future = some settled → settled = .exception .cancelled := by
  obtain ⟨bytes, rpc, sends, handlers⟩ := link.rpc.exists_send (StateClient.rpcCallOf method rpcPayload)
  have inside := sound.inside method
  unfold StateLink.sent
  cases valid : (link.client.requests method).future with
  -- the first call takes the promise that is there, any other one renews it
  | none =>
    obtain ⟨idle, pending⟩ := sound.first method valid
    have unretrieved := sound.retrieved method
    rw [valid] at unretrieved
    rw [StateClient.call_first valid unretrieved]
    dsimp only
    rw [sends]
    refine ⟨_, _, rfl, ?_, fun _ _ ready => ready, fun _ _ before after => ?_⟩
    · apply sound.called handlers (Nat.le_refl _) pending
      · rw [idle]
        exact List.not_mem_nil
      · intro other different
        exact ⟨fun same => different (sound.apart other method same), rfl⟩
    · cases before.symm.trans after
  | some future =>
    obtain ⟨states, cases, calls⟩ := StateClient.call_again (by rw [valid]; rfl) inside rpcPayload
    have length : states.length = link.client.states.length := by
      rcases cases with rfl | ⟨_, rfl⟩
      · rfl
      · exact List.length_set
    rw [calls]
    dsimp only
    rw [sends]
    refine ⟨_, _, rfl, ?_, ?_, ?_⟩
    · apply sound.called handlers
      · rw [List.length_append, length]
        exact Nat.le_add_right _ _
      · rw [← length, List.getElem?_concat_length]
      · exact fun there => Nat.lt_irrefl _ (sound.bounded method _ there)
      · intro other different
        have within := sound.inside other
        refine ⟨Nat.ne_of_lt within, ?_⟩
        rw [List.getElem?_append_left (length ▸ within)]
        rcases cases with rfl | ⟨_, rfl⟩
        · rfl
        · exact List.getElem?_set_ne fun same => different (sound.apart other method same.symm)
    · intro future settled ready
      rw [Promise.resultOf_append]
      rcases cases with rfl | ⟨pending, rfl⟩
      · exact ready
      · rw [Promise.resultOf_set inside]
        by_cases here : future = (link.client.requests method).promise.state
        · rw [here, Promise.resultOf_of_pending pending] at ready
          cases ready
        · rw [if_neg here]
          exact ready
    · intro future settled before after
      rw [Promise.resultOf_append] at after
      rcases cases with rfl | ⟨pending, rfl⟩
      · cases before.symm.trans after
      · rw [Promise.resultOf_set inside] at after
        split_ifs at after with here
        · exact (Option.some.inj after).symm
        · cases before.symm.trans after

/-- Before a response to its oldest request a sound link has a promise for it that is not set, which is the
promise of that request exactly when no newer one of its method is in flight. -/
theorem Sound.oldest (sound : link.Sound) {head : StateInFlight} {rest : List StateInFlight}
    (inFlight : link.inFlight = head :: rest) :
    link.client.states[(link.client.requests head.method).promise.state]? = some none ∧
      (head.future = (link.client.requests head.method).promise.state ↔ waiting rest head.method = []) := by
  have lined := waiting_cons head rest head.method
  rw [if_pos rfl, ← inFlight] at lined
  rcases sound.newest head.method with idle | ⟨older, waits, notOlder, pending⟩
  · rw [lined] at idle
    cases idle
  · refine ⟨pending, ?_⟩
    rw [lined] at waits
    cases older with
    | nil =>
      obtain ⟨same, none_later⟩ := List.cons.inj waits
      exact iff_of_true same none_later
    | cons oldest older =>
      obtain ⟨same, later⟩ := List.cons.inj waits
      refine iff_of_false (fun own => notOlder ?_) (fun none_later => ?_)
      · rw [← own, same]
        exact List.mem_cons_self
      · rw [none_later] at later
        simp at later

theorem Sound.answered (sound : link.Sound) {head : StateInFlight} {rest : List StateInFlight}
    (inFlight : link.inFlight = head :: rest) (idle : waiting rest head.method = [])
    (settled : Settled ExecErrc) :
    Sound ⟨⟨List.set link.client.states (link.client.requests head.method).promise.state (some settled),
      link.client.requests⟩, link.rpc, rest⟩ := by
  have shorter : ∀ other, waiting link.inFlight other =
      if head.method = other then head.future :: waiting rest other else waiting rest other := by
    intro other
    rw [inFlight, waiting_cons]
  have apart : ∀ other, head.method ≠ other →
      (List.set link.client.states (link.client.requests head.method).promise.state (some settled))[
          (link.client.requests other).promise.state]? =
        link.client.states[(link.client.requests other).promise.state]? := by
    intro other different
    exact List.getElem?_set_ne fun here => different (sound.apart head.method other here)
  refine ⟨sound.handlers, fun other => ?_, sound.apart, sound.retrieved, ?_, ?_, ?_⟩
  · rw [List.length_set]
    exact sound.inside other
  · intro other unused
    have first := sound.first other unused
    rw [shorter] at first
    split_ifs at first with same
    · cases first.1
    · exact ⟨first.1, (apart other same).trans first.2⟩
  · intro other future there
    rw [List.length_set]
    refine sound.bounded other future ?_
    rw [shorter]
    split_ifs
    · exact List.mem_cons_of_mem _ there
    · exact there
  · intro other
    by_cases same : head.method = other
    · exact .inl (same ▸ idle)
    · have before := sound.newest other
      rw [shorter, if_neg same, ← apart other same] at before
      exact before

/-- A response settles the promise of its method, and owns it exactly when it answers the newest request. -/
theorem Sound.responded (sound : link.Sound) {message : SomeIpRpcMessage} (answers : link.Answers message) :
    ∃ link', link.step (.respond message) = .ok (.handled (.ok ()), link') ∧
      (link.AnswersNewest (.respond message) → link'.Sound) ∧
      (link.Owned (.respond message) (.handled (.ok ())) link' ↔ link.AnswersNewest (.respond message)) := by
  have given := answers
  obtain ⟨head, isHead, id, fits⟩ := answers
  obtain ⟨rest, inFlight⟩ : ∃ rest, link.inFlight = head :: rest := List.head?_eq_some_iff.mp isHead
  obtain ⟨pending, owner⟩ := sound.oldest inFlight
  have inside := sound.inside head.method
  have newest : link.AnswersNewest (.respond message) ↔ waiting rest head.method = [] := by
    rw [waiting_eq_nil_iff]
    unfold AnswersNewest
    rw [inFlight]
    simp
  have taken : link.step (.respond message) = .ok (.handled (.ok ()),
      ⟨⟨List.set link.client.states (link.client.requests head.method).promise.state
        (some (outcomeOf message.rpcPayload)), link.client.requests⟩, link.rpc, rest⟩) := by
    unfold step
    dsimp only
    rw [if_pos given, invokeHandler_pending (sound.handlers head.method) id fits pending, inFlight]
    rfl
  refine ⟨_, taken, fun isNewest => sound.answered inFlight (newest.mp isNewest) _, ?_⟩
  rw [newest, ← owner]
  constructor
  · intro owned
    obtain ⟨⟨head', isHead', own⟩, -⟩ := owned.own (link.client.requests head.method).promise.state
      (outcomeOf message.rpcPayload) (Promise.resultOf_of_pending pending)
      (by rw [Promise.resultOf_set inside, if_pos rfl])
    cases Option.some.inj (isHead.symm.trans isHead')
    exact own
  · intro own
    refine ⟨fun future settled ready => ?_, fun future settled before after => ?_, fun result same => ?_⟩
    · dsimp only
      rw [Promise.resultOf_set inside]
      by_cases here : future = (link.client.requests head.method).promise.state
      · rw [here, Promise.resultOf_of_pending pending] at ready
        cases ready
      · rw [if_neg here]
        exact ready
    · dsimp only at after ⊢
      rw [Promise.resultOf_set inside] at after
      split_ifs at after with here
      · exact ⟨⟨head, isHead, own.trans here.symm⟩, (Option.some.inj after).symm⟩
      · cases before.symm.trans after
    · cases same
      rfl

theorem Sound.stepped (sound : link.Sound) {event : StateEvent} {output : StateOutput} {link' : StateLink}
    (taken : link.step event = .ok (output, link')) :
    (link.AnswersNewest event → link'.Sound) ∧
      (link.Owned event output link' ↔ link.AnswersNewest event) := by
  cases event with
  | setState state =>
    obtain ⟨future, after, sends, kept, once, own⟩ := sound.sent .setState (state.serialize [])
    cases sends.symm.trans taken
    exact ⟨fun _ => kept, iff_of_true ⟨once, own, fun _ same => by cases same⟩ trivial⟩
  | getInitialMachineStateTransitionResult =>
    obtain ⟨future, after, sends, kept, once, own⟩ := sound.sent .stateTransition []
    cases sends.symm.trans taken
    exact ⟨fun _ => kept, iff_of_true ⟨once, own, fun _ same => by cases same⟩ trivial⟩
  | respond message =>
    by_cases answers : link.Answers message
    · obtain ⟨after, responds, kept, owned⟩ := sound.responded answers
      cases responds.symm.trans taken
      exact ⟨kept, owned⟩
    · unfold step at taken
      dsimp only at taken
      rw [if_neg answers] at taken
      cases taken

/-- The step that was taken keeps the futures to their own requests. -/
def OwnedStep (taken : Taken StateLink StateEvent StateOutput) : Prop :=
  ∀ after, taken.before.step taken.input = .ok (taken.output, after) →
    taken.before.Owned taken.input taken.output after

/-- For every interleaving of calls and responses: the futures belong to their own requests, and no response
makes its handler throw, exactly when every response answers the newest request of its method. -/
theorem futuresOwned_iff (protocolVersion interfaceVersion : UInt8)
    {trace : List (Taken StateLink StateEvent StateOutput)} {link : StateLink}
    (run : Run step (start protocolVersion interfaceVersion) trace link) :
    (∀ taken ∈ trace, OwnedStep taken) ↔ Run.Every AnswersNewest trace := by
  apply Run.all_iff_allowed (start_sound protocolVersion interfaceVersion) ?_ ?_ run
  · intro state event output state' sound newest taken
    exact (sound.stepped taken).1 newest
  · intro state event output state' sound taken
    rw [← (sound.stepped taken).2]
    exact Run.forall_after_iff taken

/-- The answer of a server to `SetState` and to `GetInitialMachineStateTransitionResult`. -/
def reply (method : StateMethod) (rpcPayload : Bytes) : StateEvent :=
  .respond ⟨⟨messageIdOf StateClient.cServiceId (StateClient.methodId method), StateClient.cClientId, 1, 1, 1,
    .response, .eOK⟩, rpcPayload⟩

/-- Both methods are called, answered in turn, and one is called again. -/
theorem futuresOwned_sample : ∃ trace link,
    Run.play step [] (start 1 1) [.setState ⟨[77], [79, 110]⟩, .getInitialMachineStateTransitionResult,
        reply .setState [0, 0, 0, 9], reply .stateTransition [], .setState ⟨[77], [79, 102, 102]⟩] =
        .ok (trace, link) ∧
      (∀ taken ∈ trace, OwnedStep taken) ∧
      link.client.states = [some (.exception .invalidTransition), some .value, none] := by
  obtain ⟨trace, link, played, every, states⟩ : ∃ trace link,
      Run.play step [] (start 1 1) [.setState ⟨[77], [79, 110]⟩, .getInitialMachineStateTransitionResult,
          reply .setState [0, 0, 0, 9], reply .stateTransition [], .setState ⟨[77], [79, 102, 102]⟩] =
          .ok (trace, link) ∧
        Run.Every AnswersNewest trace ∧
        link.client.states = [some (.exception .invalidTransition), some .value, none] :=
    ⟨_, _, rfl, by decide, by decide⟩
  exact ⟨trace, link, played, (futuresOwned_iff 1 1 (Run.of_play .start played)).mpr every, states⟩

/-- `SetState` is called twice before the first response: that response settles the second future, and the
second response makes the handler throw. -/
theorem not_always_futuresOwned : ∃ trace link,
    Run.play step [] (start 1 1) [.setState ⟨[77], [79, 110]⟩, .setState ⟨[77], [79, 102, 102]⟩,
        reply .setState [], reply .setState [0, 0, 0, 9]] = .ok (trace, link) ∧
      trace.map Taken.output =
        [.handled (.error (.thrown (.futureError "std::future_error: Promise already satisfied"))),
          .handled (.ok ()), .returned 2, .returned 0] ∧
      ¬ ∀ taken ∈ trace, OwnedStep taken := by
  refine ⟨_, _, rfl, rfl, fun all => ?_⟩
  have owned := all _ List.mem_cons_self _ rfl
  cases owned.returns _ rfl

end StateLink
end AdaptiveAutosar.Exec
