import AdaptiveAutosar.Com.Rpc.Client
import AdaptiveAutosar.Exec.FunctionGroupState
import AdaptiveAutosar.Exec.Reply
import AdaptiveAutosar.Foundations.Transition

/-! # The execution client and its timeouts

`ara::exec::ExecutionClient`: its future is valid while a report is in progress. A report that times out
returns without taking the result, so that the future stays valid.
-/

namespace AdaptiveAutosar.Exec
open Foundations Com
set_option autoImplicit false

/-- `future` is the shared state of `mFuture`, if that is valid. -/
structure ExecutionClient where
  instanceSpecifier : Bytes
  states : SharedStates ExecErrc
  promise : Promise
  future : Option ℕ
  deriving DecidableEq, Repr

namespace ExecutionClient

def cServiceId : UInt16 := 1
def cMethodId : UInt16 := 1
def cClientId : UInt16 := 2

/-- The constructor, with a positive timeout. -/
def make (instanceSpecifier : Bytes) : ExecutionClient := ⟨instanceSpecifier, [none], ⟨0, false⟩, none⟩

def reportExecutionStateHandler : ResponseHandler ExecutionClient := fun message client =>
  match settle client.promise message.rpcPayload client.states with
  | .ok states => (.ok (), { client with states })
  | .error e => (.error e, client)

/-- The RPC client with the handler that the constructor sets. -/
def rpcClient (protocolVersion interfaceVersion : UInt8) : RpcClient ExecutionClient :=
  (RpcClient.make protocolVersion interfaceVersion).setHandler cServiceId cMethodId reportExecutionStateHandler

/-- `ReportExecutionState` up to the wait: the error it returns, or what it sends. -/
def reportExecutionState (client : ExecutionClient) (state : UInt8) :
    Outcome (Except ExecErrc RpcCall × ExecutionClient) :=
  if client.future.isSome then .ok (.error .failed, client)
  else do
    let (promise, states) := client.promise.renew client.states
    let (future, promise) ← promise.getFuture
    pure (.ok ⟨cServiceId, cMethodId, cClientId, injectString [] client.instanceSpecifier ++ [state]⟩,
      { client with states, promise, future := some future })

/-- `mFuture` is ready. -/
def isReady (client : ExecutionClient) : Bool :=
  (client.future.bind (Promise.resultOf client.states)).isSome

/-- `mFuture.get()`. The exception of a broken promise is not caught. -/
def get (client : ExecutionClient) : Outcome (Except ExecErrc Unit × ExecutionClient) :=
  match client.future.bind (Promise.resultOf client.states) with
  | some .value => .ok (.ok (), { client with future := none })
  | some (.exception error) => .ok (.error error, { client with future := none })
  | _ => .error (.thrown (.futureError "std::future_error: Broken promise"))

end ExecutionClient

/-! ## The client and its server -/

/-- The futures of the requests that are not answered yet, whether a report waits, and how many have timed
out. -/
structure ExecutionLink where
  client : ExecutionClient
  rpc : RpcClient ExecutionClient
  inFlight : List ℕ
  waiting : Bool
  timeouts : ℕ

inductive ExecutionEvent where
  | report (state : UInt8)
  /-- The response to the oldest request arrives. -/
  | respond (message : SomeIpRpcMessage)
  /-- The report that waits finds its future ready. -/
  | wake
  /-- The report that waits has waited for its timeout. -/
  | timeout

inductive ExecutionOutput where
  | sent (request : RpcCall)
  | handled (result : Outcome Unit)
  | returned (result : Except ExecErrc Unit)

namespace ExecutionLink

def start (instanceSpecifier : Bytes) (protocolVersion interfaceVersion : UInt8) : ExecutionLink :=
  ⟨.make instanceSpecifier, ExecutionClient.rpcClient protocolVersion interfaceVersion, [], false, 0⟩

/-- `message` is a response to the oldest request in flight. -/
def Answers (link : ExecutionLink) (message : SomeIpRpcMessage) : Prop :=
  link.inFlight ≠ [] ∧
    message.messageId = messageIdOf ExecutionClient.cServiceId ExecutionClient.cMethodId ∧
    message.rpcPayload.length + 8 < 2 ^ 32

instance (link : ExecutionLink) (message : SomeIpRpcMessage) : Decidable (link.Answers message) :=
  @instDecidableAnd _ _ _ instDecidableAnd

/-- The server answers the requests in their order. -/
def step (link : ExecutionLink) : ExecutionEvent → Except Unit (ExecutionOutput × ExecutionLink)
  | .report state =>
    match link.client.reportExecutionState state with
    | .ok (.error error, client) => .ok (.returned (.error error), { link with client })
    | .ok (.ok call, client) =>
      match link.rpc.send call with
      | .ok (_, rpc) =>
        .ok (.sent call, ⟨client, rpc, link.inFlight ++ client.future.toList, true, link.timeouts⟩)
      | .error _ => .error ()
    | .error _ => .error ()
  | .respond message =>
    if link.Answers message then
      let (result, client, _) := link.rpc.invokeHandler message.payload link.client
      .ok (.handled result, { link with client, inFlight := link.inFlight.tail })
    else .error ()
  | .wake =>
    if link.waiting ∧ link.client.isReady then
      match link.client.get with
      | .ok (result, client) => .ok (.returned result, { link with client, waiting := false })
      | .error _ => .error ()
    else .error ()
  | .timeout =>
    if link.waiting ∧ ¬ link.client.isReady then
      -- `mFuture.get()` is not reached
      .ok (.returned (.error .communicationError),
        { link with waiting := false, timeouts := link.timeouts + 1 })
    else .error ()

/-! ## What reports should do -/

/-- A report that begins while none is in progress is sent. -/
def Sends (before : ExecutionLink) (output : ExecutionOutput) (after : ExecutionLink) : Prop :=
  ∃ request future, output = .sent request ∧ after.waiting = true ∧ after.client.future = some future ∧
    after.inFlight = before.inFlight ++ [future]

/-- A response settles the future of its own request with what it says, and its handler does not throw. -/
def Settles (before : ExecutionLink) (message : SomeIpRpcMessage) (output : ExecutionOutput)
    (after : ExecutionLink) : Prop :=
  output = .handled (.ok ()) ∧ ∀ future, Promise.resultOf after.client.states future =
    if before.inFlight.head? = some future then some (outcomeOf message.rpcPayload)
    else Promise.resultOf before.client.states future

/-- The report that waits returns what its future holds. -/
def Returns (before : ExecutionLink) (output : ExecutionOutput) (after : ExecutionLink) : Prop :=
  ∃ future, before.client.future = some future ∧ after.waiting = false ∧
    ((Promise.resultOf before.client.states future = some .value ∧ output = .returned (.ok ())) ∨
      ∃ error, Promise.resultOf before.client.states future = some (.exception error) ∧
        output = .returned (.error error))

def Expires (output : ExecutionOutput) (after : ExecutionLink) : Prop :=
  output = .returned (.error .communicationError) ∧ after.waiting = false

def Recovers (before : ExecutionLink) (event : ExecutionEvent) (output : ExecutionOutput)
    (after : ExecutionLink) : Prop :=
  match event with
  | .report _ => before.waiting = false → before.Sends output after
  | .respond message => before.Settles message output after
  | .wake => before.Returns output after
  | .timeout => Expires output after

/-- A report that begins while none is in progress begins before any has timed out. -/
def NoneTimedOut (link : ExecutionLink) (event : ExecutionEvent) : Prop :=
  match event with
  | .report _ => link.waiting = true ∨ link.timeouts = 0
  | _ => True

instance (link : ExecutionLink) (event : ExecutionEvent) : Decidable (link.NoneTimedOut event) :=
  match event with
  | .report _ => instDecidableOr
  | .respond _ => .isTrue trivial
  | .wake => .isTrue trivial
  | .timeout => .isTrue trivial

/-! ## What holds before every step -/

/-- As long as no report begins after one that timed out. -/
structure Sound (link : ExecutionLink) : Prop where
  handlers : link.rpc.handlers (messageIdOf ExecutionClient.cServiceId ExecutionClient.cMethodId) =
    some ExecutionClient.reportExecutionStateHandler
  inside : link.client.promise.state < link.client.states.length
  unbroken : Promise.resultOf link.client.states link.client.promise.state ≠ some .brokenPromise
  newest : link.inFlight = [] ∨ link.inFlight = [link.client.promise.state] ∧
    link.client.states[link.client.promise.state]? = some none
  busy : link.waiting = true → link.timeouts = 0 ∧ link.client.future = some link.client.promise.state ∧
    (link.inFlight = [] ↔ link.client.isReady = true)
  idle : link.waiting = false → link.timeouts = 0 → link.client.future = none ∧ link.inFlight = []
  expired : link.waiting = false → 0 < link.timeouts → link.client.future.isSome = true

theorem start_sound (instanceSpecifier : Bytes) (protocolVersion interfaceVersion : UInt8) :
    (start instanceSpecifier protocolVersion interfaceVersion).Sound where
  handlers := rfl
  inside := Nat.one_pos
  unbroken := by rintro ⟨⟩
  newest := .inl rfl
  busy waits := by cases waits
  idle _ _ := ⟨rfl, rfl⟩
  expired _ late := absurd late (Nat.lt_irrefl 0)

variable {link link' : ExecutionLink} {output : ExecutionOutput}

/-- A report that finds no valid future is sent, with a promise of its own. -/
theorem Sound.reported (sound : link.Sound) (state : UInt8) (waiting : link.waiting = false)
    (none_yet : link.timeouts = 0) (taken : link.step (.report state) = .ok (output, link')) :
    link'.Sound ∧ link.Sends output link' := by
  obtain ⟨invalid, quiet⟩ := sound.idle waiting none_yet
  obtain ⟨states, renews⟩ := Promise.exists_renew link.client.promise link.client.states
  unfold step ExecutionClient.reportExecutionState at taken
  rw [invalid, renews] at taken
  simp only [Option.isSome_none, Bool.false_eq_true, if_false, Promise.getFuture_fresh, bind, Except.bind,
    pure, Except.pure] at taken
  obtain ⟨payload, rpc, sends, handlers⟩ := link.rpc.exists_send
    ⟨ExecutionClient.cServiceId, ExecutionClient.cMethodId, ExecutionClient.cClientId,
      injectString [] link.client.instanceSpecifier ++ [state]⟩
  rw [sends] at taken
  cases taken
  have pending : (states ++ [none])[states.length]? = some none := List.getElem?_concat_length
  have silent : Promise.resultOf (states ++ [none]) states.length = none := by
    unfold Promise.resultOf
    rw [pending]
    rfl
  have alone : link.inFlight ++ [states.length] = [states.length] := by rw [quiet, List.nil_append]
  refine ⟨⟨?_, ?_, ?_, ?_, ?_, ?_, ?_⟩, _, _, rfl, rfl, rfl, rfl⟩
  · rw [handlers]
    exact sound.handlers
  · simp
  · dsimp only
    rw [silent]
    exact fun broken => by cases broken
  · exact .inr ⟨alone, pending⟩
  · intro _
    refine ⟨none_yet, rfl, ?_⟩
    simp [ExecutionClient.isReady, silent]
  · exact fun idle => by cases idle
  · exact fun idle => by cases idle

theorem outcomeOf_ne_brokenPromise (rpcPayload : Bytes) : outcomeOf rpcPayload ≠ .brokenPromise := by
  unfold outcomeOf
  split_ifs
  · exact fun same => by cases same
  · split
    · exact fun same => by cases same
    · exact fun same => by cases same

/-- A response settles the future of the only request in flight. -/
theorem Sound.responded (sound : link.Sound) {message : SomeIpRpcMessage}
    (taken : link.step (.respond message) = .ok (output, link')) :
    link'.Sound ∧ link.Settles message output link' := by
  unfold step at taken
  dsimp only at taken
  split_ifs at taken with answers
  obtain ⟨some_wait, id, fits⟩ := answers
  obtain ⟨only, pending⟩ := sound.newest.resolve_left some_wait
  have inside := sound.inside
  have handled : ExecutionClient.reportExecutionStateHandler message link.client = (.ok (),
      { link.client with
        states := List.set link.client.states link.client.promise.state (some (outcomeOf message.rpcPayload)) }) := by
    unfold ExecutionClient.reportExecutionStateHandler
    rw [settle_eq, Promise.set_pending pending]
  rw [RpcClient.invokeHandler_returns fits (id ▸ sound.handlers) handled, only] at taken
  cases taken
  have settled := Promise.resultOf_set inside (outcomeOf message.rpcPayload)
  refine ⟨⟨sound.handlers, ?_, ?_, .inl rfl, ?_, ?_, sound.expired⟩, rfl, ?_⟩
  · rw [List.length_set]
    exact inside
  · dsimp only
    rw [settled, if_pos rfl]
    exact fun broken => outcomeOf_ne_brokenPromise _ (Option.some.inj broken)
  · intro waits
    obtain ⟨noTimeout, future, -⟩ := sound.busy waits
    refine ⟨noTimeout, future, ?_⟩
    simp [ExecutionClient.isReady, future, settled]
  · intro idle noTimeout
    exact absurd ((sound.idle idle noTimeout).2) some_wait
  · intro future
    rw [only, settled, List.head?_cons]
    by_cases here : future = link.client.promise.state
    · rw [if_pos here, if_pos (congrArg some here.symm)]
    · rw [if_neg here, if_neg fun same => here (Option.some.inj same).symm]

/-- A report that finds its result returns it, and leaves no future. -/
theorem Sound.woken (sound : link.Sound) (taken : link.step .wake = .ok (output, link')) :
    link'.Sound ∧ link.Returns output link' := by
  unfold step at taken
  dsimp only at taken
  split_ifs at taken with ready
  obtain ⟨waits, isReady⟩ := ready
  obtain ⟨noTimeout, future, quiet⟩ := sound.busy waits
  have kept : Sound { link with client := { link.client with future := none }, waiting := false } :=
    ⟨sound.handlers, sound.inside, sound.unbroken, sound.newest, fun waits => (by cases waits),
      fun _ _ => ⟨rfl, quiet.mpr isReady⟩, fun _ late => absurd noTimeout (Nat.ne_of_gt late)⟩
  unfold ExecutionClient.get at taken
  rw [future, Option.bind_some] at taken
  rcases holds : Promise.resultOf link.client.states link.client.promise.state with _ | _ | error | _
  · rw [holds] at taken
    cases taken
  · rw [holds] at taken
    cases taken
    exact ⟨kept, _, future, rfl, .inl ⟨holds, rfl⟩⟩
  · rw [holds] at taken
    cases taken
    exact ⟨kept, _, future, rfl, .inr ⟨error, holds, rfl⟩⟩
  · exact absurd holds sound.unbroken

/-- At its timeout a report returns a communication error, and leaves its future valid. -/
theorem Sound.expires (sound : link.Sound) (taken : link.step .timeout = .ok (output, link')) :
    link'.Sound ∧ Expires output link' := by
  unfold step at taken
  dsimp only at taken
  split_ifs at taken with late
  cases taken
  have future := (sound.busy late.1).2.1
  refine ⟨⟨sound.handlers, sound.inside, sound.unbroken, sound.newest, fun waits => (by cases waits),
    fun _ noTimeout => (by cases noTimeout), fun _ _ => ?_⟩, rfl, rfl⟩
  rw [future]
  rfl

theorem Sound.refused (sound : link.Sound) (state : UInt8) (idle : link.waiting = false)
    (late : 0 < link.timeouts) (taken : link.step (.report state) = .ok (output, link')) :
    link' = link ∧ output = .returned (.error .failed) := by
  have valid := sound.expired idle late
  unfold step ExecutionClient.reportExecutionState at taken
  dsimp only at taken
  rw [if_pos valid] at taken
  cases taken
  exact ⟨rfl, rfl⟩

theorem Sound.overlaps (sound : link.Sound) (state : UInt8) (waits : link.waiting = true)
    (taken : link.step (.report state) = .ok (output, link')) : link' = link := by
  have valid : link.client.future.isSome = true := by
    rw [(sound.busy waits).2.1]
    rfl
  unfold step ExecutionClient.reportExecutionState at taken
  dsimp only at taken
  rw [if_pos valid] at taken
  cases taken
  rfl

theorem Sound.stepped (sound : link.Sound) {event : ExecutionEvent}
    (taken : link.step event = .ok (output, link')) :
    link'.Sound ∧ (link.Recovers event output link' ↔ link.NoneTimedOut event) := by
  cases event with
  | report state =>
    rcases Bool.eq_false_or_eq_true link.waiting with waits | idle
    · have same := sound.overlaps state waits taken
      have busy : link.waiting = false → link.Sends output link' := by
        intro idle
        cases waits.symm.trans idle
      exact ⟨same ▸ sound, iff_of_true busy (.inl waits)⟩
    · rcases Nat.eq_zero_or_pos link.timeouts with none_yet | late
      · obtain ⟨kept, sends⟩ := sound.reported state idle none_yet taken
        exact ⟨kept, iff_of_true (fun _ => sends) (.inr none_yet)⟩
      · obtain ⟨same, refused⟩ := sound.refused state idle late taken
        refine ⟨same ▸ sound, iff_of_false ?_ ?_⟩
        · intro recovers
          obtain ⟨request, future, sent, -⟩ := recovers idle
          cases refused.symm.trans sent
        · intro early
          rcases early with waits | none_yet
          · cases idle.symm.trans waits
          · exact Nat.ne_of_gt late none_yet
  | respond message =>
    obtain ⟨kept, settles⟩ := sound.responded taken
    exact ⟨kept, iff_of_true settles trivial⟩
  | wake =>
    obtain ⟨kept, returns⟩ := sound.woken taken
    exact ⟨kept, iff_of_true returns trivial⟩
  | timeout =>
    obtain ⟨kept, expires⟩ := sound.expires taken
    exact ⟨kept, iff_of_true expires trivial⟩

def RecoveringStep (taken : Taken ExecutionLink ExecutionEvent ExecutionOutput) : Prop :=
  ∀ after, taken.before.step taken.input = .ok (taken.output, after) →
    taken.before.Recovers taken.input taken.output after

/-- For every interleaving of reports, timeouts and responses: the client recovers exactly when no report
begins, with none in progress, behind one that timed out. -/
theorem reportsRecover_iff (instanceSpecifier : Bytes) (protocolVersion interfaceVersion : UInt8)
    {trace : List (Taken ExecutionLink ExecutionEvent ExecutionOutput)} {link : ExecutionLink}
    (run : Run step (start instanceSpecifier protocolVersion interfaceVersion) trace link) :
    (∀ taken ∈ trace, RecoveringStep taken) ↔ Run.Every NoneTimedOut trace := by
  apply Run.all_iff_every (start_sound instanceSpecifier protocolVersion interfaceVersion) ?_ ?_ run
  · intro link event output link' sound taken
    exact (sound.stepped taken).1
  · intro link event output link' sound taken
    rw [← (sound.stepped taken).2]
    exact Run.forall_after_iff taken

/-- The answer of a server to `ReportExecutionState`. -/
def reply (rpcPayload : Bytes) : ExecutionEvent :=
  .respond ⟨⟨messageIdOf ExecutionClient.cServiceId ExecutionClient.cMethodId, ExecutionClient.cClientId, 1, 1, 1,
    .response, .eOK⟩, rpcPayload⟩

/-- Two reports are answered, one with an error, and a third times out before its response. -/
theorem reportsRecover_sample : ∃ trace link,
    Run.play step [] (start [97] 1 1) [.report 0, reply [], .wake, .report 1, reply [0, 0, 0, 9], .wake,
        .report 0, .timeout, reply []] = .ok (trace, link) ∧
      (∀ taken ∈ trace, RecoveringStep taken) ∧
      link.client.states =
        [some .brokenPromise, some .value, some (.exception .invalidTransition), some .value] := by
  obtain ⟨trace, link, played, every, states⟩ : ∃ trace link,
      Run.play step [] (start [97] 1 1) [.report 0, reply [], .wake, .report 1, reply [0, 0, 0, 9], .wake,
          .report 0, .timeout, reply []] = .ok (trace, link) ∧
        Run.Every NoneTimedOut trace ∧
        link.client.states =
        [some .brokenPromise, some .value, some (.exception .invalidTransition), some .value] :=
    ⟨_, _, rfl, by decide, by decide⟩
  exact ⟨trace, link, played, (reportsRecover_iff [97] 1 1 (Run.of_play .start played)).mpr every, states⟩

/-- A report times out, its response comes late, and the next report is refused without being sent. -/
theorem not_always_reportsRecover : ∃ trace link,
    Run.play step [] (start [97] 1 1) [.report 0, .timeout, reply [], .report 0] = .ok (trace, link) ∧
      trace.head?.map Taken.output = some (.returned (.error .failed)) ∧
      ¬ ∀ taken ∈ trace, RecoveringStep taken := by
  refine ⟨_, _, rfl, rfl, fun all => ?_⟩
  have recovers := all _ List.mem_cons_self _ rfl
  obtain ⟨request, future, sent, -⟩ := recovers rfl
  cases sent

end ExecutionLink
end AdaptiveAutosar.Exec
