import AdaptiveAutosar.Exec.StateServer
import AdaptiveAutosar.Foundations.Transition

/-! # Runs of the state server

Any requests with any payloads, and notifiers set between them, on a server that its constructor accepts.
-/

namespace AdaptiveAutosar.Exec
open Foundations Com
set_option autoImplicit false

inductive StateServerEvent where
  | setState (rpcRequestPayload : Bytes)
  | stateTransition (rpcRequestPayload : Bytes)
  | setNotifier (functionGroup : Bytes) (callback : ℕ)
  deriving DecidableEq, Repr

inductive StateServerOutput where
  | answered (answer : Outcome (Bool × Bytes))
  | attached

namespace StateServer

/-- `SetNotifier` throws for an unknown function group. -/
def step (server : StateServer) : StateServerEvent → Except Unit (StateServerOutput × StateServer)
  | .setState rpcRequestPayload =>
    let (answer, server') := handleSetState true rpcRequestPayload server
    .ok (.answered answer, server')
  | .stateTransition rpcRequestPayload =>
    let (answer, server') := handleStateTransition rpcRequestPayload server
    .ok (.answered answer, server')
  | .setNotifier functionGroup callback =>
    match server.setNotifier functionGroup callback with
    | .ok server' => .ok (.attached, server')
    | .error _ => .error ()

/-! ## What the server should do -/

/-- The current states are declared, one for each declared function group. -/
structure Declared (server : StateServer) (functionGroupStates : List (Bytes × Bytes)) : Prop where
  only : ∀ functionGroup state, server.currentStates.find? functionGroup = some state →
    (functionGroup, state) ∈ functionGroupStates
  every : ∀ functionGroup state, (functionGroup, state) ∈ functionGroupStates →
    ∃ current, server.currentStates.find? functionGroup = some current

/-- The payload decodes to a declared pair whose state is not the current one of its function group. -/
def Changes (server : StateServer) (rpcRequestPayload functionGroup state : Bytes) : Prop :=
  extractNames rpcRequestPayload = .ok (some (functionGroup, state)) ∧
    (functionGroup, state) ∈ server.functionGroupStates ∧ server.currentStates.find? functionGroup ≠ some state

/-- The request is answered with an error code, and nothing changes. -/
def Refused (before : StateServer) (output : StateServerOutput) (after : StateServer) : Prop :=
  (∃ errorCode, output = .answered (.ok (false, injectErrorCode [] errorCode))) ∧ after = before

/-- The change is made, and the notifier of the function group is called once. -/
structure Changed (before : StateServer) (functionGroup state : Bytes) (output : StateServerOutput)
    (after : StateServer) : Prop where
  answers : output = .answered (.ok (true, []))
  sets : ∀ other, after.currentStates.find? other =
    if other = functionGroup then some state else before.currentStates.find? other
  keeps : after.initialized = before.initialized
  fires : after.fired = before.fired ++ ((before.notifiers.find? functionGroup).map Trigger.handler).toList

/-- A `SetState` that asks for a change makes that change; the first empty `StateTransition` succeeds; every
other request is refused. -/
def Serves (before : StateServer) (event : StateServerEvent) (output : StateServerOutput) (after : StateServer) :
    Prop :=
  match event with
  | .setState rpcRequestPayload =>
    (∀ functionGroup state, before.Changes rpcRequestPayload functionGroup state →
        before.Changed functionGroup state output after) ∧
      ((¬ ∃ functionGroup state, before.Changes rpcRequestPayload functionGroup state) →
        before.Refused output after)
  | .stateTransition rpcRequestPayload =>
    if rpcRequestPayload = [] ∧ before.initialized = false then
      output = .answered (.ok (true, [])) ∧ after = { before with initialized := true }
    else before.Refused output after
  | .setNotifier functionGroup callback =>
    after = { before with notifiers := before.notifiers.insert functionGroup ⟨functionGroup, callback⟩ }

def ServingStep (taken : Taken StateServer StateServerEvent StateServerOutput) : Prop :=
  ∀ after, taken.before.step taken.input = .ok (taken.output, after) →
    taken.before.Serves taken.input taken.output after

/-- A `StateTransition` that succeeds. -/
def succeeds (taken : Taken StateServer StateServerEvent StateServerOutput) : Bool :=
  match taken.input, taken.output with
  | .stateTransition _, .answered (.ok (handled, _)) => handled
  | _, _ => false

/-! ## What holds before every step -/

/-- The trigger of a function group refers to the entry of that function group. -/
structure Sound (functionGroupStates : List (Bytes × Bytes)) (server : StateServer) : Prop where
  same : server.functionGroupStates = functionGroupStates
  declared : server.Declared functionGroupStates
  own : ∀ functionGroup trigger, server.notifiers.find? functionGroup = some trigger →
    trigger.entry = functionGroup

variable {functionGroupStates : List (Bytes × Bytes)} {initialStates : OrderedMap Bytes Bytes}
  {server server' : StateServer} {output : StateServerOutput}

/-- What the constructor accepts is declared. -/
theorem make_sound (made : make functionGroupStates initialStates = .ok server) :
    server.Sound functionGroupStates ∧ server.initialized = false := by
  unfold make at made
  split at made
  · cases made
  · rename_i defined
    split at made
    · cases made
    · rename_i complete
      cases made
      refine ⟨⟨rfl, ⟨?_, ?_⟩, fun _ _ none_yet => by cases none_yet⟩, rfl⟩
      · intro functionGroup state current
        have there := (initialStates.mem_entries_iff functionGroup state).mpr current
        by_contra outside
        exact List.find?_eq_none.mp defined _ there (decide_eq_true outside)
      · intro functionGroup state there
        have isNone := List.find?_eq_none.mp complete _ there
        exact Option.ne_none_iff_exists'.mp (by simpa using isNone)

theorem notify_eq (server : StateServer) {functionGroup state : Bytes}
    (current : server.currentStates.find? functionGroup = some state)
    (own : ∀ trigger, server.notifiers.find? functionGroup = some trigger → trigger.entry = functionGroup) :
    server.notify functionGroup state = { server with
      fired := server.fired ++ ((server.notifiers.find? functionGroup).map Trigger.handler).toList } := by
  unfold notify
  cases attached : server.notifiers.find? functionGroup with
  | none => simp
  | some trigger =>
    unfold Trigger.write
    dsimp only
    rw [own trigger attached, server.currentStates.insert_of_find? current]
    rfl

theorem Sound.setState_changes (sound : server.Sound functionGroupStates)
    {rpcRequestPayload functionGroup state : Bytes} (asked : server.Changes rpcRequestPayload functionGroup state) :
    handleSetState true rpcRequestPayload server = (.ok (true, []),
      { server with
        currentStates := server.currentStates.insert functionGroup state
        fired := server.fired ++ ((server.notifiers.find? functionGroup).map Trigger.handler).toList }) := by
  obtain ⟨decoded, there, differs⟩ := asked
  obtain ⟨current, isCurrent⟩ := sound.declared.every functionGroup state (sound.same ▸ there)
  have fresh : current ≠ state := by
    intro same
    exact differs (same ▸ isCurrent)
  unfold handleSetState
  rw [decoded]
  dsimp only
  rw [if_neg (not_not.mpr there), if_neg (by decide), isCurrent]
  dsimp only
  have set_already : (server.currentStates.insert functionGroup state).find? functionGroup = some state := by
    rw [OrderedMap.find?_insert, if_pos rfl]
  rw [if_neg fresh,
    notify_eq { server with currentStates := server.currentStates.insert functionGroup state } set_already
      (sound.own functionGroup)]

theorem setState_refused {rpcRequestPayload : Bytes}
    (other : ¬ ∃ functionGroup state, server.Changes rpcRequestPayload functionGroup state) :
    ∃ errorCode, handleSetState true rpcRequestPayload server = refuse errorCode server := by
  obtain ⟨names, decoded⟩ := exists_extractNames rpcRequestPayload
  unfold handleSetState
  rw [decoded]
  cases names with
  | none => exact ⟨_, rfl⟩
  | some names =>
    obtain ⟨functionGroup, state⟩ := names
    dsimp only
    by_cases there : (functionGroup, state) ∈ server.functionGroupStates
    · rw [if_neg (not_not.mpr there), if_neg (by decide)]
      cases isCurrent : server.currentStates.find? functionGroup with
      | none => exact ⟨_, rfl⟩
      | some current =>
        by_cases same : current = state
        · dsimp only
          rw [if_pos same]
          exact ⟨_, rfl⟩
        · refine absurd ⟨functionGroup, state, decoded, there, ?_⟩ other
          rw [isCurrent]
          exact fun equal => same (Option.some.inj equal)
    · rw [if_pos there]
      exact ⟨_, rfl⟩

theorem Sound.setState (sound : server.Sound functionGroupStates) {rpcRequestPayload : Bytes}
    (taken : server.step (.setState rpcRequestPayload) = .ok (output, server')) :
    server'.Sound functionGroupStates ∧ server.Serves (.setState rpcRequestPayload) output server' := by
  unfold step at taken
  dsimp only at taken
  by_cases asked : ∃ functionGroup state, server.Changes rpcRequestPayload functionGroup state
  · obtain ⟨functionGroup, state, change⟩ := asked
    rw [sound.setState_changes change] at taken
    cases taken
    have after : ∀ other, (server.currentStates.insert functionGroup state).find? other =
        if other = functionGroup then some state else server.currentStates.find? other := by
      intro other
      rw [OrderedMap.find?_insert]
      split_ifs <;> rfl
    refine ⟨⟨sound.same, ⟨?_, ?_⟩, sound.own⟩, ?_, fun unasked => absurd ⟨_, _, change⟩ unasked⟩
    · intro other current isCurrent
      rw [after] at isCurrent
      split_ifs at isCurrent with here
      · rw [here, ← Option.some.inj isCurrent, ← sound.same]
        exact change.2.1
      · exact sound.declared.only other current isCurrent
    · intro other declared there
      rw [after]
      split_ifs
      · exact ⟨state, rfl⟩
      · exact sound.declared.every other declared there
    · intro functionGroup' state' change'
      cases change.1.symm.trans change'.1
      exact ⟨rfl, after, rfl, rfl⟩
  · obtain ⟨errorCode, refused⟩ := setState_refused asked
    rw [refused] at taken
    cases taken
    exact ⟨sound, fun _ _ change => absurd ⟨_, _, change⟩ asked, fun _ => ⟨⟨errorCode, rfl⟩, rfl⟩⟩

theorem Sound.stateTransition (sound : server.Sound functionGroupStates) {rpcRequestPayload : Bytes}
    (taken : server.step (.stateTransition rpcRequestPayload) = .ok (output, server')) :
    server'.Sound functionGroupStates ∧ server.Serves (.stateTransition rpcRequestPayload) output server' := by
  unfold step handleStateTransition at taken
  unfold Serves
  dsimp only at taken ⊢
  by_cases empty : rpcRequestPayload = []
  · rw [if_neg (not_not.mpr empty)] at taken
    cases initialized : server.initialized with
    | true =>
      rw [if_pos initialized] at taken
      cases taken
      rw [if_neg fun both => by cases both.2]
      exact ⟨sound, ⟨_, rfl⟩, rfl⟩
    | false =>
      rw [if_neg (by rw [initialized]; decide)] at taken
      cases taken
      rw [if_pos ⟨empty, rfl⟩]
      exact ⟨⟨sound.same, ⟨sound.declared.only, sound.declared.every⟩, sound.own⟩, rfl, rfl⟩
  · rw [if_pos empty] at taken
    cases taken
    rw [if_neg fun both => empty both.1]
    exact ⟨sound, ⟨_, rfl⟩, rfl⟩

theorem Sound.setNotifier (sound : server.Sound functionGroupStates) {functionGroup : Bytes} {callback : ℕ}
    (taken : server.step (.setNotifier functionGroup callback) = .ok (output, server')) :
    server'.Sound functionGroupStates ∧
      server.Serves (.setNotifier functionGroup callback) output server' := by
  unfold step StateServer.setNotifier at taken
  dsimp only at taken
  cases known : server.currentStates.find? functionGroup with
  | none =>
    rw [known] at taken
    cases taken
  | some current =>
    rw [known] at taken
    cases taken
    refine ⟨⟨sound.same, ⟨sound.declared.only, sound.declared.every⟩, ?_⟩, rfl⟩
    intro other trigger attached
    rw [OrderedMap.find?_insert] at attached
    split_ifs at attached with here
    · cases attached
      exact here.symm
    · exact sound.own other trigger attached

theorem Sound.stepped (sound : server.Sound functionGroupStates) {event : StateServerEvent}
    (taken : server.step event = .ok (output, server')) :
    server'.Sound functionGroupStates ∧ server.Serves event output server' := by
  cases event with
  | setState rpcRequestPayload => exact sound.setState taken
  | stateTransition rpcRequestPayload => exact sound.stateTransition taken
  | setNotifier functionGroup callback => exact sound.setNotifier taken

/-- The first empty `StateTransition` succeeds and is remembered. -/
theorem Serves.transition {event : StateServerEvent} (serves : server.Serves event output server') :
    (server'.initialized = true ↔ event = .stateTransition [] ∨ server.initialized = true) ∧
      (succeeds ⟨server, event, output⟩ = true ↔ event = .stateTransition [] ∧ server.initialized = false) := by
  cases event with
  | setState rpcRequestPayload =>
    have same : server'.initialized = server.initialized := by
      by_cases asked : ∃ functionGroup state, server.Changes rpcRequestPayload functionGroup state
      · obtain ⟨functionGroup, state, change⟩ := asked
        exact (serves.1 functionGroup state change).keeps
      · rw [(serves.2 asked).2]
    rw [same]
    simp [succeeds]
  | stateTransition rpcRequestPayload =>
    unfold Serves at serves
    dsimp only at serves
    split_ifs at serves with first
    · obtain ⟨rfl, rfl⟩ := serves
      simp [succeeds, first]
    · obtain ⟨⟨errorCode, rfl⟩, rfl⟩ := serves
      simp only [succeeds, StateServerEvent.stateTransition.injEq]
      grind
  | setNotifier functionGroup callback =>
    have same : server' = _ := serves
    rw [same]
    simp [succeeds]

/-- After every run the server is sound, and the initial transition has succeeded once if it was asked for at
all. -/
theorem Sound.history (sound : server.Sound functionGroupStates) (fresh : server.initialized = false)
    {trace : List (Taken StateServer StateServerEvent StateServerOutput)} {last : StateServer}
    (run : Run step server trace last) :
    last.Sound functionGroupStates ∧ (∀ taken ∈ trace, ServingStep taken) ∧
      (last.initialized = true ↔ .stateTransition [] ∈ trace.map Taken.input) ∧
      trace.countP succeeds = if last.initialized then 1 else 0 := by
  induction run with
  | start => exact ⟨sound, fun _ none_yet => (by cases none_yet), by simp [fresh], by simp [fresh]⟩
  | @next trace before after event output _ taken ih =>
    obtain ⟨before_sound, earlier, initialized, count⟩ := ih
    obtain ⟨after_sound, serves⟩ := before_sound.stepped taken
    obtain ⟨remembered, first⟩ := serves.transition
    refine ⟨after_sound, List.forall_mem_cons.mpr ⟨?_, earlier⟩, ?_, ?_⟩
    · exact (Run.forall_after_iff taken).mpr serves
    · rw [remembered, initialized, List.map_cons, List.mem_cons, eq_comm]
    · rw [List.countP_cons, count]
      grind

/-- Over the RPC server a request of one of the two methods is answered with `kOK` or `kNotOk`, as its handler
says, and with the payload of its handler. -/
theorem rpcServer_answers {protocolVersion interfaceVersion : UInt8} {request : SomeIpRpcMessage}
    (fits : request.Fits) (valid : (rpcServer protocolVersion interfaceVersion).validate request = .eOK)
    {methodId : UInt16} {handler : RpcHandler StateServer}
    (method : methodId = cSetStateId ∧ handler = handleSetState true ∨
      methodId = cStateTransitionId ∧ handler = handleStateTransition)
    (id : request.messageId = (cServiceId.toUInt32 <<< 16) ||| methodId.toUInt32)
    {handled : Bool} {rpcResponsePayload : Bytes}
    (answer : handler request.rpcPayload server = (.ok (handled, rpcResponsePayload), server'))
    (responsePayload : Bytes) :
    (rpcServer protocolVersion interfaceVersion).tryInvokeHandler request.payload responsePayload server =
      ⟨.ok true, ((rpcServer protocolVersion interfaceVersion).responseTo request handled
          rpcResponsePayload).payload, server',
        [⟨request.messageId, request.rpcPayload, .ok (handled, rpcResponsePayload)⟩]⟩ := by
  have registered : (rpcServer protocolVersion interfaceVersion).handlers request.messageId = some handler := by
    rw [id]
    rcases method with ⟨rfl, rfl⟩ | ⟨rfl, rfl⟩
    · rfl
    · rfl
  exact RpcServer.tryInvokeHandler_request _ request handler fits valid registered server server' handled
    rpcResponsePayload responsePayload answer

def Restores (names : FunctionGroupState) : Prop :=
  extractNames (names.serialize []) = .ok (some (names.functionGroup, names.stateMetaModel))

/-- For every server that its constructor accepts and every run of requests: the current states are declared
ones, every request is served, the initial transition succeeds once if it is asked for; and decoding undoes
`Serialize` for the names whose lengths fit their 32 bits. -/
theorem servesEveryRequest (made : make functionGroupStates initialStates = .ok server)
    {trace : List (Taken StateServer StateServerEvent StateServerOutput)} {last : StateServer}
    (run : Run step server trace last) :
    last.Declared functionGroupStates ∧ (∀ taken ∈ trace, ServingStep taken) ∧
      (trace.countP succeeds = if .stateTransition [] ∈ trace.map Taken.input then 1 else 0) ∧
      ∀ names, Restores names ↔
        names.functionGroup.length < 2 ^ 32 ∧ names.stateMetaModel.length < 2 ^ 32 := by
  obtain ⟨sound, fresh⟩ := make_sound made
  obtain ⟨last_sound, serves, initialized, count⟩ := sound.history fresh run
  refine ⟨last_sound.declared, serves, ?_, extractNames_serialize_iff⟩
  rw [count]
  by_cases asked : StateServerEvent.stateTransition [] ∈ trace.map Taken.input
  · rw [if_pos asked, if_pos (initialized.mpr asked)]
  · rw [if_neg asked, if_neg fun done => asked (initialized.mp done)]

/-- The machine is off and may be on. -/
def sampleStates : List (Bytes × Bytes) := [([77], [79, 102, 102]), ([77], [79, 110])]

/-- The machine is turned on, asked to turn on again, and asked for a state that is not declared. -/
def sampleEvents : List StateServerEvent :=
  [.stateTransition [], .setNotifier [77] 5, .setState (FunctionGroupState.serialize ⟨[77], [79, 110]⟩ []),
    .setState (FunctionGroupState.serialize ⟨[77], [79, 110]⟩ []),
    .setState (FunctionGroupState.serialize ⟨[77], [80]⟩ []), .stateTransition [], .setState [0, 0, 0, 9]]

theorem servesEveryRequest_sample : ∃ server trace last,
    make sampleStates (.ofList [([77], [79, 102, 102])]) = .ok server ∧
      Run.play step [] server sampleEvents = .ok (trace, last) ∧
      last.Declared sampleStates ∧ (∀ taken ∈ trace, ServingStep taken) ∧
      trace.countP succeeds = 1 ∧ last.fired = [5] := by
  obtain ⟨server, trace, last, made, played, count, fired⟩ : ∃ server trace last,
      make sampleStates (.ofList [([77], [79, 102, 102])]) = .ok server ∧
        Run.play step [] server sampleEvents = .ok (trace, last) ∧
        trace.countP succeeds = 1 ∧ last.fired = [5] :=
    ⟨_, _, _, rfl, rfl, by decide, by decide⟩
  obtain ⟨declared, serves, -, -⟩ := servesEveryRequest made (Run.of_play .start played)
  exact ⟨server, trace, last, made, played, declared, serves, count, fired⟩

/-- A state name of 2^32 bytes is behind a length of 0. -/
theorem not_always_restores : ¬ Restores ⟨[77], List.replicate (2 ^ 32) 79⟩ := by
  unfold Restores
  rw [extractNames_serialize_iff]
  intro fits
  have state_fits := fits.2
  rw [List.length_replicate] at state_fits
  exact Nat.lt_irrefl _ state_fits

end StateServer
end AdaptiveAutosar.Exec
