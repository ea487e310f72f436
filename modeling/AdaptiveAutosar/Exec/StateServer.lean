import AdaptiveAutosar.Com.Rpc.Server
import AdaptiveAutosar.Exec.FunctionGroupState
import AdaptiveAutosar.Exec.Reply
import AdaptiveAutosar.Foundations.OrderedMap

/-! # The state server

`ara::exec::StateServer` with the triggers of its notifiers. The callback of a notifier is a number, and the
server records the callbacks it has called.
-/

namespace AdaptiveAutosar.Exec
open Foundations Com BigEndian
set_option autoImplicit false

/-- `ara::sm::Trigger<std::string>`: `mState` refers to the entry of a map. -/
structure Trigger where
  entry : Bytes
  handler : ℕ
  deriving DecidableEq, Repr

/-- `functionGroupStates` is a set in its order; `fired` are the callbacks called so far. -/
structure StateServer where
  functionGroupStates : List (Bytes × Bytes)
  currentStates : OrderedMap Bytes Bytes
  notifiers : OrderedMap Bytes Trigger
  initialized : Bool
  fired : List ℕ

/-- `Write`. -/
def Trigger.write (trigger : Trigger) (state : Bytes) (server : StateServer) : StateServer :=
  { server with
    currentStates := server.currentStates.insert trigger.entry state
    fired := server.fired ++ [trigger.handler] }

namespace StateServer

def cServiceId : UInt16 := 3
def cSetStateId : UInt16 := 1
def cStateTransitionId : UInt16 := 2

/-- The constructor. -/
def make (functionGroupStates : List (Bytes × Bytes)) (initialStates : OrderedMap Bytes Bytes) :
    Outcome StateServer :=
  match initialStates.entries.find? (fun currentState => currentState ∉ functionGroupStates) with
  | some currentState =>
    .error (.thrown (.invalidArgument ("State: " ++ textOf currentState.2 ++ " of function group: " ++
      textOf currentState.1 ++ " is not defined.")))
  | none =>
    match functionGroupStates.find? (fun functionGroupState =>
      (initialStates.find? functionGroupState.1).isNone) with
    | some functionGroupState =>
      .error (.thrown (.logicError ("Function group: " ++ textOf functionGroupState.1 ++
        " does not have initial state.")))
    | none => .ok ⟨functionGroupStates, initialStates, .empty, false, []⟩

def injectErrorCode (payload : Bytes) (errorCode : ExecErrc) : Bytes :=
  injectInteger payload errorCode.code.toUInt32

def notify (server : StateServer) (functionGroup state : Bytes) : StateServer :=
  match server.notifiers.find? functionGroup with
  | some trigger => trigger.write state server
  | none => server

def cMinimumPayloadLength : ℕ := 8

/-- The function group and the state of a request, unless one of the three length checks fails. -/
def extractNames (rpcRequestPayload : Bytes) : Outcome (Option (Bytes × Bytes)) :=
  if rpcRequestPayload.length < cMinimumPayloadLength then .ok none
  else do
    let (functionGroupLength, beginOffset) ← extractInteger rpcRequestPayload 0
    if rpcRequestPayload.length < beginOffset + functionGroupLength.toNat + 4 then .ok none
    else do
      let (functionGroup, beginOffset) ← Cursor.span functionGroupLength.toNat rpcRequestPayload beginOffset
      let (stateLength, beginOffset) ← extractInteger rpcRequestPayload beginOffset
      if rpcRequestPayload.length < beginOffset + stateLength.toNat then .ok none
      else do
        let (state, _) ← Cursor.span stateLength.toNat rpcRequestPayload beginOffset
        .ok (some (functionGroup, state))

/-- The answer `false` with an error code. -/
def refuse (errorCode : ExecErrc) (server : StateServer) : Outcome (Bool × Bytes) × StateServer :=
  (.ok (false, injectErrorCode [] errorCode), server)

/-- `locks`: the lock of the current states is free. -/
def handleSetState (locks : Bool) : RpcHandler StateServer := fun rpcRequestPayload server =>
  match extractNames rpcRequestPayload with
  | .error e => (.error e, server)
  | .ok none => refuse .invalidArguments server
  | .ok (some (functionGroup, state)) =>
    if (functionGroup, state) ∉ server.functionGroupStates then refuse .invalidTransition server
    else if locks = false then refuse .generalError server
    else
      match server.currentStates.find? functionGroup with
      | none => refuse .invalidTransition server
      | some currentState =>
        if currentState = state then refuse .alreadyInState server
        else
          (.ok (true, []),
            { server with currentStates := server.currentStates.insert functionGroup state }.notify
              functionGroup state)

def handleStateTransition : RpcHandler StateServer := fun rpcRequestPayload server =>
  if rpcRequestPayload ≠ [] then refuse .invalidArguments server
  else if server.initialized then refuse .failed server
  else (.ok (true, []), { server with initialized := true })

/-- `TryGetState`. -/
def tryGetState (locks : Bool) (functionGroup : Bytes) (server : StateServer) : Option Bytes :=
  if locks then server.currentStates.find? functionGroup else none

def setNotifier (functionGroup : Bytes) (callback : ℕ) (server : StateServer) : Outcome StateServer :=
  match server.currentStates.find? functionGroup with
  | some _ => .ok { server with notifiers := server.notifiers.insert functionGroup ⟨functionGroup, callback⟩ }
  | none => .error (.thrown (.outOfRange "map::at"))

/-- The RPC server with the handlers that the constructor sets. -/
def rpcServer (protocolVersion interfaceVersion : UInt8) : RpcServer StateServer :=
  (RpcServer.setHandler ⟨protocolVersion, interfaceVersion, [], fun _ => none⟩ cServiceId cSetStateId
    (handleSetState true)).setHandler cServiceId cStateTransitionId handleStateTransition

/-! ## What a payload decodes to -/

theorem extractNames_behind {word : UInt32} {functionGroup : Bytes}
    (group_length : functionGroup.length = word.toNat) (word' : UInt32) (behind : Bytes) :
    extractNames (bytes32 word ++ functionGroup ++ bytes32 word' ++ behind) =
      if behind.length < word'.toNat then .ok none
      else .ok (some (functionGroup, behind.take word'.toNat)) := by
  have ahead : (bytes32 word ++ functionGroup ++ bytes32 word').length = 4 + word.toNat + 4 := by
    rw [List.length_append, List.length_append, bytes32_length, bytes32_length, group_length]
  have group_word : extractInteger (bytes32 word ++ functionGroup ++ bytes32 word' ++ behind) 0 =
      .ok (word, 4) :=
    (extractInteger_bytes32 word).at ⟨[], _, by rw [List.append_assoc, List.append_assoc]; rfl, rfl⟩
  have group : Cursor.span word.toNat (bytes32 word ++ functionGroup ++ bytes32 word' ++ behind) 4 =
      .ok (functionGroup, 4 + word.toNat) := by
    rw [← group_length]
    exact (Cursor.Yields.span functionGroup).at ⟨bytes32 word, _, List.append_assoc _ _ _, rfl⟩
  have state_word : extractInteger (bytes32 word ++ functionGroup ++ bytes32 word' ++ behind) (4 + word.toNat) =
      .ok (word', 4 + word.toNat + 4) :=
    (extractInteger_bytes32 word').at ⟨_, behind, rfl, by rw [List.length_append, bytes32_length, group_length]⟩
  unfold extractNames cMinimumPayloadLength
  rw [List.length_append, ahead, if_neg (by omega), group_word]
  simp only [bind, Except.bind]
  rw [if_neg (by omega), group]
  simp only [state_word]
  by_cases cut : behind.length < word'.toNat
  · rw [if_pos cut, if_pos (by omega)]
  · have state : Cursor.span word'.toNat (bytes32 word ++ functionGroup ++ bytes32 word' ++ behind)
        (4 + word.toNat + 4) = .ok (behind.take word'.toNat, 4 + word.toNat + 4 + word'.toNat) := by
      unfold Cursor.span
      rw [List.length_append, ahead, if_pos (by omega), ← ahead, List.drop_left]
    rw [if_neg cut, if_neg (by omega), state]

/-- A payload is refused, or has a second length behind a function group. -/
theorem extractNames_cases (payload : Bytes) :
    extractNames payload = .ok none ∨ ∃ word functionGroup word' behind,
      payload = bytes32 word ++ functionGroup ++ bytes32 word' ++ behind ∧ functionGroup.length = word.toNat := by
  by_cases few : payload.length < 8
  · left
    unfold extractNames cMinimumPayloadLength
    rw [if_pos few]
  · obtain ⟨word, rest, rfl⟩ := exists_integer (by omega : 4 ≤ payload.length)
    by_cases cut : (bytes32 word ++ rest).length < 4 + word.toNat + 4
    · left
      have group_word : extractInteger (bytes32 word ++ rest) 0 = .ok (word, 4) :=
        (extractInteger_bytes32 word).at ⟨[], _, rfl, rfl⟩
      unfold extractNames cMinimumPayloadLength
      rw [if_neg few, group_word]
      dsimp only [bind, Except.bind]
      rw [if_pos cut]
    · right
      rw [List.length_append, bytes32_length] at cut
      have state_word : 4 ≤ (rest.drop word.toNat).length := by
        rw [List.length_drop]
        omega
      obtain ⟨word', behind, split⟩ := exists_integer state_word
      refine ⟨word, rest.take word.toNat, word', behind, ?_, ?_⟩
      · rw [List.append_assoc, ← split, List.append_assoc, List.take_append_drop]
      · rw [List.length_take]
        omega

theorem exists_extractNames (payload : Bytes) : ∃ names, extractNames payload = .ok names := by
  rcases extractNames_cases payload with refused | ⟨word, functionGroup, word', behind, rfl, group_length⟩
  · exact ⟨none, refused⟩
  · rw [extractNames_behind group_length]
    split_ifs
    · exact ⟨none, rfl⟩
    · exact ⟨_, rfl⟩

/-- It accepts what begins with two names whose lengths fit their fields. -/
theorem extractNames_eq_some_iff (payload : Bytes) (names : FunctionGroupState) :
    extractNames payload = .ok (some (names.functionGroup, names.stateMetaModel)) ↔
      names.functionGroup.length < 2 ^ 32 ∧ names.stateMetaModel.length < 2 ^ 32 ∧
        names.serialize [] <+: payload := by
  constructor
  · intro accepted
    rcases extractNames_cases payload with refused | ⟨word, functionGroup, word', behind, rfl, group_length⟩
    · cases refused.symm.trans accepted
    · rw [extractNames_behind group_length] at accepted
      split_ifs at accepted with cut
      · cases accepted
      · obtain ⟨isGroup, isState⟩ := Prod.mk.inj (Option.some.inj (Except.ok.inj accepted))
        have state_length : names.stateMetaModel.length = word'.toNat := by
          rw [← isState, List.length_take]
          omega
        rw [← isGroup, state_length, group_length]
        refine ⟨word.toNat_lt, word'.toNat_lt, behind.drop word'.toNat, ?_⟩
        unfold FunctionGroupState.serialize injectString injectInteger
        rw [← isGroup, state_length, group_length, ← isState, UInt32.ofNat_toNat, UInt32.ofNat_toNat,
          List.nil_append, List.append_assoc _ (behind.take _), List.take_append_drop]
  · intro given
    obtain ⟨group_fits, state_fits, rest, rfl⟩ := given
    have group_length : names.functionGroup.length = (UInt32.ofNat names.functionGroup.length).toNat :=
      (UInt32.toNat_ofNat_of_lt' group_fits).symm
    have state_length : (UInt32.ofNat names.stateMetaModel.length).toNat = names.stateMetaModel.length :=
      UInt32.toNat_ofNat_of_lt' state_fits
    unfold FunctionGroupState.serialize injectString injectInteger
    rw [List.nil_append, List.append_assoc _ names.stateMetaModel, extractNames_behind group_length, state_length,
      List.take_left, if_neg (by rw [List.length_append]; omega)]

theorem extractNames_serialize_iff (names : FunctionGroupState) :
    extractNames (names.serialize []) = .ok (some (names.functionGroup, names.stateMetaModel)) ↔
      names.functionGroup.length < 2 ^ 32 ∧ names.stateMetaModel.length < 2 ^ 32 := by
  rw [extractNames_eq_some_iff]
  constructor
  · exact fun fits => ⟨fits.1, fits.2.1⟩
  · exact fun fits => ⟨fits.1, fits.2, List.prefix_rfl⟩

end StateServer
end AdaptiveAutosar.Exec
