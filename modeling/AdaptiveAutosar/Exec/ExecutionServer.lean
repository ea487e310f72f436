import AdaptiveAutosar.Com.Rpc.Server
import AdaptiveAutosar.Exec.ExecutionClient
import AdaptiveAutosar.Foundations.OrderedMap

/-! # The execution server

`ara::exec::ExecutionServer`: what it reads out of a report, and the states it records. A report is a length,
that many bytes of an id and the byte of a state; the bytes behind are not looked at.
-/

namespace AdaptiveAutosar.Exec
open Foundations Com BigEndian
set_option autoImplicit false

inductive ExecutionState where
  | running
  deriving DecidableEq, Repr

/-- The underlying number. -/
def ExecutionState.toUInt8 : ExecutionState → UInt8
  | .running => 0

structure ExecutionServer where
  executionStates : OrderedMap Bytes ExecutionState

namespace ExecutionServer

def make : ExecutionServer := ⟨.empty⟩

def injectErrorCode (payload : Bytes) (errorCode : ExecErrc) : Bytes :=
  injectInteger payload errorCode.code.toUInt32

def cMinimumPayloadLength : ℕ := 5

/-- The id and the state of a report, unless one of the two length checks or the check of the state fails. -/
def extractReport (rpcRequestPayload : Bytes) : Outcome (Option (Bytes × ExecutionState)) :=
  if rpcRequestPayload.length < cMinimumPayloadLength then .ok none
  else do
    let (length, beginOffset) ← extractInteger rpcRequestPayload 0
    let endOffset := beginOffset + length.toNat
    if rpcRequestPayload.length ≤ endOffset then .ok none
    else do
      let (executionStateByte, _) ← Cursor.checked rpcRequestPayload endOffset
      if executionStateByte ≠ ExecutionState.running.toUInt8 then .ok none
      else do
        let (id, _) ← Cursor.span (endOffset - beginOffset) rpcRequestPayload beginOffset
        .ok (some (id, .running))

/-- The answer `false` with an error code. -/
def refuse (errorCode : ExecErrc) (server : ExecutionServer) : Outcome (Bool × Bytes) × ExecutionServer :=
  (.ok (false, injectErrorCode [] errorCode), server)

def handleExecutionStateReport : RpcHandler ExecutionServer := fun rpcRequestPayload server =>
  match extractReport rpcRequestPayload with
  | .error e => (.error e, server)
  | .ok none => refuse .invalidArguments server
  | .ok (some (id, executionState)) =>
    if server.executionStates.find? id = some executionState then refuse .alreadyInState server
    else (.ok (true, []), { server with executionStates := server.executionStates.insert id executionState })

def tryGetExecutionState (id : Bytes) (server : ExecutionServer) : Option ExecutionState :=
  server.executionStates.find? id

def step (server : ExecutionServer) (rpcRequestPayload : Bytes) :
    Except Unit (Outcome (Bool × Bytes) × ExecutionServer) :=
  .ok (handleExecutionStateReport rpcRequestPayload server)

/-- The RPC server with the handler that the constructor sets. -/
def rpcServer (protocolVersion interfaceVersion : UInt8) : RpcServer ExecutionServer :=
  RpcServer.setHandler ⟨protocolVersion, interfaceVersion, [], fun _ => none⟩ ExecutionClient.cServiceId
    ExecutionClient.cMethodId handleExecutionStateReport

/-! ## What a payload decodes to -/

/-- The payload begins with a report of the id, in a form whose length fits its field. -/
def Reports (rpcRequestPayload id : Bytes) (executionState : ExecutionState) : Prop :=
  id.length < 2 ^ 32 ∧ injectString [] id ++ [executionState.toUInt8] <+: rpcRequestPayload

theorem extractReport_behind {word : UInt32} {id : Bytes} (id_length : id.length = word.toNat) (behind : Bytes) :
    extractReport (bytes32 word ++ id ++ behind) =
      if behind.head? = some ExecutionState.running.toUInt8 then .ok (some (id, .running)) else .ok none := by
  have ahead : (bytes32 word ++ id).length = 4 + word.toNat := by
    rw [List.length_append, bytes32_length, id_length]
  have id_word : extractInteger (bytes32 word ++ id ++ behind) 0 = .ok (word, 4) :=
    (extractInteger_bytes32 word).at ⟨[], _, by rw [List.append_assoc]; rfl, rfl⟩
  unfold extractReport cMinimumPayloadLength
  rw [List.length_append, ahead]
  cases behind with
  | nil =>
    by_cases few : 4 + word.toNat + ([] : Bytes).length < 5
    · rw [if_pos few]
      rfl
    · rw [if_neg few, id_word]
      dsimp only [bind, Except.bind]
      have ends : 4 + word.toNat + ([] : Bytes).length ≤ 4 + word.toNat := Nat.le_refl _
      rw [if_pos ends]
      rfl
  | cons executionStateByte rest =>
    have state : Cursor.checked (bytes32 word ++ id ++ executionStateByte :: rest) (4 + word.toNat) =
        .ok (executionStateByte, 4 + word.toNat + 1) :=
      (Cursor.Yields.checked executionStateByte).at ⟨bytes32 word ++ id, rest, by simp, ahead⟩
    have span : Cursor.span (4 + word.toNat - 4) (bytes32 word ++ id ++ executionStateByte :: rest) 4 =
        .ok (id, 4 + id.length) := by
      rw [Nat.add_sub_cancel_left, ← id_length]
      exact (Cursor.Yields.span id).at ⟨bytes32 word, _, rfl, rfl⟩
    have few : ¬ 4 + word.toNat + (executionStateByte :: rest).length < 5 := by
      rw [List.length_cons]
      omega
    have room : ¬ 4 + word.toNat + (executionStateByte :: rest).length ≤ 4 + word.toNat := by
      rw [List.length_cons]
      omega
    rw [if_neg few, id_word]
    dsimp only [bind, Except.bind]
    rw [if_neg room, state]
    dsimp only [bind, Except.bind]
    by_cases running : executionStateByte = ExecutionState.running.toUInt8
    · rw [if_neg (not_not_intro running), span, running]
      rfl
    · have other : ¬ (executionStateByte :: rest).head? = some ExecutionState.running.toUInt8 := fun same =>
        running (Option.some.inj same)
      rw [if_pos running, if_neg other]

theorem extractReport_cases (payload : Bytes) :
    extractReport payload = .ok none ∨ ∃ word id behind,
      payload = bytes32 word ++ id ++ behind ∧ id.length = word.toNat := by
  by_cases few : payload.length < 5
  · left
    unfold extractReport cMinimumPayloadLength
    rw [if_pos few]
  · obtain ⟨word, rest, rfl⟩ := exists_integer (by omega : 4 ≤ payload.length)
    by_cases cut : (bytes32 word ++ rest).length ≤ 4 + word.toNat
    · left
      have id_word : extractInteger (bytes32 word ++ rest) 0 = .ok (word, 4) :=
        (extractInteger_bytes32 word).at ⟨[], _, rfl, rfl⟩
      unfold extractReport cMinimumPayloadLength
      rw [if_neg few, id_word]
      dsimp only [bind, Except.bind]
      rw [if_pos cut]
    · right
      rw [List.length_append, bytes32_length] at cut
      refine ⟨word, rest.take word.toNat, rest.drop word.toNat, ?_, ?_⟩
      · rw [List.append_assoc, List.take_append_drop]
      · rw [List.length_take]
        omega

/-- Every payload is read inside its bounds. -/
theorem exists_extractReport (payload : Bytes) : ∃ report, extractReport payload = .ok report := by
  rcases extractReport_cases payload with refused | ⟨word, id, behind, rfl, id_length⟩
  · exact ⟨none, refused⟩
  · rw [extractReport_behind id_length]
    split_ifs
    · exact ⟨_, rfl⟩
    · exact ⟨none, rfl⟩

theorem extractReport_eq_some_iff (payload id : Bytes) (executionState : ExecutionState) :
    extractReport payload = .ok (some (id, executionState)) ↔ Reports payload id executionState := by
  cases executionState
  constructor
  · intro accepted
    rcases extractReport_cases payload with refused | ⟨word, id', behind, rfl, id_length⟩
    · cases refused.symm.trans accepted
    · rw [extractReport_behind id_length] at accepted
      split_ifs at accepted with running
      · obtain ⟨rfl, -⟩ := Prod.mk.inj (Option.some.inj (Except.ok.inj accepted))
        obtain ⟨rest, rfl⟩ := List.head?_eq_some_iff.mp running
        refine ⟨id_length ▸ word.toNat_lt, rest, ?_⟩
        unfold injectString injectInteger
        rw [id_length, UInt32.ofNat_toNat, List.nil_append, List.append_assoc _ [_]]
        rfl
      · cases accepted
  · rintro ⟨fits, rest, rfl⟩
    have id_length : id.length = (UInt32.ofNat id.length).toNat := (UInt32.toNat_ofNat_of_lt' fits).symm
    unfold injectString injectInteger
    rw [List.nil_append, List.append_assoc _ [_], extractReport_behind id_length, List.singleton_append,
      List.head?_cons, if_pos rfl]

/-- What begins with reports of two ids begins with the report of one id. -/
theorem Reports.unique {payload id id' : Bytes} {executionState executionState' : ExecutionState}
    (reports : Reports payload id executionState) (reports' : Reports payload id' executionState') :
    id = id' ∧ executionState = executionState' := by
  have same := ((extractReport_eq_some_iff payload id executionState).mpr reports).symm.trans
    ((extractReport_eq_some_iff payload id' executionState').mpr reports')
  exact Prod.mk.inj (Option.some.inj (Except.ok.inj same))

theorem extractReport_of_none {payload : Bytes}
    (none_reported : ¬ ∃ id executionState, Reports payload id executionState) :
    extractReport payload = .ok none := by
  obtain ⟨report, read⟩ := exists_extractReport payload
  cases report with
  | none => exact read
  | some report => exact absurd ⟨_, _, (extractReport_eq_some_iff payload _ _).mp read⟩ none_reported

/-! ## One request -/

/-- The state is recorded for the id and for no other, and the answer is empty. -/
structure Recorded (before : ExecutionServer) (id : Bytes) (executionState : ExecutionState)
    (answer : Outcome (Bool × Bytes)) (after : ExecutionServer) : Prop where
  answers : answer = .ok (true, [])
  records : ∀ other, after.tryGetExecutionState other =
    if other = id then some executionState else before.tryGetExecutionState other

/-- The request is answered with the error code, and nothing changes. -/
def Refused (before : ExecutionServer) (errorCode : ExecErrc) (answer : Outcome (Bool × Bytes))
    (after : ExecutionServer) : Prop :=
  answer = .ok (false, injectErrorCode [] errorCode) ∧ after = before

/-- A report of a state that is not the recorded one is recorded, and every other request is refused. -/
structure Handles (before : ExecutionServer) (rpcRequestPayload : Bytes) (answer : Outcome (Bool × Bytes))
    (after : ExecutionServer) : Prop where
  records : ∀ id executionState, Reports rpcRequestPayload id executionState →
    before.tryGetExecutionState id ≠ some executionState → before.Recorded id executionState answer after
  repeats : ∀ id executionState, Reports rpcRequestPayload id executionState →
    before.tryGetExecutionState id = some executionState → before.Refused .alreadyInState answer after
  refuses : (¬ ∃ id executionState, Reports rpcRequestPayload id executionState) →
    before.Refused .invalidArguments answer after

variable {server server' : ExecutionServer} {payload : Bytes} {answer : Outcome (Bool × Bytes)}

theorem handle_report {id : Bytes} {executionState : ExecutionState} (reports : Reports payload id executionState) :
    handleExecutionStateReport payload server =
      if server.tryGetExecutionState id = some executionState then refuse .alreadyInState server
      else (.ok (true, []), { server with executionStates := server.executionStates.insert id executionState }) := by
  unfold handleExecutionStateReport tryGetExecutionState
  rw [(extractReport_eq_some_iff payload id executionState).mpr reports]

theorem handle_undecoded (undecoded : extractReport payload = .ok none) :
    handleExecutionStateReport payload server = refuse .invalidArguments server := by
  unfold handleExecutionStateReport
  rw [undecoded]

theorem handle_other (none_reported : ¬ ∃ id executionState, Reports payload id executionState) :
    handleExecutionStateReport payload server = refuse .invalidArguments server :=
  handle_undecoded (extractReport_of_none none_reported)

theorem handle_handles (server : ExecutionServer) (payload : Bytes) :
    server.Handles payload (handleExecutionStateReport payload server).1
      (handleExecutionStateReport payload server).2 where
  records := by
    intro id executionState reports differs
    rw [handle_report reports, if_neg differs]
    refine ⟨rfl, fun other => ?_⟩
    change (server.executionStates.insert id executionState).find? other = _
    rw [OrderedMap.find?_insert]
    by_cases here : other = id
    · rw [if_pos here, if_pos here]
    · rw [if_neg here, if_neg here]
      rfl
  repeats := by
    intro id executionState reports same
    rw [handle_report reports, if_pos same]
    exact ⟨rfl, rfl⟩
  refuses := by
    intro none_reported
    rw [handle_other none_reported]
    exact ⟨rfl, rfl⟩

/-- A state is recorded for an id behind a request when it was before or the request reports it. -/
theorem handle_recorded_iff (server : ExecutionServer) (payload id : Bytes) (executionState : ExecutionState) :
    (handleExecutionStateReport payload server).2.tryGetExecutionState id = some executionState ↔
      Reports payload id executionState ∨ server.tryGetExecutionState id = some executionState := by
  cases executionState
  by_cases reported : ∃ id executionState, Reports payload id executionState
  · obtain ⟨id', executionState', reports⟩ := reported
    cases executionState'
    rw [handle_report reports]
    by_cases same : server.tryGetExecutionState id' = some .running
    · rw [if_pos same]
      refine ⟨.inr, fun either => either.elim (fun here => ?_) fun before => before⟩
      obtain ⟨rfl, -⟩ := here.unique reports
      exact same
    · rw [if_neg same]
      change (server.executionStates.insert id' .running).find? id = _ ↔ _
      rw [OrderedMap.find?_insert]
      by_cases here : id = id'
      · rw [if_pos here]
        exact iff_of_true rfl (.inl (here ▸ reports))
      · rw [if_neg here]
        refine ⟨.inr, fun either => either.elim (fun other => ?_) fun before => before⟩
        exact absurd (other.unique reports).1 here
  · rw [handle_other reported]
    exact ⟨.inr, fun either => either.elim (fun here => absurd ⟨_, _, here⟩ reported) fun before => before⟩

/-! ## Requests of the client -/

theorem reportExecutionState_payload {client client' : ExecutionClient} {state : UInt8} {call : RpcCall}
    (sent : client.reportExecutionState state = .ok (.ok call, client')) :
    call.rpcPayload = injectString [] client.instanceSpecifier ++ [state] := by
  unfold ExecutionClient.reportExecutionState at sent
  split_ifs at sent
  · cases sent
  · obtain ⟨⟨future, promise⟩, -, returned⟩ := bind_eq_ok.mp sent
    cases returned
    rfl

theorem exists_reportExecutionState (instanceSpecifier : Bytes) (state : UInt8) :
    ∃ call client', (ExecutionClient.make instanceSpecifier).reportExecutionState state = .ok (.ok call, client') ∧
      call.rpcPayload = injectString [] instanceSpecifier ++ [state] := ⟨_, _, rfl, rfl⟩

theorem extractReport_sent_iff {client client' : ExecutionClient} {call : RpcCall}
    (sent : client.reportExecutionState ExecutionState.running.toUInt8 = .ok (.ok call, client')) :
    extractReport call.rpcPayload = .ok (some (client.instanceSpecifier, .running)) ↔
      client.instanceSpecifier.length < 2 ^ 32 := by
  rw [extractReport_eq_some_iff, reportExecutionState_payload sent]
  exact and_iff_left List.prefix_rfl

/-- A valid RPC request is answered with the answer of the handler: a response when it is `true`, an error
otherwise. -/
theorem tryInvokeHandler_report {protocolVersion interfaceVersion : UInt8} {request : SomeIpRpcMessage}
    (fits : request.Fits) (valid : (rpcServer protocolVersion interfaceVersion).validate request = .eOK)
    (id : request.messageId = messageIdOf ExecutionClient.cServiceId ExecutionClient.cMethodId)
    (server : ExecutionServer) (responsePayload : Bytes) :
    ∃ handled rpcResponsePayload, handleExecutionStateReport request.rpcPayload server =
        (.ok (handled, rpcResponsePayload), (handleExecutionStateReport request.rpcPayload server).2) ∧
      (rpcServer protocolVersion interfaceVersion).tryInvokeHandler request.payload responsePayload server =
        ⟨.ok true, ((rpcServer protocolVersion interfaceVersion).responseTo request handled
            rpcResponsePayload).payload, (handleExecutionStateReport request.rpcPayload server).2,
          [⟨request.messageId, request.rpcPayload, .ok (handled, rpcResponsePayload)⟩]⟩ := by
  have answered : ∃ handled rpcResponsePayload, (handleExecutionStateReport request.rpcPayload server).1 =
      .ok (handled, rpcResponsePayload) := by
    have handles := handle_handles server request.rpcPayload
    by_cases reported : ∃ id executionState, Reports request.rpcPayload id executionState
    · obtain ⟨id, executionState, reports⟩ := reported
      by_cases same : server.tryGetExecutionState id = some executionState
      · exact ⟨_, _, (handles.repeats id executionState reports same).1⟩
      · exact ⟨_, _, (handles.records id executionState reports same).answers⟩
    · exact ⟨_, _, (handles.refuses reported).1⟩
  obtain ⟨handled, rpcResponsePayload, answer⟩ := answered
  have handler : (rpcServer protocolVersion interfaceVersion).handlers request.messageId =
      some handleExecutionStateReport := by
    rw [id]
    rfl
  have call : handleExecutionStateReport request.rpcPayload server =
      (.ok (handled, rpcResponsePayload), (handleExecutionStateReport request.rpcPayload server).2) :=
    Prod.ext answer rfl
  exact ⟨handled, rpcResponsePayload, call, RpcServer.tryInvokeHandler_request _ request _ fits valid handler server _
    handled rpcResponsePayload responsePayload call⟩

/-! ## Runs -/

/-- In every run of requests with any payloads: each is handled as it should be, so that exactly the states reported
so far are recorded; and what a client sends for a specifier whose length fits its field decodes to that
specifier. -/
theorem reports_decoded {trace : List (Taken ExecutionServer Bytes (Outcome (Bool × Bytes)))}
    (run : Run step server trace server') :
    (∀ taken ∈ trace, ∀ after, taken.before.step taken.input = .ok (taken.output, after) →
        taken.before.Handles taken.input taken.output after) ∧
      (∀ id executionState, server'.tryGetExecutionState id = some executionState ↔
        server.tryGetExecutionState id = some executionState ∨ ∃ taken ∈ trace, Reports taken.input id executionState) ∧
      ∀ (client client' : ExecutionClient) (call : RpcCall), client.instanceSpecifier.length < 2 ^ 32 →
        client.reportExecutionState ExecutionState.running.toUInt8 = .ok (.ok call, client') →
          extractReport call.rpcPayload = .ok (some (client.instanceSpecifier, .running)) := by
  refine ⟨?_, ?_, fun _ _ _ fits sent => (extractReport_sent_iff sent).mpr fits⟩
  · intro taken _ after answered
    obtain ⟨answer, same⟩ := Prod.mk.inj (Except.ok.inj answered)
    rw [← answer, ← same]
    exact handle_handles taken.before taken.input
  · induction run with
    | start => simp
    | @next trace before after payload answer _ taken ih =>
      intro id executionState
      have same : (handleExecutionStateReport payload before).2 = after :=
        congrArg Prod.snd (Except.ok.inj taken)
      rw [← same, handle_recorded_iff, ih, List.exists_mem_cons_iff]
      constructor
      · rintro (here | start | earlier)
        · exact .inr (.inl here)
        · exact .inl start
        · exact .inr (.inr earlier)
      · rintro (start | here | earlier)
        · exact .inr (.inl start)
        · exact .inl here
        · exact .inr (.inr earlier)

/-- A report, the same report again, three payloads that are no report and a report with a byte behind it. -/
def sampleRequests : List Bytes :=
  [[0, 0, 0, 2, 105, 100, 0], [0, 0, 0, 2, 105, 100, 0], [0], [0, 0, 0, 2, 105, 100], [0, 0, 0, 2, 105, 100, 255],
    [0, 0, 0, 1, 97, 0, 9]]

theorem reports_decoded_sixRequests : ∃ trace server call client,
    Run.play step [] make sampleRequests = .ok (trace, server) ∧
      trace.map Taken.output = [.ok (true, []), .ok (false, [0, 0, 0, 2]), .ok (false, [0, 0, 0, 2]),
        .ok (false, [0, 0, 0, 2]), .ok (false, [0, 0, 0, 10]), .ok (true, [])] ∧
      (∀ taken ∈ trace, ∀ after, taken.before.step taken.input = .ok (taken.output, after) →
        taken.before.Handles taken.input taken.output after) ∧
      (ExecutionClient.make [105, 100]).reportExecutionState ExecutionState.running.toUInt8 =
        .ok (.ok call, client) ∧
      extractReport call.rpcPayload = .ok (some ([105, 100], .running)) := by
  obtain ⟨trace, server, played, outputs⟩ : ∃ trace server,
      Run.play step [] make sampleRequests = .ok (trace, server) ∧
        trace.map Taken.output = [.ok (true, []), .ok (false, [0, 0, 0, 2]), .ok (false, [0, 0, 0, 2]),
          .ok (false, [0, 0, 0, 2]), .ok (false, [0, 0, 0, 10]), .ok (true, [])] := ⟨_, _, rfl, by decide⟩
  obtain ⟨handles, -, decodes⟩ := reports_decoded (Run.of_play .start played)
  obtain ⟨call, client, sent, -⟩ := exists_reportExecutionState [105, 100] ExecutionState.running.toUInt8
  exact ⟨trace, server, call, client, played, outputs, handles, sent, decodes _ _ _ (by decide) sent⟩

/-- A length that wraps to 0 makes the first byte of the id the byte of the state. -/
theorem extractReport_wrapped {id : Bytes} {first : UInt8} (wraps : UInt32.ofNat id.length = 0)
    (begins : id.head? = some first) (other : first ≠ ExecutionState.running.toUInt8) (behind : Bytes) :
    extractReport (injectString [] id ++ behind) = .ok none := by
  have empty : ([] : Bytes).length = (0 : UInt32).toNat := rfl
  have decoded := extractReport_behind empty (id ++ behind)
  obtain ⟨rest, rfl⟩ := List.head?_eq_some_iff.mp begins
  have no_state : ¬ (first :: rest ++ behind).head? = some ExecutionState.running.toUInt8 := fun same =>
    other (Option.some.inj same)
  rw [if_neg no_state, List.append_nil] at decoded
  unfold injectString injectInteger
  rw [wraps, List.nil_append, List.append_assoc]
  exact decoded

/-- What a client sends for a specifier of 2^32 bytes begins with a length of 0, and is refused. -/
theorem not_always_decoded : ∃ call client,
    (ExecutionClient.make (List.replicate (2 ^ 32) 97)).reportExecutionState ExecutionState.running.toUInt8 =
      .ok (.ok call, client) ∧
      extractReport call.rpcPayload ≠ .ok (some (List.replicate (2 ^ 32) 97, .running)) ∧
      handleExecutionStateReport call.rpcPayload make = refuse .invalidArguments make := by
  obtain ⟨call, client, sent, payload⟩ := exists_reportExecutionState (List.replicate (2 ^ 32) 97)
    ExecutionState.running.toUInt8
  refine ⟨call, client, sent, ?_, ?_⟩
  · intro decoded
    have fits := (extractReport_sent_iff sent).mp decoded
    change (List.replicate (2 ^ 32) 97).length < 2 ^ 32 at fits
    rw [List.length_replicate] at fits
    exact Nat.lt_irrefl _ fits
  · have wraps : UInt32.ofNat (List.replicate (2 ^ 32) (97 : UInt8)).length = 0 := by
      rw [List.length_replicate]
      rfl
    have begins : (List.replicate (2 ^ 32) (97 : UInt8)).head? = some 97 := by
      rw [List.head?_replicate]
      exact if_neg (by norm_num)
    have decoded := extractReport_wrapped wraps begins (by decide) [ExecutionState.running.toUInt8]
    rw [payload]
    exact handle_undecoded decoded

end ExecutionServer
end AdaptiveAutosar.Exec
