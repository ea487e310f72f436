import AdaptiveAutosar.Com.Rpc.Client
import AdaptiveAutosar.Foundations.Transition
import AdaptiveAutosar.PackageManagement.Calls

/-! # Calls and their responses

The proxy and the wire behind it. All methods share one slot for the response that came last, and
the handler that fills it looks at neither the method nor the session of a message. The server
answers the requests it gets in their order and the connection keeps the order of the answers; when
an answer is sent, and when it arrives, is not determined.
-/

namespace AdaptiveAutosar.PackageManagement
open Foundations AdaptiveAutosar.Com
set_option autoImplicit false

namespace PackageManagementProxy

/-- `mLastResponse` and `mResponseReady`. -/
structure Slot where
  lastResponse : Bytes
  responseReady : Bool
  deriving DecidableEq

def makeHandler (_methodId : UInt16) : ResponseHandler Slot := fun msg _ =>
  (.ok (), ⟨msg.rpcPayload, true⟩)

def registerHandlers (client : RpcClient Slot) : RpcClient Slot :=
  let register := fun (client : RpcClient Slot) (method : Method) =>
    client.setHandler cServiceId method.id (makeHandler method.id)
  let client := register client .transferStart
  let client := register client .transferData
  let client := register client .transferExit
  let client := register client .processSwPackage
  let client := register client .activate
  let client := register client .getSwClusterInfo
  register client .getCurrentStatus

/-- What the server puts into the answer to a request, whose IDs it copies. -/
structure Answer where
  protocolVersion : UInt8
  interfaceVersion : UInt8
  returnCode : SomeIpReturnCode
  rpcPayload : Bytes
  fits : rpcPayload.length + 8 < 2 ^ 32

def Answer.to (answer : Answer) (request : SomeIpRpcMessage) : SomeIpRpcMessage :=
  { messageId := request.messageId, clientId := request.clientId, sessionId := request.sessionId,
    protocolVersion := answer.protocolVersion, interfaceVersion := answer.interfaceVersion,
    messageType := if answer.returnCode = .eOK then .response else .error,
    returnCode := answer.returnCode, rpcPayload := answer.rpcPayload }

/-- A message with the number of the call it belongs to. The numbers are not on the wire. -/
structure Tagged where
  index : ℕ
  message : SomeIpRpcMessage
  deriving DecidableEq

/-- A proxy, the requests not answered yet and the responses not delivered yet, the oldest first.
`stored` is the response that is in the slot, `answered` are all the answers there were. -/
structure Session where
  client : RpcClient Slot
  slot : Slot
  waiting : Option (ℕ × Call)
  sent : ℕ
  requests : List Tagged
  arriving : List Tagged
  stored : Option Tagged
  answered : List Tagged

/-- A poll delivers some of the responses; the deadline may have expired behind it. A request is
dropped when it, or its answer, does not get through. -/
inductive Event where
  | call (call : Call)
  | answer (answer : Answer)
  | drop
  | poll (arrivals : ℕ) (expired : Bool)

/-- How a call ended. `response` is where the bytes it was made from came from. -/
structure Finished where
  index : ℕ
  call : Call
  timedOut : Bool
  response : Option Tagged
  returned : Outcome Returned

namespace Session

/-- The constructor of the proxy, connected. -/
def connected (protocolVersion : UInt8) : Session where
  client := registerHandlers (RpcClient.make protocolVersion cInterfaceVersion)
  slot := ⟨[], false⟩
  waiting := none
  sent := 0
  requests := []
  arriving := []
  stored := none
  answered := []

/-- The start of `sendAndWait`, up to its loop. -/
def send (session : Session) (call : Call) : Outcome Session := do
  let rpcCall : RpcCall := ⟨cServiceId, call.method.id, cClientId, request call⟩
  let message ← session.client.request rpcCall
  let (_, client) ← session.client.send rpcCall
  pure { session with
    client
    slot := ⟨[], false⟩
    stored := none
    waiting := some (session.sent, call)
    sent := session.sent + 1
    requests := session.requests ++ [⟨session.sent, message⟩] }

def deliver (session : Session) (response : Tagged) : Outcome Session :=
  match session.client.invokeHandler response.message.payload session.slot with
  | (.error e, _, _) => .error e
  | (.ok (), slot, called) =>
    .ok { session with slot, stored := if called = [] then session.stored else some response }

def tryPoll (session : Session) (arrivals : ℕ) : Outcome Session :=
  (session.arriving.take arrivals).foldlM deliver
    { session with arriving := session.arriving.drop arrivals }

/-- A round of the loop of `sendAndWait`, behind its poll, and what the call makes of its end. -/
def checkWaiting (session : Session) (expired : Bool) : Option Finished × Session :=
  match session.waiting with
  | none => (none, session)
  | some (index, call) =>
    if expired then
      (some ⟨index, call, true, none, result call.method none⟩, { session with waiting := none })
    else if session.slot.responseReady then
      (some ⟨index, call, false, session.stored,
          result call.method (some session.slot.lastResponse)⟩,
        { session with waiting := none, slot := ⟨[], true⟩ })
    else (none, session)

/-- The calls block, so none begins while another one waits. -/
def step (session : Session) : Event → Outcome (Option Finished × Session)
  | .call call =>
    match session.waiting with
    | some _ => .ok (none, session)
    | none => do
      let session ← session.send call
      pure (none, session)
  | .answer answer =>
    match session.requests with
    | [] => .ok (none, session)
    | request :: rest =>
      let response : Tagged := ⟨request.index, answer.to request.message⟩
      .ok (none, { session with
        requests := rest
        arriving := session.arriving ++ [response]
        answered := session.answered ++ [response] })
  | .drop => .ok (none, { session with requests := session.requests.tail })
  | .poll arrivals expired => do
    let session ← session.tryPoll arrivals
    pure (session.checkWaiting expired)

/-! ## Delivering -/

/-- The response is in the slot. -/
def store (session : Session) (response : Tagged) : Session :=
  { session with slot := ⟨response.message.rpcPayload, true⟩, stored := some response }

/-- The client has the handlers the constructor registers. -/
def Registered (session : Session) : Prop :=
  ∀ method : Method,
    session.client.handlers (messageIdOf cServiceId method.id) = some (makeHandler method.id)

/-- A message that answers a request of the proxy. -/
def OfService (message : SomeIpRpcMessage) : Prop :=
  ∃ method : Method, message.messageId = messageIdOf cServiceId method.id

theorem registered_connected (protocolVersion : UInt8) : (connected protocolVersion).Registered := by
  intro method
  cases method <;> rfl

theorem deliver_eq {session : Session} {response : Tagged} (registered : session.Registered)
    (fits : response.message.Fits) (service : OfService response.message) :
    session.deliver response = .ok (session.store response) := by
  obtain ⟨method, id⟩ := service
  have handler := registered method
  rw [← id] at handler
  have invoked : session.client.invokeHandler response.message.payload session.slot =
      (.ok (), ⟨response.message.rpcPayload, true⟩, [response.message]) := by
    simp only [RpcClient.invokeHandler, SomeIpRpcMessage.deserialize_payload _ fits, handler, makeHandler]
  simp only [deliver, invoked]
  rfl

theorem deliver_all (responses : List Tagged) (session : Session) (registered : session.Registered)
    (good : ∀ response ∈ responses, response.message.Fits ∧ OfService response.message) :
    responses.foldlM deliver session = .ok (responses.foldl store session) := by
  induction responses generalizing session with
  | nil => rfl
  | cons response rest ih =>
    obtain ⟨⟨fits, service⟩, others⟩ := List.forall_mem_cons.mp good
    rw [List.foldlM_cons, deliver_eq registered fits service]
    exact ih (session.store response) registered others

theorem foldl_store (responses : List Tagged) (last : Tagged) (session : Session) :
    (responses ++ [last]).foldl store session = session.store last := by
  induction responses generalizing session with
  | nil => rfl
  | cons response rest ih => exact ih (session.store response)

/-! ## What holds in every session -/

/-- Requests and responses are in the order of their calls, a call that waits is the last one made,
and while it waits there is nothing in the slot. -/
structure Coherent (session : Session) : Prop where
  registered : session.Registered
  asked : ∀ request ∈ session.requests, OfService request.message
  arrives : ∀ response ∈ session.arriving, response.message.Fits ∧ OfService response.message ∧
    response ∈ session.answered
  ordered : (session.arriving ++ session.requests).Pairwise fun first second =>
    first.index < second.index
  sent : ∀ tagged ∈ session.arriving ++ session.requests, tagged.index < session.sent
  latest : ∀ index call, session.waiting = some (index, call) → index + 1 = session.sent
  open_slot : ∀ waiting, session.waiting = some waiting → session.slot.responseReady = false

theorem coherent_connected (protocolVersion : UInt8) : (connected protocolVersion).Coherent where
  registered := registered_connected protocolVersion
  asked := by intro _ h; cases h
  arrives := by intro _ h; cases h
  ordered := List.Pairwise.nil
  sent := by intro _ h; cases h
  latest := by intro _ _ h; cases h
  open_slot := by intro _ h; cases h

/-- A poll takes the responses that arrived off the wire and leaves the last one in the slot. -/
theorem tryPoll_cases {session : Session} (h : session.Coherent) (arrivals : ℕ) :
    ∃ slot stored, session.tryPoll arrivals =
        .ok { session with arriving := session.arriving.drop arrivals, slot, stored } ∧
      ((session.arriving.take arrivals = [] ∧ slot = session.slot) ∨
        ∃ older last, session.arriving.take arrivals = older ++ [last] ∧
          slot = ⟨last.message.rpcPayload, true⟩ ∧ stored = some last) := by
  have delivered : session.tryPoll arrivals = .ok ((session.arriving.take arrivals).foldl store
      { session with arriving := session.arriving.drop arrivals }) := by
    refine deliver_all _ _ h.registered ?_
    intro response arrived
    obtain ⟨fits, service, -⟩ := h.arrives response (List.mem_of_mem_take arrived)
    exact ⟨fits, service⟩
  by_cases nothing : session.arriving.take arrivals = []
  · rw [nothing] at delivered
    exact ⟨_, _, delivered, Or.inl ⟨nothing, rfl⟩⟩
  · have split := List.dropLast_append_getLast nothing
    rw [← split, foldl_store] at delivered
    exact ⟨_, _, delivered, Or.inr ⟨_, _, split.symm, rfl, rfl⟩⟩

/-- A poll changes the slot and what is on the wire, and ends a call or lets it wait on. -/
theorem Coherent.polled {session : Session} (h : session.Coherent) (arrivals : ℕ) (slot : Slot)
    (stored : Option Tagged) {waiting : Option (ℕ × Call)}
    (same : ∀ call, waiting = some call → session.waiting = some call ∧ slot.responseReady = false) :
    Coherent { session with arriving := session.arriving.drop arrivals, slot, stored, waiting } := by
  have fewer : (session.arriving.drop arrivals ++ session.requests).Sublist
      (session.arriving ++ session.requests) :=
    (List.drop_sublist arrivals session.arriving).append (List.Sublist.refl _)
  constructor
  case registered => exact h.registered
  case asked => exact h.asked
  case arrives => exact fun response there => h.arrives response (List.mem_of_mem_drop there)
  case ordered => exact h.ordered.sublist fewer
  case sent => exact fun tagged there => h.sent tagged (fewer.subset there)
  case latest => exact fun index call waits => h.latest index call (same _ waits).1
  case open_slot => exact fun call waits => (same call waits).2

/-! ## Which calls return the response to their own request -/

/-- A call that ends before its deadline has the answer to its own request, and returns what that
answer carries. -/
def Matched (taken : Taken Session Event (Option Finished)) : Prop :=
  ∀ finished, taken.output = some finished → finished.timedOut = false →
    ∃ response ∈ taken.before.answered, response.index = finished.index ∧
      finished.response = some response ∧
      finished.returned = result finished.call.method (some response.message.rpcPayload)

/-- Before its deadline, a poll that delivers anything to a call delivers the answer to its request
too: not only answers to calls that have timed out. -/
def InTime (session : Session) (event : Event) : Prop :=
  ∀ arrivals index call, event = .poll arrivals false → session.waiting = some (index, call) →
    session.arriving.take arrivals ≠ [] → ∃ response ∈ session.arriving.take arrivals,
      response.index = index

theorem matched_silent (session : Session) (event : Event) : Matched ⟨session, event, none⟩ := by
  intro finished ended
  cases ended

/-- The answer to the call that waits is the newest on the wire. -/
theorem Coherent.own_is_last {session : Session} (h : session.Coherent) {index : ℕ} {call : Call}
    (waits : session.waiting = some (index, call)) {older newer : List Tagged} {last : Tagged}
    (split : session.arriving = older ++ [last] ++ newer) :
    last.index = index ↔ ∃ response ∈ older ++ [last], response.index = index := by
  have latest := h.latest index call waits
  constructor
  · intro own
    exact ⟨last, by simp, own⟩
  · rintro ⟨response, delivered, own⟩
    have bound : last.index < session.sent := h.sent last (by simp [split])
    have ordered := h.ordered
    rw [split, List.append_assoc, List.append_assoc, List.pairwise_append] at ordered
    obtain earlier | rfl := (by simpa using delivered : response ∈ older ∨ response = last)
    · have before := ordered.2.2 response earlier last (by simp)
      omega
    · exact own

/-- What a step does: it is taken, keeps the session coherent, and ends a call with the wrong answer
exactly when it is not in time. -/
def Steps (session : Session) (event : Event) : Prop :=
  ∃ output session', session.step event = .ok (output, session') ∧ session'.Coherent ∧
    (Matched ⟨session, event, output⟩ ↔ session.InTime event)

theorem steps_of_silent {session session' : Session} {event : Event} (h : session'.Coherent)
    (taken : session.step event = .ok (none, session'))
    (other : ∀ arrivals, event ≠ .poll arrivals false) : session.Steps event := by
  refine ⟨none, session', taken, h, ?_⟩
  constructor
  · intro _ arrivals _ _ poll
    exact absurd poll (other arrivals)
  · intro _
    exact matched_silent session event

theorem steps_call {session : Session} (h : session.Coherent) (call : Call) :
    session.Steps (.call call) := by
  cases waits : session.waiting with
  | some other =>
    refine steps_of_silent h ?_ (by simp)
    simp only [step, waits]
  | none =>
    -- the request `Send` makes; the client keeps its handlers
    obtain ⟨message, client, asked, sent, service, handlers⟩ : ∃ message client,
        session.client.request ⟨cServiceId, call.method.id, cClientId, request call⟩ = .ok message ∧
        session.client.send ⟨cServiceId, call.method.id, cClientId, request call⟩ =
          .ok (message.payload, client) ∧
        OfService message ∧ client.handlers = session.client.handlers :=
      ⟨_, _, rfl, rfl, ⟨call.method, rfl⟩, rfl⟩
    have taken : session.step (.call call) = .ok (none, { session with
        client
        slot := ⟨[], false⟩
        stored := none
        waiting := some (session.sent, call)
        sent := session.sent + 1
        requests := session.requests ++ [⟨session.sent, message⟩] }) := by
      simp only [step, waits, send, asked, sent, bind, Except.bind]
      rfl
    refine steps_of_silent ?_ taken (by simp)
    constructor
    case registered =>
      intro method
      show client.handlers _ = _
      rw [handlers]
      exact h.registered method
    case asked =>
      intro request there
      obtain there | rfl := List.mem_append.mp there |>.imp_right List.mem_singleton.mp
      · exact h.asked request there
      · exact service
    case arrives => exact h.arrives
    case ordered =>
      show List.Pairwise _ (session.arriving ++ (session.requests ++ [_]))
      rw [← List.append_assoc, List.pairwise_append]
      refine ⟨h.ordered, List.pairwise_singleton _ _, ?_⟩
      intro earlier there new added
      obtain rfl := List.mem_singleton.mp added
      exact h.sent earlier there
    case sent =>
      intro tagged there
      show tagged.index < session.sent + 1
      rw [← List.append_assoc] at there
      obtain there | rfl := List.mem_append.mp there |>.imp_right List.mem_singleton.mp
      · exact Nat.lt_succ_of_lt (h.sent tagged there)
      · exact Nat.lt_succ_self _
    case latest =>
      intro index _ waits
      cases waits
      rfl
    case open_slot => exact fun _ _ => rfl

theorem steps_answer {session : Session} (h : session.Coherent) (answer : Answer) :
    session.Steps (.answer answer) := by
  cases asked : session.requests with
  | nil =>
    refine steps_of_silent h ?_ (by simp)
    simp only [step, asked]
  | cons request rest =>
    have taken : session.step (.answer answer) = .ok (none, { session with
        requests := rest
        arriving := session.arriving ++ [⟨request.index, answer.to request.message⟩]
        answered := session.answered ++ [⟨request.index, answer.to request.message⟩] }) := by
      simp only [step, asked]
    obtain ⟨service, others⟩ := List.forall_mem_cons.mp (asked ▸ h.asked)
    have ordered := h.ordered
    have bound := h.sent
    rw [asked] at ordered bound
    -- the response takes the place of its request
    let response : Tagged := ⟨request.index, answer.to request.message⟩
    have shape : (session.arriving ++ request :: rest).map Tagged.index =
        (session.arriving ++ [response] ++ rest).map Tagged.index := by
      simp [response]
    refine steps_of_silent ?_ taken (by simp)
    constructor
    case registered => exact h.registered
    case asked => exact others
    case arrives =>
      intro response there
      obtain there | rfl := List.mem_append.mp there |>.imp_right List.mem_singleton.mp
      · obtain ⟨fits, service, known⟩ := h.arrives response there
        exact ⟨fits, service, List.mem_append_left _ known⟩
      · exact ⟨answer.fits, service, List.mem_append_right _ (List.mem_singleton_self _)⟩
    case ordered =>
      have indices := List.pairwise_map.mpr ordered
      rw [shape] at indices
      exact List.pairwise_map.mp indices
    case sent =>
      have bounds : ∀ index ∈ (session.arriving ++ request :: rest).map Tagged.index,
          index < session.sent := List.forall_mem_map.mpr bound
      rw [shape] at bounds
      exact List.forall_mem_map.mp bounds
    case latest => exact h.latest
    case open_slot => exact h.open_slot

theorem steps_drop {session : Session} (h : session.Coherent) : session.Steps .drop := by
  have fewer : (session.arriving ++ session.requests.tail).Sublist
      (session.arriving ++ session.requests) :=
    (List.Sublist.refl _).append (List.tail_sublist _)
  refine steps_of_silent ?_ rfl (by simp)
  constructor
  case registered => exact h.registered
  case asked => exact fun request there => h.asked request (List.mem_of_mem_tail there)
  case arrives => exact h.arrives
  case ordered => exact h.ordered.sublist fewer
  case sent => exact fun tagged there => h.sent tagged (fewer.subset there)
  case latest => exact h.latest
  case open_slot => exact h.open_slot

theorem steps_poll {session : Session} (h : session.Coherent) (arrivals : ℕ) (expired : Bool) :
    session.Steps (.poll arrivals expired) := by
  obtain ⟨slot, stored, polled, delivered⟩ := tryPoll_cases h arrivals
  have step_eq : session.step (.poll arrivals expired) = .ok (checkWaiting
      { session with arriving := session.arriving.drop arrivals, slot, stored } expired) := by
    simp only [step, polled]
    rfl
  cases waits : session.waiting with
  | none =>
    refine ⟨none, { session with arriving := session.arriving.drop arrivals, slot, stored }, ?_, ?_, ?_⟩
    · simp only [step_eq, checkWaiting, waits]
    · exact h.polled arrivals slot stored (by simp [waits])
    · refine iff_of_true (matched_silent _ _) ?_
      intro _ _ _ _ other
      rw [waits] at other
      cases other
  | some waiting =>
    obtain ⟨index, call⟩ := waiting
    cases expired with
    | true =>
      have taken : session.step (.poll arrivals true) =
          .ok (some ⟨index, call, true, none, result call.method none⟩,
            { session with
              arriving := session.arriving.drop arrivals
              slot
              stored
              waiting := none }) := by
        simp only [step_eq, checkWaiting, waits, if_true]
      refine ⟨_, _, taken, h.polled arrivals slot stored (by simp), ?_⟩
      refine iff_of_true ?_ (fun _ _ _ poll => by cases poll)
      rintro finished ⟨rfl⟩ inTime
      cases inTime
    | false =>
      obtain ⟨nothing, rfl⟩ | ⟨older, last, split, rfl, rfl⟩ := delivered
      · have closed := h.open_slot _ waits
        refine ⟨none, { session with arriving := session.arriving.drop arrivals, stored }, ?_, ?_, ?_⟩
        · simp only [step_eq, checkWaiting, waits, closed, Bool.false_eq_true, if_false]
        · exact h.polled arrivals session.slot stored (fun _ same => ⟨same, closed⟩)
        · refine iff_of_true (matched_silent _ _) ?_
          intro arrivals' _ _ poll _ some_arrive
          cases poll
          exact absurd nothing some_arrive
      · have whole : session.arriving = older ++ [last] ++ session.arriving.drop arrivals := by
          rw [← split, List.take_append_drop]
        have own := h.own_is_last waits whole
        rw [← split] at own
        have arrived : last ∈ session.arriving.take arrivals := by simp [split]
        obtain ⟨-, -, known⟩ := h.arrives last (List.mem_of_mem_take arrived)
        have taken : session.step (.poll arrivals false) =
            .ok (some ⟨index, call, false, some last,
                result call.method (some last.message.rpcPayload)⟩,
              { session with
                arriving := session.arriving.drop arrivals
                slot := ⟨[], true⟩
                stored := some last
                waiting := none }) := by
          simp only [step_eq, checkWaiting, waits, Bool.false_eq_true, if_false, if_true]
        refine ⟨_, _, taken, h.polled arrivals ⟨[], true⟩ (some last) (by simp), ?_⟩
        constructor
        · intro matched arrivals' index' call' poll waits' _
          cases poll
          obtain ⟨rfl, rfl⟩ : index = index' ∧ call = call' := by simpa [waits] using waits'
          obtain ⟨response, -, same, used, -⟩ := matched _ rfl rfl
          cases used
          exact own.mp same
        · rintro inTime finished ⟨rfl⟩ -
          have nonempty : session.arriving.take arrivals ≠ [] := List.ne_nil_of_mem arrived
          exact ⟨last, known, own.mpr (inTime arrivals index call rfl waits nonempty), rfl, rfl⟩

theorem steps {session : Session} (h : session.Coherent) (event : Event) : session.Steps event := by
  cases event with
  | call call => exact steps_call h call
  | answer answer => exact steps_answer h answer
  | drop => exact steps_drop h
  | poll arrivals expired => exact steps_poll h arrivals expired

theorem step_total {session : Session} (event : Event) (h : session.Coherent) :
    ∃ output session', session.step event = .ok (output, session') ∧ session'.Coherent := by
  obtain ⟨output, session', taken, coherent, -⟩ := steps h event
  exact ⟨output, session', taken, coherent⟩

/-- Whatever is called, answered, dropped and delivered: every call that ends before its deadline
has the answer to its own request exactly when every poll is in time. -/
theorem matched_iff_inTime (protocolVersion : UInt8) (events : List Event) :
    ∃ trace session, Run.play step [] (connected protocolVersion) events = .ok (trace, session) ∧
      ((∀ taken ∈ trace, Matched taken) ↔ Run.Every InTime trace) := by
  have start := coherent_connected protocolVersion
  obtain ⟨trace, session, played⟩ :=
    Run.exists_play (fun _ event h => step_total event h) events [] start
  refine ⟨trace, session, played, Run.all_iff_every start ?_ ?_ (Run.of_play .start played)⟩
  · intro session event output session' h taken
    obtain ⟨_, _, taken', coherent, -⟩ := steps h event
    cases taken.symm.trans taken'
    exact coherent
  · intro session event output session' h taken
    obtain ⟨_, _, taken', -, here⟩ := steps h event
    cases taken.symm.trans taken'
    exact here

/-- An `Activate` times out and is answered behind its deadline. The `TransferExit` called then is
refused, but gets the late answer first. -/
def lateAnswer : List Event :=
  [.call (.activate [] []), .poll 0 true, .answer ⟨1, 1, .eOK, [cWireOk], by decide⟩,
    .call (.transferExit 1), .answer ⟨1, 1, .eOK, [2], by decide⟩, .poll 1 false]

theorem not_always_matched : ∃ trace session,
    Run.play step [] (connected 1) lateAnswer = .ok (trace, session) ∧
      ¬ (∀ taken ∈ trace, Matched taken) ∧
      ∃ taken ∈ trace, ∃ finished, taken.output = some finished ∧
        finished.call = .transferExit 1 ∧ finished.timedOut = false ∧
        finished.returned = .ok .done ∧
        ∀ response ∈ session.answered, response.index = finished.index →
          result .transferExit (some response.message.rpcPayload) = .ok (.failed 2) := by
  refine ⟨_, _, rfl, ?_, ?_⟩
  · intro matched
    obtain ⟨_, -, own, used, -⟩ := matched _ List.mem_cons_self _ rfl rfl
    cases used
    exact absurd own (by decide)
  · refine ⟨_, List.mem_cons_self, _, rfl, rfl, rfl, rfl, ?_⟩
    decide

end Session
end PackageManagementProxy
end AdaptiveAutosar.PackageManagement
