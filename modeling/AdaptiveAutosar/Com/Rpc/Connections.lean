import AdaptiveAutosar.Com.Rpc.Socket

/-! # Successive connections of an RPC server

One `SocketRpcServer` serves one connection after the other with the same reassembly buffer and the
same sending queue. `onAccept` and the end of a connection leave both as they are.
-/

namespace AdaptiveAutosar.Com
open Foundations Foundations.Framing
set_option autoImplicit false

/-- The answers of the socket library and the poller while a connection is accepted. -/
structure AcceptSetup where
  tryAccept : Bool
  tryMakeConnectionNonblock : Bool
  tryAddReceiver : Bool
  tryAddSender : Bool

def SocketRpcServer.onAccept {σ : Type} (server : SocketRpcServer σ) (setup : AcceptSetup) :
    Outcome (SocketRpcServer σ) :=
  if !setup.tryAccept then
    .error (.thrown (.runtimeError "Accepting RPC client TCP connection failed."))
  else if !setup.tryMakeConnectionNonblock then
    .error (.thrown (.runtimeError "Making non-blocking TCP connection failed."))
  else if !setup.tryAddReceiver then
    .error (.thrown (.runtimeError "Adding TCP server socket receiver failed."))
  else if !setup.tryAddSender then
    .error (.thrown (.runtimeError "Adding TCP server socket sender failed."))
  else .ok server

/-- Accepting a connection does not touch the server's members. -/
theorem SocketRpcServer.onAccept_ok {σ : Type} {server server' : SocketRpcServer σ}
    {setup : AcceptSetup} (h : server.onAccept setup = .ok server') : server' = server := by
  obtain ⟨accepted, nonblock, receiver, sender⟩ := setup
  cases accepted with
  | false => simp [onAccept] at h
  | true =>
    cases nonblock with
    | false => simp [onAccept] at h
    | true =>
      cases receiver with
      | false => simp [onAccept] at h
      | true =>
        cases sender with
        | false => simp [onAccept] at h
        | true =>
          simp only [onAccept, Bool.not_true, Bool.false_eq_true, if_false, Except.ok.injEq] at h
          exact h.symm

/-- The server with the bytes received and the payloads sent on the current connection; its logs of
dispatched messages and of answers are those of the current connection too. -/
structure Session (σ : Type) where
  serving : Serving σ
  received : Bytes
  sent : List Bytes

inductive SessionAction where
  | accept (setup : AcceptSetup)
  /-- Some bytes arrive; none of them is the end of the connection. -/
  | receive (bytes : Bytes) (locks : ℕ → Bool)
  | send (locked : Bool)

namespace Session
variable {σ : Type}

def act (session : Session σ) : SessionAction → Outcome (Session σ)
  | .accept setup => do
    let socket ← session.serving.socket.onAccept setup
    pure { serving := { session.serving with socket, calls := [], dispatched := [], answered := [] }
           received := [], sent := [] }
  | .receive bytes locks => do
    let serving ← session.serving.onReceive bytes locks
    pure { session with serving, received := session.received ++ bytes }
  | .send locked =>
    let (serving, payload) := session.serving.onSend locked
    .ok { session with serving, sent := if payload = [] then session.sent else session.sent ++ [payload] }

def run (session : Session σ) (actions : List SessionAction) : Outcome (Session σ) :=
  actions.foldlM act session

/-- What was dispatched is framed from what this connection received, and what was sent answers
messages this connection dispatched. -/
def Isolated (session : Session σ) : Prop :=
  session.serving.dispatched = (someIp.split session.received).1 ∧
    session.sent.Sublist session.serving.answered

instance (session : Session σ) : Decidable session.Isolated := by
  unfold Isolated
  infer_instance

/-- Nothing of an earlier connection is left. -/
def Clean (session : Session σ) : Prop :=
  session.serving.socket.receiveBuffer = [] ∧ session.serving.socket.sendingQueue = []

/-- Every connection of the run is accepted with nothing left of the one before. -/
def AcceptsClean (init : Session σ) (actions : List SessionAction) : Prop :=
  ∀ before setup after session, actions = before ++ .accept setup :: after →
    init.run before = .ok session → session.Clean

/-! ## One message -/

/-- A handled message is logged, and its response is queued unless the queue is locked. -/
theorem handleMessage_ok {serving serving' : Serving σ} {locks : ℕ → Bool} {message : Bytes}
    (h : serving.handleMessage locks message = .ok serving') :
    serving'.dispatched = serving.dispatched ++ [message] ∧
      serving'.socket.receiveBuffer = serving.socket.receiveBuffer ∧
      ∃ answers queued, queued.Sublist answers ∧ serving'.answered = serving.answered ++ answers ∧
        serving'.socket.sendingQueue = serving.socket.sendingQueue ++ queued := by
  unfold Serving.handleMessage at h
  cases hr : (serving.socket.tryInvokeHandler message [] serving.state).result with
  | error e =>
    simp only [hr] at h
    cases h
  | ok handled =>
    simp only [hr] at h
    cases handled with
    | false =>
      simp only [Bool.false_eq_true, if_false, Except.ok.injEq] at h
      subst h
      exact ⟨rfl, rfl, [], [], List.Sublist.refl _, by rw [List.append_nil], by rw [List.append_nil]⟩
    | true =>
      simp only [if_true, Except.ok.injEq] at h
      subst h
      refine ⟨rfl, rfl, [(serving.socket.tryInvokeHandler message [] serving.state).responsePayload], ?_⟩
      cases hlock : locks serving.enqueues with
      | true =>
        refine ⟨_, List.Sublist.refl _, rfl, ?_⟩
        simp only [ConcurrentQueue.tryEnqueue, if_true]
      | false =>
        refine ⟨[], List.nil_sublist _, rfl, ?_⟩
        simp only [ConcurrentQueue.tryEnqueue, Bool.false_eq_true, if_false, List.append_nil]

theorem handleMessages_ok {locks : ℕ → Bool} (messages : List Bytes) {serving serving' : Serving σ}
    (h : messages.foldlM (Serving.handleMessage locks) serving = .ok serving') :
    serving'.dispatched = serving.dispatched ++ messages ∧
      ∃ answers queued, queued.Sublist answers ∧ serving'.answered = serving.answered ++ answers ∧
        serving'.socket.sendingQueue = serving.socket.sendingQueue ++ queued := by
  induction messages generalizing serving with
  | nil =>
    cases h
    exact ⟨by rw [List.append_nil], [], [], List.Sublist.refl _, by rw [List.append_nil],
      by rw [List.append_nil]⟩
  | cons message messages ih =>
    rw [List.foldlM_cons] at h
    obtain ⟨next, hstep, hrest⟩ := bind_eq_ok.mp h
    obtain ⟨hd1, -, answers1, queued1, hsub1, ha1, hq1⟩ := handleMessage_ok hstep
    obtain ⟨hd2, answers2, queued2, hsub2, ha2, hq2⟩ := ih hrest
    refine ⟨?_, answers1 ++ answers2, queued1 ++ queued2, hsub1.append hsub2, ?_, ?_⟩
    · rw [hd2, hd1, List.append_assoc]
      rfl
    · rw [ha2, ha1, List.append_assoc]
    · rw [hq2, hq1, List.append_assoc]

/-! ## The invariant -/

/-- The buffer holds the unfinished message of this connection and the queue its own responses. -/
structure Tidy (session : Session σ) : Prop where
  dispatched : session.serving.dispatched = (someIp.split session.received).1
  buffer : session.serving.socket.receiveBuffer = (someIp.split session.received).2
  queue : (session.sent ++ session.serving.socket.sendingQueue).Sublist session.serving.answered

theorem Tidy.isolated {session : Session σ} (h : Tidy session) : session.Isolated :=
  ⟨h.dispatched, (List.sublist_append_left _ _).trans h.queue⟩

theorem split_nil : someIp.split [] = ([], []) := split_none first_nil

theorem tidy_accept {session session' : Session σ} {setup : AcceptSetup}
    (h : session.act (.accept setup) = .ok session') (hclean : session.Clean) : Tidy session' := by
  obtain ⟨socket, hsocket, h⟩ := bind_eq_ok.mp h
  have hsame := SocketRpcServer.onAccept_ok hsocket
  subst hsame
  cases h
  refine ⟨?_, ?_, ?_⟩
  · rw [split_nil]
  · rw [split_nil]
    exact hclean.1
  · show ([] ++ session.serving.socket.sendingQueue).Sublist []
    rw [hclean.2]
    exact List.Sublist.refl _

theorem tidy_receive {session session' : Session σ} {bytes : Bytes} {locks : ℕ → Bool}
    (h : session.act (.receive bytes locks) = .ok session') (htidy : Tidy session) : Tidy session' := by
  obtain ⟨serving, hserving, h⟩ := bind_eq_ok.mp h
  cases h
  unfold Serving.onReceive at hserving
  by_cases hnil : bytes = []
  · -- the end of the connection runs the application's handler and nothing else
    subst hnil
    rw [if_pos rfl] at hserving
    cases hd : session.serving.socket.disconnectHandler with
    | none =>
      simp only [hd] at hserving
      cases hserving
      refine ⟨?_, ?_, htidy.queue⟩
      · rw [List.append_nil]
        exact htidy.dispatched
      · rw [List.append_nil]
        exact htidy.buffer
    | some handler =>
      simp only [hd] at hserving
      cases hserving
      refine ⟨?_, ?_, htidy.queue⟩
      · rw [List.append_nil]
        exact htidy.dispatched
      · rw [List.append_nil]
        exact htidy.buffer
  · rw [if_neg hnil] at hserving
    obtain ⟨⟨rest, next⟩, hdrain, hserving⟩ := bind_eq_ok.mp hserving
    cases hserving
    rw [drain_eq] at hdrain
    obtain ⟨next', hfold, hpair⟩ : ∃ next', (someIp.split (session.serving.socket.receiveBuffer ++
        bytes)).1.foldlM (Serving.handleMessage locks) session.serving = .ok next' ∧
        ((someIp.split (session.serving.socket.receiveBuffer ++ bytes)).2, next') = (rest, next) := by
      cases hf : (someIp.split (session.serving.socket.receiveBuffer ++ bytes)).1.foldlM
        (Serving.handleMessage locks) session.serving with
      | error e =>
        rw [hf] at hdrain
        cases hdrain
      | ok next' =>
        rw [hf] at hdrain
        exact ⟨next', rfl, by simpa [Except.map] using hdrain⟩
    cases hpair
    obtain ⟨hd, answers, queued, hsub, ha, hq⟩ := handleMessages_ok _ hfold
    have hsplit := split_append (F := someIp) session.received bytes
    rw [← htidy.buffer] at hsplit
    refine ⟨?_, ?_, ?_⟩
    · rw [hsplit, hd, htidy.dispatched]
    · rw [hsplit]
    · show (session.sent ++ next.socket.sendingQueue).Sublist next.answered
      rw [hq, ha, ← List.append_assoc]
      exact htidy.queue.append hsub

theorem tidy_send {session session' : Session σ} {locked : Bool}
    (h : session.act (.send locked) = .ok session') (htidy : Tidy session) : Tidy session' := by
  have hqueue := htidy.queue
  cases hq : session.serving.socket.sendingQueue with
  | nil =>
    simp only [act, Serving.onSend, sendRound, ConcurrentQueue.tryDequeue, hq, if_true,
      Except.ok.injEq] at h
    subst h
    refine ⟨htidy.dispatched, htidy.buffer, ?_⟩
    rw [hq] at hqueue
    exact hqueue
  | cons payload queue =>
    rw [hq] at hqueue
    cases locked with
    | false =>
      simp only [act, Serving.onSend, sendRound, ConcurrentQueue.tryDequeue, hq, Bool.false_eq_true,
        if_false, if_true, Except.ok.injEq] at h
      subst h
      exact ⟨htidy.dispatched, htidy.buffer, hqueue⟩
    | true =>
      simp only [act, Serving.onSend, sendRound, ConcurrentQueue.tryDequeue, hq, if_true,
        Except.ok.injEq] at h
      subst h
      refine ⟨htidy.dispatched, htidy.buffer, ?_⟩
      by_cases hp : payload = []
      · simp only [hp, if_true]
        refine List.Sublist.trans ?_ hqueue
        exact (List.Sublist.refl _).append (List.sublist_cons_self _ _)
      · simp only [hp, if_false, List.append_assoc]
        exact hqueue

/-! ## Whole runs -/

theorem tidy_run (actions : List SessionAction) (init : Session σ) (htidy : Tidy init)
    (haccepts : AcceptsClean init actions) {session : Session σ}
    (h : init.run actions = .ok session) : Tidy session := by
  induction actions generalizing init with
  | nil =>
    cases h
    exact htidy
  | cons action actions ih =>
    unfold run at h
    rw [List.foldlM_cons] at h
    obtain ⟨next, hstep, hrest⟩ := bind_eq_ok.mp h
    have hnext : Tidy next := by
      cases action with
      | accept setup => exact tidy_accept hstep (haccepts [] setup actions init rfl rfl)
      | receive bytes locks => exact tidy_receive hstep htidy
      | send locked => exact tidy_send hstep htidy
    refine ih next hnext ?_ hrest
    intro before setup after s hsplit hrun
    refine haccepts (action :: before) setup after s ?_ ?_
    · rw [hsplit]
      rfl
    · unfold run at hrun ⊢
      rw [List.foldlM_cons, hstep]
      exact hrun

/-- A server before its first connection. -/
structure Unused (session : Session σ) : Prop where
  clean : session.Clean
  dispatched : session.serving.dispatched = []
  answered : session.serving.answered = []
  received : session.received = []
  sent : session.sent = []

/-- Connections are isolated in every run that accepts each of them with nothing left behind. -/
theorem isolated_of_acceptsClean (init : Session σ) (hinit : init.Unused)
    (actions : List SessionAction) (haccepts : AcceptsClean init actions) (session : Session σ)
    (h : init.run actions = .ok session) : session.Isolated := by
  have htidy : Tidy init := by
    refine ⟨?_, ?_, ?_⟩
    · rw [hinit.dispatched, hinit.received, split_nil]
    · rw [hinit.clean.1, hinit.received, split_nil]
    · rw [hinit.clean.2, hinit.sent, hinit.answered]
      exact List.Sublist.refl _
  exact (tidy_run actions init htidy haccepts h).isolated

/-! ## Runs -/

/-- A server with one method that answers with a byte. -/
def sampleSession : Session Unit where
  serving :=
    { socket :=
        { protocolVersion := 1, interfaceVersion := 1, services := [1]
          handlers := fun id => if id = 0x00010002 then some (fun _ s => (.ok (true, [42]), s)) else none
          receiveBuffer := [], sendingQueue := [], disconnectHandler := none }
      state := (), calls := [], dispatched := [], answered := [], enqueues := 0 }
  received := []
  sent := []

def accepted : SessionAction := .accept ⟨true, true, true, true⟩

def sampleRequest : Bytes := [0, 1, 0, 2, 0, 0, 0, 8, 0, 5, 0, 1, 1, 1, 0, 0]

def arrived (bytes : Bytes) : SessionAction := .receive bytes (fun _ => true)

theorem AcceptsClean.nil (init : Session σ) : AcceptsClean init [] := by
  intro before setup after s hsplit _
  cases before <;> cases hsplit

theorem AcceptsClean.cons {init next : Session σ} {action : SessionAction}
    {actions : List SessionAction} (hclean : ∀ setup, action = .accept setup → init.Clean)
    (hstep : init.act action = .ok next) (hrest : AcceptsClean next actions) :
    AcceptsClean init (action :: actions) := by
  intro before setup after s hsplit hrun
  cases before with
  | nil =>
    cases hsplit
    cases hrun
    exact hclean setup rfl
  | cons head before =>
    cases hsplit
    unfold run at hrun
    rw [List.foldlM_cons, hstep] at hrun
    exact hrest before setup after s rfl hrun

/-- A connection that ends behind its response, and another one. -/
def orderly : List SessionAction :=
  [accepted, arrived sampleRequest, .send true, arrived [], accepted, arrived sampleRequest]

theorem isolated_of_acceptsClean_sample :
    ∃ session, sampleSession.run orderly = .ok session ∧ session.Isolated := by
  have hunused : sampleSession.Unused := ⟨⟨rfl, rfl⟩, rfl, rfl, rfl, rfl⟩
  have haccepts : AcceptsClean sampleSession orderly :=
    .cons (fun _ _ => ⟨rfl, rfl⟩) rfl (.cons (fun _ h => by cases h) rfl
      (.cons (fun _ h => by cases h) rfl (.cons (fun _ h => by cases h) rfl
        (.cons (fun _ _ => ⟨rfl, rfl⟩) rfl (.cons (fun _ h => by cases h) rfl (.nil _))))))
  exact ⟨_, rfl, isolated_of_acceptsClean sampleSession hunused orderly haccepts _ rfl⟩

/-- The first connection ends behind the eighth byte of a request. -/
def staleBuffer : List SessionAction :=
  [accepted, arrived (sampleRequest.take 8), arrived [], accepted, arrived sampleRequest]

/-- The first connection ends before the response to its request is sent. -/
def staleQueue : List SessionAction :=
  [accepted, arrived sampleRequest, arrived [], accepted, .send true]

theorem not_isolated :
    sampleSession.Unused ∧ (∃ session, sampleSession.run staleBuffer = .ok session ∧ ¬ session.Isolated) ∧
      ∃ session, sampleSession.run staleQueue = .ok session ∧ ¬ session.Isolated := by
  refine ⟨⟨⟨rfl, rfl⟩, rfl, rfl, rfl, rfl⟩, ⟨_, rfl, ?_⟩, ⟨_, rfl, ?_⟩⟩
  · decide
  · decide

end Session

end AdaptiveAutosar.Com
