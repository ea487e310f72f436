import AdaptiveAutosar.Application.DiagnosticLink
import AdaptiveAutosar.Foundations.Packets

/-! # What is on its way between a query and its answer

The requests and the responses in the queues and in the packets, and what every step does to them.
-/

namespace AdaptiveAutosar.Application
open Foundations Foundations.BigEndian Com Diag
set_option autoImplicit false

namespace DiagnosticLink
open ObdToDoipConverter ReadDataByIdentifier

/-- The messages in the queues and on their way, the oldest first: those for the identification are `none`. -/
structure Traffic where
  queued : List (Option UInt8)
  asking : List (Option UInt8)
  answering : List (Option (UInt8 × Option Bytes))
  returning : List (Option (UInt8 × Option Bytes))

def Traffic.requests (traffic : Traffic) : List (Option UInt8) := traffic.asking ++ traffic.queued

def Traffic.responses (traffic : Traffic) : List (Option (UInt8 × Option Bytes)) :=
  traffic.returning ++ traffic.answering

def answersOf (responses : List (Option (UInt8 × Option Bytes))) : List (UInt8 × Bytes) :=
  responses.filterMap fun response => response.bind answerOf

/-- The requests and responses are those that are missing in what is seen of the run. -/
structure Accounts (vehicle : DoipVehicle) (trace : List LinkTaken) (requests : List (Option UInt8))
    (responses : List (Option (UInt8 × Option Bytes))) : Prop where
  forwards : forwarded trace = (served vehicle trace).map Prod.fst ++ requests.filterMap id
  delivers : (delivered trace ++ answersOf responses).Sublist (answered vehicle trace)
  loses : (answered vehicle trace).length ≤ (delivered trace ++ answersOf responses).length + lost trace
  current : ∀ taken older, taken :: older <:+ trace → ∀ pid value, servedOf vehicle taken = some (pid, some value) →
    Current vehicle taken older pid value

structure Carried (vehicle : DoipVehicle) (trace : List LinkTaken) (link : DiagnosticLink) (traffic : Traffic) : Prop
    extends Accounts vehicle trace traffic.requests traffic.responses where
  address : link.client.logicalAddress = none ∨ link.client.logicalAddress = some vehicle.logicalAddress
  clientQueue : link.client.sendQueue = traffic.queued.map (sent vehicle)
  toServer : Packets cDoipPacketSize (traffic.asking.map (sent vehicle)) link.toServer
  serverQueue : link.server.sendQueue = traffic.answering.map (returned vehicle)
  toClient : Packets cDoipPacketSize (traffic.returning.map (returned vehicle)) link.toClient
  asked : ∀ pid, some pid ∈ traffic.requests → pid ∈ cDoipPids
  short : ∀ response ∈ traffic.responses, Short response
  lifetime : link.server.state.lifetime = cCacheLifetime
  caches : Caches (Held vehicle trace) link.server.state
  /-- Unless a response was lost, the identification is on its way or known. -/
  known : lost trace = 0 → none ∈ traffic.requests ∨ none ∈ traffic.responses ∨
    link.client.logicalAddress = some vehicle.logicalAddress

section Accounting
variable {vehicle : DoipVehicle} {trace : List LinkTaken} {requests requests' : List (Option UInt8)}
  {responses responses' : List (Option (UInt8 × Option Bytes))}

theorem answered_cons (taken : LinkTaken) (trace : List LinkTaken) :
    answered vehicle (taken :: trace) =
      answered vehicle trace ++ ((servedOf vehicle taken).bind answerOf).toList := by
  rw [answered, served, Run.seen_cons, List.filterMap_append]
  cases servedOf vehicle taken with
  | none => rfl
  | some reading =>
    cases here : answerOf reading with
    | none => rw [Option.toList_some, List.filterMap_cons_none here, Option.bind_some, here]; rfl
    | some answer => rw [Option.toList_some, List.filterMap_cons_some here, Option.bind_some, here]; rfl

theorem lost_cons (taken : LinkTaken) (trace : List LinkTaken) :
    lost (taken :: trace) = lost trace + if Loses taken then 1 else 0 :=
  List.countP_cons

theorem Accounts.next (accounts : Accounts vehicle trace requests responses) (taken : LinkTaken)
    (forwards : requests.filterMap id ++ (forwardedOf taken).toList =
      ((servedOf vehicle taken).map Prod.fst).toList ++ requests'.filterMap id)
    (delivers : ((deliveredOf taken).toList ++ answersOf responses').Sublist
      (answersOf responses ++ ((servedOf vehicle taken).bind answerOf).toList))
    (loses : (answersOf responses ++ ((servedOf vehicle taken).bind answerOf).toList).length ≤
      ((deliveredOf taken).toList ++ answersOf responses').length + if Loses taken then 1 else 0)
    (current : ∀ pid value, servedOf vehicle taken = some (pid, some value) →
      Current vehicle taken trace pid value) :
    Accounts vehicle (taken :: trace) requests' responses' where
  forwards := by
    have behind : (served vehicle (taken :: trace)).map Prod.fst =
        (served vehicle trace).map Prod.fst ++ ((servedOf vehicle taken).map Prod.fst).toList := by
      rw [served, Run.seen_cons, List.map_append]
      cases servedOf vehicle taken with
      | none => rfl
      | some reading => rfl
    rw [forwarded, Run.seen_cons, behind, List.append_assoc, ← forwards, ← List.append_assoc]
    exact congrArg (· ++ (forwardedOf taken).toList) accounts.forwards
  delivers := by
    rw [delivered, Run.seen_cons, List.append_assoc, answered_cons]
    refine (delivers.append_left _).trans ?_
    rw [← List.append_assoc]
    exact accounts.delivers.append_right _
  loses := by
    have before := accounts.loses
    have shown : (delivered (taken :: trace)).length =
        (delivered trace).length + (deliveredOf taken).toList.length := by
      rw [delivered, Run.seen_cons, List.length_append]
      rfl
    rw [answered_cons, lost_cons]
    simp only [List.length_append] at before loses shown ⊢
    omega
  current := by
    intro newest older suffix
    rcases List.suffix_cons_iff.mp suffix with same | earlier
    · obtain ⟨rfl, rfl⟩ := List.cons.inj same
      exact current
    · exact accounts.current newest older earlier

end Accounting

section Steps
variable {vehicle : DoipVehicle} {trace : List LinkTaken} {link : DiagnosticLink} {traffic : Traffic}

theorem Held.cons {did : UInt16} {time : ℤ} {value : Bytes} (held : Held vehicle trace did time value)
    (taken : LinkTaken) : Held vehicle (taken :: trace) did time value := by
  obtain ⟨earlier, there, rest⟩ := held
  exact ⟨earlier, List.mem_cons_of_mem taken there, rest⟩

theorem lost_of_cons {taken : LinkTaken} (none_lost : lost (taken :: trace) = 0) :
    Loses taken = false ∧ lost trace = 0 := by
  have counted := lost_cons taken trace
  cases loses : Loses taken with
  | false =>
    rw [loses] at counted
    exact ⟨rfl, counted.symm.trans none_lost⟩
  | true =>
    rw [loses, none_lost] at counted
    cases counted

/-- A step that nothing is seen of changes nothing that counts. -/
theorem Accounts.idle {requests : List (Option UInt8)} {responses : List (Option (UInt8 × Option Bytes))}
    (accounts : Accounts vehicle trace requests responses) {taken : LinkTaken} (forwards : forwardedOf taken = none)
    (delivers : deliveredOf taken = none) (serves : servedOf vehicle taken = none) :
    Accounts vehicle (taken :: trace) requests responses := by
  apply accounts.next taken
  · rw [forwards, serves]
    exact List.append_nil _
  · rw [delivers, serves]
    exact (List.append_nil (answersOf responses)).symm ▸ List.Sublist.refl _
  · rw [delivers, serves]
    exact ((congrArg List.length (List.append_nil _)).trans_le (Nat.le_add_right _ _))
  · intro pid value found
    cases serves.symm.trans found

theorem Carried.idle (carried : Carried vehicle trace link traffic) (taken : LinkTaken)
    (forwards : forwardedOf taken = none) (delivers : deliveredOf taken = none)
    (serves : servedOf vehicle taken = none) : Carried vehicle (taken :: trace) link traffic :=
  { carried with
    toAccounts := carried.toAccounts.idle forwards delivers serves
    caches := carried.caches.mono fun _ _ _ held => held.cons taken
    known := fun none_lost => carried.known (lost_of_cons none_lost).2 }

/-! ## The server -/

theorem front_of_packets {message : Bytes} {messages : List Bytes} {stream : Bytes}
    (packets : Packets cDoipPacketSize (message :: messages) stream) {count : ℕ} (whole : cDoipPacketSize ≤ count)
    (buffer : Block cDoipPacketSize) :
    ∃ padding, ((Segment.front stream count).receive buffer).bytes = message ++ padding ∧
      Packets cDoipPacketSize messages (stream.drop (Segment.front stream count).data.length) := by
  have there : cDoipPacketSize ≤ stream.length := packets.size_le
  have size : (Segment.front stream count).data.length = cDoipPacketSize := by
    show (stream.take (min count cDoipPacketSize)).length = cDoipPacketSize
    rw [Nat.min_eq_right whole, List.length_take_of_le there]
  obtain ⟨padding, front, rest⟩ := packets.take
  exact ⟨padding, (Segment.front_receive whole there buffer).trans front, size.symm ▸ rest⟩

theorem servedOf_request {count : ℕ} {buffer : Block cDoipPacketSize} {request : Option UInt8} {padding : Bytes}
    (bytes : ((Segment.front link.toServer count).receive buffer).bytes = sent vehicle request ++ padding)
    (alive : link.server.fault = none) (lookUp : LookUp) (locked : Bool) (output : LinkReport) :
    servedOf vehicle ⟨link, .serverReceive count buffer lookUp locked, output⟩ = request.map fun pid =>
      (pid, valueOf (DiagMessageHandler.route (vehicle.environment lookUp) link.server.state
        [ObdToDoipConverter.cSid, cDidMsb, pid]).1) := by
  unfold servedOf
  dsimp only
  rw [if_pos alive, bytes, sent, vehicle.library.read_serialize _ (requestOf_fits request)]
  cases request with
  | none => rfl
  | some pid => rfl

/-- What the server makes of a request in a step, whose response would be the one to this reading. -/
structure Served (vehicle : DoipVehicle) (trace : List LinkTaken) (taken : LinkTaken) (lookUp : LookUp)
    (request : Option UInt8) (reading : Option (UInt8 × Option Bytes)) (outcome : Outcome (Option Bytes))
    (after : ResponseCache) : Prop where
  serves : servedOf vehicle taken = reading
  same : reading.map Prod.fst = request
  answers : outcome = .ok (some (returned vehicle reading)) ∨
    ∃ pid ∈ request, reading = some (pid, none) ∧ ¬ Readable (vehicle.environment lookUp) (didOf pid) ∧
      ∀ response, outcome ≠ .ok (some response)
  short : Short reading
  current : ∀ pid value, servedOf vehicle taken = some (pid, some value) → Current vehicle taken trace pid value
  lifetime : after.lifetime = cCacheLifetime
  caches : Caches (Held vehicle (taken :: trace)) after

theorem Carried.served {request : Option UInt8} {queued asking : List (Option UInt8)}
    {answering returning : List (Option (UInt8 × Option Bytes))}
    (carried : Carried vehicle trace link ⟨queued, request :: asking, answering, returning⟩)
    (alive : link.server.fault = none) {count : ℕ} {buffer : Block cDoipPacketSize} {padding : Bytes}
    (bytes : ((Segment.front link.toServer count).receive buffer).bytes = sent vehicle request ++ padding)
    (lookUp : LookUp) (locked : Bool) :
    ∃ reading outcome after,
      (vehicle.controller lookUp).tryHandle link.server.state
          ((Segment.front link.toServer count).receive buffer).bytes = (outcome, after) ∧
      Served vehicle trace ⟨link, .serverReceive count buffer lookUp locked, .nothing⟩ lookUp request reading outcome
        after := by
  have serves := servedOf_request bytes alive lookUp locked .nothing
  rw [bytes, tryHandle_sent request lookUp]
  cases request with
  | none =>
    refine ⟨none, _, _, handle_identification lookUp link.server.state, serves, rfl, .inl rfl, ?_, ?_,
      carried.lifetime, carried.caches.mono fun _ _ _ held => held.cons _⟩
    · intro pid value impossible
      cases impossible
    · intro pid value impossible
      cases serves.symm.trans impossible
  | some pid =>
    have asked : pid ∈ cDoipPids := carried.asked pid (List.mem_append_left queued List.mem_cons_self)
    have small (did : UInt16) (time : ℤ) (value : Bytes) (held : Held vehicle trace did time value) :
        value.length ≤ 4 := by
      obtain ⟨_, _, _, _, _, _, _, reads, _⟩ := held
      exact reads.length_le
    obtain ⟨value, outcome, after, handled, same, made⟩ :=
      handle_parameter carried.caches carried.lifetime small lookUp asked
    have reading : servedOf vehicle ⟨link, .serverReceive count buffer lookUp locked, .nothing⟩ = some (pid, value) :=
      same ▸ serves
    refine ⟨some (pid, value), outcome, after, handled, reading, rfl, made.answers.imp_right ?_, ?_, ?_, made.lifetime,
      made.caches.mono ?_⟩
    · rintro ⟨rfl, unreadable, silent⟩
      exact ⟨pid, rfl, rfl, unreadable, silent⟩
    · rintro _ found ⟨⟩
      exact made.short found rfl
    · intro other found answered
      cases reading.symm.trans answered
      exact ⟨lookUp, rfl, made.current found rfl⟩
    · rintro did time found (was | ⟨rfl, rfl, reads, added⟩)
      · exact was.cons _
      · exact ⟨_, List.mem_cons_self, pid, lookUp, rfl, reading, rfl, reads, added⟩

theorem answersOf_append (responses more : List (Option (UInt8 × Option Bytes))) :
    answersOf (responses ++ more) = answersOf responses ++ answersOf more :=
  List.filterMap_append

theorem answersOf_singleton (response : Option (UInt8 × Option Bytes)) :
    answersOf [response] = (response.bind answerOf).toList := by
  cases response with
  | none => rfl
  | some reading =>
    obtain ⟨pid, value⟩ := reading
    cases value with
    | none => rfl
    | some value => rfl

/-- The response to a request is enqueued, unless it is lost or there is none. -/
theorem Accounts.serve {request : Option UInt8} {requests : List (Option UInt8)}
    {responses : List (Option (UInt8 × Option Bytes))} {taken : LinkTaken}
    {reading : Option (UInt8 × Option Bytes)} (accounts : Accounts vehicle trace (request :: requests) responses)
    (forwards : forwardedOf taken = none) (delivers : deliveredOf taken = none)
    (serves : servedOf vehicle taken = reading) (same : reading.map Prod.fst = request)
    (current : ∀ pid value, servedOf vehicle taken = some (pid, some value) → Current vehicle taken trace pid value)
    {enqueued : List (Option (UInt8 × Option Bytes))}
    (either : enqueued = [reading] ∨ enqueued = [] ∧ (Loses taken = true ∨ reading.bind answerOf = none)) :
    Accounts vehicle (taken :: trace) requests (responses ++ enqueued) := by
  apply accounts.next taken
  · rw [forwards, serves, same]
    cases request with
    | none => exact List.append_nil _
    | some pid => exact List.append_nil _
  · rw [delivers, serves, answersOf_append]
    refine List.Sublist.append_left ?_ (answersOf responses)
    rcases either with rfl | ⟨rfl, -⟩
    · rw [answersOf_singleton]
    · exact List.nil_sublist _
  · have one : (reading.bind answerOf).toList.length ≤ 1 := Option.length_toList_le
    have nothing : answersOf [] = [] := rfl
    rw [delivers, serves, answersOf_append]
    simp only [List.length_append, Option.toList_none, List.length_nil]
    rcases either with rfl | ⟨rfl, lost | silent⟩
    · rw [answersOf_singleton]
      omega
    · rw [lost, if_pos rfl, nothing, List.length_nil]
      omega
    · rw [silent, nothing, Option.toList_none, List.length_nil]
      omega
  · exact current

/-- The response is enqueued, unless the queue does not take it or there is none. -/
theorem Served.received {request : Option UInt8} {reading : Option (UInt8 × Option Bytes)} {taken : LinkTaken}
    {lookUp : LookUp} {outcome : Outcome (Option Bytes)} {after : ResponseCache} {server : DoipServer ResponseCache}
    {segment : Segment} {buffer : Block cDoipPacketSize}
    (made : Served vehicle trace taken lookUp request reading outcome after)
    (handled : (vehicle.controller lookUp).tryHandle server.state (segment.receive buffer).bytes = (outcome, after))
    (alive : server.fault = none) (asked : ∀ pid ∈ request, pid ∈ cDoipPids) {locked : Bool}
    (loses : locked = false → Loses taken = true) :
    ∃ server' enqueued, server.onReceive (vehicle.controller lookUp) segment buffer locked = server' ∧
      server'.sendQueue = server.sendQueue ++ enqueued.map (returned vehicle) ∧ server'.state = after ∧
      (enqueued = [reading] ∨
        enqueued = [] ∧ (Loses taken = true ∨ reading.bind answerOf = none ∧ reading ≠ none)) ∧
      ((∀ pid ∈ cDoipPids, Readable (vehicle.environment lookUp) (didOf pid)) → server'.fault = none) := by
  rcases made.answers with rfl | ⟨pid, there, rfl, unreadable, silent⟩
  · have received := DoipServer.onReceive_response handled locked
    cases locked with
    | true => exact ⟨_, [reading], received, rfl, rfl, .inl rfl, fun _ => alive⟩
    | false =>
      exact ⟨_, [], received, (List.append_nil _).symm, rfl, .inr ⟨rfl, .inl (loses rfl)⟩, fun _ => alive⟩
  · obtain ⟨fault, received⟩ := DoipServer.onReceive_silent handled silent locked
    refine ⟨_, [], received, (List.append_nil _).symm, rfl, .inr ⟨rfl, .inr ⟨rfl, Option.some_ne_none _⟩⟩, ?_⟩
    intro readable
    exact absurd (readable pid (asked pid there)) unreadable

theorem Carried.serverReceive {request : Option UInt8} {queued asking : List (Option UInt8)}
    {answering returning : List (Option (UInt8 × Option Bytes))}
    (carried : Carried vehicle trace link ⟨queued, request :: asking, answering, returning⟩)
    (alive : link.server.fault = none) {count : ℕ} (whole : cDoipPacketSize ≤ count) (buffer : Block cDoipPacketSize)
    (lookUp : LookUp) (locked : Bool) :
    ∃ link' enqueued,
      step vehicle link (.serverReceive count buffer lookUp locked) = .ok (.nothing, link') ∧
      Carried vehicle (⟨link, .serverReceive count buffer lookUp locked, .nothing⟩ :: trace) link'
        ⟨queued, asking, answering ++ enqueued, returning⟩ ∧
      enqueued.length ≤ 1 ∧
      ((∀ pid ∈ cDoipPids, Readable (vehicle.environment lookUp) (didOf pid)) → link'.server.fault = none) := by
  obtain ⟨padding, bytes, rest⟩ := front_of_packets carried.toServer whole buffer
  obtain ⟨reading, outcome, after, handled, made⟩ := carried.served alive bytes lookUp locked
  have asked (pid : UInt8) (there : pid ∈ request) : pid ∈ cDoipPids :=
    carried.asked pid (List.mem_append_left queued (Option.mem_def.mp there ▸ List.mem_cons_self))
  have loses (same : locked = false) :
      Loses (⟨link, .serverReceive count buffer lookUp locked, .nothing⟩ : LinkTaken) = true := by
    show (link.server.fault.isNone && !locked) = true
    rw [alive, same]
    rfl
  obtain ⟨server, enqueued, received, queue, state, either, stays⟩ := made.received handled alive asked loses
  have before : Accounts vehicle trace (request :: (asking ++ queued)) (returning ++ answering) := carried.toAccounts
  have behind := before.serve rfl rfl made.serves made.same made.current
    (either.imp_right fun ⟨none_enqueued, why⟩ => ⟨none_enqueued, why.imp_right And.left⟩)
  rw [List.append_assoc] at behind
  refine ⟨_, enqueued, step_serverReceive alive received, ?_, ?_, stays⟩
  · refine
      { toAccounts := behind
        address := carried.address
        clientQueue := carried.clientQueue
        toServer := rest
        serverQueue := ?_
        toClient := carried.toClient
        asked := fun pid later => carried.asked pid (List.mem_cons_of_mem request later)
        short := ?_
        lifetime := state.symm ▸ made.lifetime
        caches := state.symm ▸ made.caches
        known := ?_ }
    · show server.sendQueue = (answering ++ enqueued).map (returned vehicle)
      rw [queue, carried.serverQueue, List.map_append]
    · intro response there
      have parts : response ∈ (returning ++ answering) ++ enqueued := (List.append_assoc _ _ _).symm ▸ there
      rcases List.mem_append.mp parts with earlier | new
      · exact carried.short response earlier
      · rcases either with rfl | ⟨rfl, -⟩
        · exact List.mem_singleton.mp new ▸ made.short
        · cases new
    · intro none_lost
      obtain ⟨kept, none_before⟩ := lost_of_cons none_lost
      have responses (response : Option (UInt8 × Option Bytes)) (there : response ∈ returning ++ answering) :
          response ∈ returning ++ (answering ++ enqueued) :=
        List.append_assoc _ _ _ ▸ List.mem_append_left enqueued there
      rcases carried.known none_before with asking | answering | known
      · rcases List.mem_cons.mp asking with first | later
        · have identification : reading = none := Option.map_eq_none_iff.mp (made.same.trans first.symm)
          rcases either with rfl | ⟨-, lost | ⟨-, other⟩⟩
          · refine .inr (.inl ?_)
            exact List.mem_append_right _ (List.mem_append_right _ (List.mem_singleton.mpr identification.symm))
          · cases kept.symm.trans lost
          · exact absurd identification other
        · exact .inl later
      · exact .inr (.inl (responses none answering))
      · exact .inr (.inr known)
  · rcases either with rfl | ⟨rfl, -⟩
    · exact Nat.le_refl 1
    · exact Nat.zero_le 1

/-! ## The pollers and the client -/

theorem Carried.moved {link' : DiagnosticLink} {traffic' : Traffic} (carried : Carried vehicle trace link traffic)
    (requests : traffic'.requests = traffic.requests) (responses : traffic'.responses = traffic.responses)
    (address : link'.client.logicalAddress = link.client.logicalAddress)
    (state : link'.server.state = link.server.state)
    (clientQueue : link'.client.sendQueue = traffic'.queued.map (sent vehicle))
    (toServer : Packets cDoipPacketSize (traffic'.asking.map (sent vehicle)) link'.toServer)
    (serverQueue : link'.server.sendQueue = traffic'.answering.map (returned vehicle))
    (toClient : Packets cDoipPacketSize (traffic'.returning.map (returned vehicle)) link'.toClient) :
    Carried vehicle trace link' traffic' where
  toAccounts := by
    rw [requests, responses]
    exact carried.toAccounts
  address := address.symm ▸ carried.address
  clientQueue := clientQueue
  toServer := toServer
  serverQueue := serverQueue
  toClient := toClient
  asked := requests.symm ▸ carried.asked
  short := responses.symm ▸ carried.short
  lifetime := state.symm ▸ carried.lifetime
  caches := state.symm ▸ carried.caches
  known := by
    rw [requests, responses, address]
    exact carried.known

theorem Carried.clientSend {request : Option UInt8} {queued asking : List (Option UInt8)}
    {answering returning : List (Option (UInt8 × Option Bytes))}
    (carried : Carried vehicle trace link ⟨request :: queued, asking, answering, returning⟩)
    (buffer : Block cDoipPacketSize) :
    ∃ link', step vehicle link (.clientSend buffer true) = .ok (.nothing, link') ∧
      Carried vehicle (⟨link, .clientSend buffer true, .nothing⟩ :: trace) link'
        ⟨queued, asking ++ [request], answering, returning⟩ ∧
      link'.server = link.server := by
  obtain ⟨padding, whole, sending⟩ := packetRound_cons (sent_length request) (queued.map (sent vehicle)) buffer true
  rw [if_pos rfl] at sending
  have queue : link.client.sendQueue = sent vehicle request :: queued.map (sent vehicle) := carried.clientQueue
  have idle := carried.idle ⟨link, .clientSend buffer true, .nothing⟩ rfl rfl rfl
  have packets : Packets cDoipPacketSize ((asking ++ [request]).map (sent vehicle))
      (link.toServer ++ (sent vehicle request ++ padding)) := by
    rw [List.map_append]
    exact carried.toServer.concat _ _ whole
  rw [← queue] at sending
  refine ⟨_, step_clientSend sending, ?_, rfl⟩
  exact idle.moved (List.append_assoc asking [request] queued) rfl rfl rfl rfl packets carried.serverQueue
    carried.toClient

theorem Carried.serverSend {response : Option (UInt8 × Option Bytes)} {queued asking : List (Option UInt8)}
    {answering returning : List (Option (UInt8 × Option Bytes))}
    (carried : Carried vehicle trace link ⟨queued, asking, response :: answering, returning⟩)
    (alive : link.server.fault = none) (buffer : Block cDoipPacketSize) :
    ∃ link', step vehicle link (.serverSend buffer true) = .ok (.nothing, link') ∧
      Carried vehicle (⟨link, .serverSend buffer true, .nothing⟩ :: trace) link'
        ⟨queued, asking, answering, returning ++ [response]⟩ ∧
      link'.server.fault = none := by
  have short : Short response := carried.short response (List.mem_append_right returning List.mem_cons_self)
  obtain ⟨padding, whole, sending⟩ :=
    packetRound_cons (returned_length short) (answering.map (returned vehicle)) buffer true
  rw [if_pos rfl] at sending
  have queue : link.server.sendQueue = returned vehicle response :: answering.map (returned vehicle) :=
    carried.serverQueue
  have idle := carried.idle ⟨link, .serverSend buffer true, .nothing⟩ rfl rfl rfl
  have packets : Packets cDoipPacketSize ((returning ++ [response]).map (returned vehicle))
      (link.toClient ++ (returned vehicle response ++ padding)) := by
    rw [List.map_append]
    exact carried.toClient.concat _ _ whole
  rw [← queue] at sending
  refine ⟨_, step_serverSend alive sending, ?_, alive⟩
  exact idle.moved rfl (List.append_assoc returning [response] answering) rfl rfl carried.clientQueue carried.toServer
    rfl packets

/-- What the client makes of a packet: it knows the address behind an identification, and calls back with a value. -/
theorem onReceive_returned {response : Option (UInt8 × Option Bytes)} (short : Short response) (client : DoipClient)
    {segment : Segment} {buffer : Block cDoipPacketSize} {padding : Bytes}
    (bytes : (segment.receive buffer).bytes = returned vehicle response ++ padding) :
    ∃ logicalAddress udsData,
      client.onReceive vehicle.library segment buffer = ({ client with logicalAddress }, udsData) ∧
      udsData.bind onUdsDataReceived = (response.bind answerOf).map (fun (pid, obdData) => ([pid], obdData)) ∧
      (response = none ∧ logicalAddress = some vehicle.logicalAddress ∨
        response ≠ none ∧ logicalAddress = client.logicalAddress) := by
  unfold DoipClient.onReceive
  rw [bytes, returned, vehicle.library.read_serialize _ (responseOf_fits short)]
  cases response with
  | none => exact ⟨_, none, rfl, rfl, .inl ⟨rfl, rfl⟩⟩
  | some reading =>
    have previous := vehicle.library.tryGetPreviousMessage_eq
      ⟨cProtocolVersion, vehicle.logicalAddress, vehicle.logicalAddress, responseData reading⟩
      (responseData_ne_nil reading)
    refine ⟨client.logicalAddress, some (responseData reading), ?_, ?_, .inr ⟨Option.some_ne_none _, rfl⟩⟩
    · exact congrArg (Prod.mk client) previous
    · show (tryParseUdsData (responseData reading)).map _ = _
      rw [tryParseUdsData_responseData]
      rfl

theorem Carried.clientReceive {response : Option (UInt8 × Option Bytes)} {queued asking : List (Option UInt8)}
    {answering returning : List (Option (UInt8 × Option Bytes))}
    (carried : Carried vehicle trace link ⟨queued, asking, answering, response :: returning⟩) {count : ℕ}
    (whole : cDoipPacketSize ≤ count) (buffer : Block cDoipPacketSize) :
    ∃ link' arguments, step vehicle link (.clientReceive count buffer) = .ok (.received arguments, link') ∧
      Carried vehicle (⟨link, .clientReceive count buffer, .received arguments⟩ :: trace) link'
        ⟨queued, asking, answering, returning⟩ ∧
      link'.server = link.server := by
  have short : Short response := carried.short response List.mem_cons_self
  obtain ⟨padding, bytes, rest⟩ := front_of_packets carried.toClient whole buffer
  obtain ⟨logicalAddress, udsData, received, called, address⟩ := onReceive_returned short link.client bytes
  have delivers : deliveredOf (⟨link, .clientReceive count buffer, .received (udsData.bind onUdsDataReceived)⟩ :
      LinkTaken) = response.bind answerOf := by
    rw [called]
    cases response.bind answerOf with
    | none => rfl
    | some answer => rfl
  have before : Accounts vehicle trace (asking ++ queued) ([response] ++ (returning ++ answering)) :=
    carried.toAccounts
  have there := answersOf_append [response] (returning ++ answering)
  rw [answersOf_singleton] at there
  have behind : Accounts vehicle (⟨link, .clientReceive count buffer,
      .received (udsData.bind onUdsDataReceived)⟩ :: trace) (asking ++ queued) (returning ++ answering) := by
    apply before.next
    · exact List.append_nil _
    · rw [delivers, there]
      exact (List.append_nil _).symm ▸ List.Sublist.refl _
    · rw [delivers, there]
      exact (congrArg List.length (List.append_nil _)).trans_le (Nat.le_add_right _ _)
    · intro pid value impossible
      cases impossible
  refine ⟨_, udsData.bind onUdsDataReceived, step_clientReceive received, ?_, rfl⟩
  refine
    { toAccounts := behind
      address := ?_
      clientQueue := carried.clientQueue
      toServer := carried.toServer
      serverQueue := carried.serverQueue
      toClient := rest
      asked := carried.asked
      short := fun other later => carried.short other (List.mem_cons_of_mem response later)
      lifetime := carried.lifetime
      caches := carried.caches.mono fun _ _ _ held => held.cons _
      known := ?_ }
  · rcases address with ⟨-, now⟩ | ⟨-, same⟩
    · exact .inr now
    · exact same.symm ▸ carried.address
  · intro none_lost
    rcases address with ⟨-, now⟩ | ⟨other, same⟩
    · exact .inr (.inr now)
    · rcases carried.known (lost_of_cons none_lost).2 with asking | answering | known
      · exact .inl asking
      · rcases List.mem_cons.mp answering with first | later
        · exact absurd first.symm other
        · exact .inr (.inl later)
      · exact .inr (.inr (same.trans known))

theorem Carried.query (carried : Carried vehicle trace link traffic) {pid : Bytes} {locked : Bool}
    {output : LinkReport} {link' : DiagnosticLink}
    (taken : step vehicle link (.query pid locked) = .ok (output, link')) :
    ∃ traffic', Carried vehicle (⟨link, .query pid locked, output⟩ :: trace) link' traffic' := by
  obtain ⟨⟨result, client⟩, answered, done⟩ := bind_eq_ok.mp taken
  cases done
  rcases tryGetResponseAsync_cases answered with ⟨own, rfl⟩ | ⟨asked, there, address, known, rfl, rfl⟩
  · have nothing : forwardedOf (⟨link, .query pid locked, .queried result⟩ : LinkTaken) = none := by
      cases result with
      | called pid obdData => rfl
      | forwarded asked => exact absurd rfl (own asked)
      | refused => rfl
    exact ⟨traffic, carried.idle _ nothing rfl rfl⟩
  · obtain rfl : address = vehicle.logicalAddress := by
      rcases carried.address with unknown | same
      · cases known.symm.trans unknown
      · exact Option.some.inj (known.symm.trans same)
    have behind : Accounts vehicle (⟨link, .query pid locked, .queried (.forwarded asked)⟩ :: trace)
        (traffic.requests ++ [some asked]) traffic.responses := by
      apply carried.toAccounts.next
      · show traffic.requests.filterMap id ++ [some asked].filterMap id =
          (traffic.requests ++ [some asked]).filterMap id
        exact List.filterMap_append.symm
      · exact (List.append_nil (answersOf traffic.responses)).symm ▸ List.Sublist.refl _
      · exact (congrArg List.length (List.append_nil _)).trans_le (Nat.le_add_right _ _)
      · intro pid value impossible
        cases impossible
    have requests : Traffic.requests { traffic with queued := traffic.queued ++ [some asked] } =
        traffic.requests ++ [some asked] := (List.append_assoc _ _ _).symm
    refine ⟨{ traffic with queued := traffic.queued ++ [some asked] },
      { toAccounts := requests.symm ▸ behind
        address := carried.address
        clientQueue := ?_
        toServer := carried.toServer
        serverQueue := carried.serverQueue
        toClient := carried.toClient
        asked := ?_
        short := carried.short
        lifetime := carried.lifetime
        caches := carried.caches.mono fun _ _ _ held => held.cons _
        known := fun _ => .inr (.inr known) }⟩
    · show link.client.sendQueue ++ [sent vehicle (some asked)] = (traffic.queued ++ [some asked]).map (sent vehicle)
      rw [carried.clientQueue, List.map_append]
      rfl
    · intro other later
      rw [requests] at later
      rcases List.mem_append.mp later with earlier | new
      · exact carried.asked other earlier
      · cases List.mem_singleton.mp new
        exact there

end Steps

end DiagnosticLink
end AdaptiveAutosar.Application
