import AdaptiveAutosar.Application.DoipWire
import AdaptiveAutosar.Application.Underway

/-! # Readings arrive

Runs of the converter, the client and the vehicle: what was asked is answered in order, what was answered arrives in
order, and what arrives is not older than the cache keeps it.
-/

namespace AdaptiveAutosar.Application
open Foundations Com Diag
set_option autoImplicit false

namespace DiagnosticLink
open ObdToDoipConverter ReadDataByIdentifier

section Runs
variable {vehicle : DoipVehicle} {trace : List LinkTaken} {link : DiagnosticLink} {traffic : Traffic}

theorem clientSend_nothing {buffer : Block cDoipPacketSize} {locked : Bool}
    (sending : packetRound link.client.sendQueue buffer locked = (link.client.sendQueue, none)) :
    step vehicle link (.clientSend buffer locked) = .ok (.nothing, link) := by
  rw [step_clientSend sending, Option.getD_none, List.append_nil]

theorem serverSend_nothing {buffer : Block cDoipPacketSize} {locked : Bool} (alive : link.server.fault = none)
    (sending : packetRound link.server.sendQueue buffer locked = (link.server.sendQueue, none)) :
    step vehicle link (.serverSend buffer locked) = .ok (.nothing, link) := by
  rw [step_serverSend alive sending, Option.getD_none, List.append_nil]

/-- A round sends nothing, or the message at the front of the queue. -/
theorem packetRound_cases (messages : List Bytes) (buffer : Block cDoipPacketSize) (locked : Bool) :
    packetRound messages buffer locked = (messages, none) ∨ locked = true ∧ messages ≠ [] := by
  cases messages with
  | nil => exact .inl rfl
  | cons message rest =>
    cases locked with
    | false => exact .inl rfl
    | true => exact .inr ⟨rfl, List.cons_ne_nil _ _⟩

/-- One step. -/
theorem Carried.step (carried : Carried vehicle trace link traffic) {input : LinkStep} (whole : Whole link input)
    {output : LinkReport} {link' : DiagnosticLink} (taken : step vehicle link input = .ok (output, link')) :
    ∃ traffic', Carried vehicle (⟨link, input, output⟩ :: trace) link' traffic' := by
  obtain ⟨queued, asking, answering, returning⟩ := traffic
  cases input with
  | query pid locked => exact carried.query taken
  | clientSend buffer locked =>
    rcases packetRound_cases link.client.sendQueue buffer locked with nothing | ⟨rfl, some_queued⟩
    · cases (clientSend_nothing nothing).symm.trans taken
      exact ⟨_, carried.idle _ rfl rfl rfl⟩
    · cases queued with
      | nil => exact absurd carried.clientQueue some_queued
      | cons request queued =>
        obtain ⟨after, sent, carried', -⟩ := carried.clientSend buffer
        cases sent.symm.trans taken
        exact ⟨_, carried'⟩
  | serverReceive count buffer lookUp locked =>
    by_cases alive : link.server.fault = none
    · cases asking with
      | nil =>
        have empty : link.toServer.length = 0 * cDoipPacketSize := carried.toServer.length_eq
        exact absurd (whole.2.trans_eq empty) (by decide)
      | cons request asking =>
        obtain ⟨after, enqueued, received, carried', -⟩ :=
          carried.serverReceive alive whole.1 buffer lookUp locked
        cases received.symm.trans taken
        exact ⟨_, carried'⟩
    · have ended : DiagnosticLink.step vehicle link (.serverReceive count buffer lookUp locked) =
          .ok (.nothing, link) := if_neg alive
      cases ended.symm.trans taken
      exact ⟨_, carried.idle _ rfl rfl (if_neg alive)⟩
  | serverSend buffer locked =>
    by_cases alive : link.server.fault = none
    · rcases packetRound_cases link.server.sendQueue buffer locked with nothing | ⟨rfl, some_queued⟩
      · cases (serverSend_nothing alive nothing).symm.trans taken
        exact ⟨_, carried.idle _ rfl rfl rfl⟩
      · cases answering with
        | nil => exact absurd carried.serverQueue some_queued
        | cons response answering =>
          obtain ⟨after, sent, carried', -⟩ := carried.serverSend alive buffer
          cases sent.symm.trans taken
          exact ⟨_, carried'⟩
    · have ended : DiagnosticLink.step vehicle link (.serverSend buffer locked) = .ok (.nothing, link) := if_neg alive
      cases ended.symm.trans taken
      exact ⟨_, carried.idle _ rfl rfl rfl⟩
  | clientReceive count buffer =>
    cases returning with
    | nil =>
      have empty : link.toClient.length = 0 * cDoipPacketSize := carried.toClient.length_eq
      exact absurd (whole.2.trans_eq empty) (by decide)
    | cons response returning =>
      obtain ⟨after, arguments, received, carried', -⟩ := carried.clientReceive whole.1 buffer
      cases received.symm.trans taken
      exact ⟨_, carried'⟩

theorem carried_connected (vehicle : DoipVehicle) :
    Carried vehicle [] (connected vehicle) ⟨[none], [], [], []⟩ where
  forwards := rfl
  delivers := List.nil_sublist _
  loses := Nat.zero_le _
  current := fun taken older suffix => absurd (List.suffix_nil.mp suffix) (List.cons_ne_nil taken older)
  address := .inl rfl
  clientQueue := rfl
  toServer := .nil
  serverQueue := rfl
  toClient := .nil
  asked := fun pid impossible => by cases List.mem_singleton.mp impossible
  short := fun response impossible => by cases impossible
  lifetime := rfl
  caches := fun did time item impossible => by cases impossible
  known := fun _ => .inl List.mem_cons_self

theorem carried_of_run (run : Run (step vehicle) (connected vehicle) trace link) (whole : Run.Every Whole trace) :
    ∃ traffic, Carried vehicle trace link traffic := by
  let holds (trace : List LinkTaken) (link : DiagnosticLink) : Prop := ∃ traffic, Carried vehicle trace link traffic
  have start : holds [] (connected vehicle) := ⟨_, carried_connected vehicle⟩
  refine Run.invariant start ?_ run whole
  rintro trace link input output link' ⟨traffic, carried⟩ here taken
  exact carried.step here taken

theorem Carried.inTransit_eq (carried : Carried vehicle trace link traffic) :
    link.inTransit = traffic.requests.length + traffic.responses.length := by
  have asking : link.toServer.length / cDoipPacketSize = traffic.asking.length := by
    rw [carried.toServer.length_eq, List.length_map]
    exact Nat.mul_div_cancel _ (by decide)
  have returning : link.toClient.length / cDoipPacketSize = traffic.returning.length := by
    rw [carried.toClient.length_eq, List.length_map]
    exact Nat.mul_div_cancel _ (by decide)
  unfold inTransit Traffic.requests Traffic.responses
  rw [asking, returning, carried.clientQueue, carried.serverQueue, List.length_map, List.length_map, List.length_append,
    List.length_append]
  omega

end Runs

/-- For every order in which queries come and the pollers make their rounds, whatever the queues take and the resource
server answers, as long as a receive returns a whole packet: the parameters that the vehicle was asked for are those
that the server looked for, in this order, and then the ones still on their way; the values that the callback got, and
behind them those on their way, are values that the server answered with, in this order, and none is missing but as many
as the server's queue did not take. Every value is what the resource server held for that parameter when the request was
handled, or when the parameter was read less than the lifetime of the cache before. -/
theorem readings_delivered (vehicle : DoipVehicle) {trace : List LinkTaken} {link : DiagnosticLink}
    (run : Run (step vehicle) (connected vehicle) trace link) (whole : Run.Every Whole trace) :
    (∃ waiting onTheWay, waiting.length + onTheWay.length ≤ link.inTransit ∧
        forwarded trace = (served vehicle trace).map Prod.fst ++ waiting ∧
        (delivered trace ++ onTheWay).Sublist (answered vehicle trace) ∧
        (answered vehicle trace).length ≤ (delivered trace ++ onTheWay).length + lost trace) ∧
      ∀ taken older, taken :: older <:+ trace → ∀ pid value, servedOf vehicle taken = some (pid, some value) →
        Current vehicle taken older pid value := by
  obtain ⟨traffic, carried⟩ := carried_of_run run whole
  refine ⟨⟨traffic.requests.filterMap id, answersOf traffic.responses, ?_, carried.forwards, carried.delivers,
    carried.loses⟩, carried.current⟩
  rw [carried.inTransit_eq]
  exact Nat.add_le_add (List.length_filterMap_le _ _) (List.length_filterMap_le _ _)

/-! ### A vehicle that drives at 55 km/h -/

def averageSpeed : Bytes := Per.text "\x7b\"averageSpeed\":\x7b\"value\":\"55\"\x7d\x7d"

def speedServer : Environment := DiagMessageHandler.serving averageSpeed (.string (Per.text "55"))

def sampleVehicle : DoipVehicle where
  library := DoipWire.library
  reader := speedServer.reader
  values := speedServer.values
  doubles := speedServer.doubles
  resourcesUrl := speedServer.resourcesUrl
  logicalAddress := 0x0e80
  eid := 0
  gid := 0

/-- A look-up at this time, of a server that knows nothing but the speed. -/
def speedOnly (time : ℤ) : LookUp where
  tryExecute url := if url = speedServer.resourcesUrl ++ Per.text "/averageSpeed" then some averageSpeed else none
  lookupTime := time
  additionTime := time

/-- A message from the client to the server, and its response. -/
def exchange (lookUp : LookUp) : List LinkStep :=
  [.clientSend DoipController.blankBuffer true,
    .serverReceive cDoipPacketSize DoipController.blankBuffer lookUp true,
    .serverSend DoipController.blankBuffer true,
    .clientReceive cDoipPacketSize DoipController.blankBuffer]

instance : ∀ link input, Decidable (Whole link input)
  | _, .query _ _ => isTrue trivial
  | _, .clientSend _ _ => isTrue trivial
  | link, .serverReceive count _ _ _ =>
    inferInstanceAs (Decidable (cDoipPacketSize ≤ count ∧ cDoipPacketSize ≤ link.toServer.length))
  | _, .serverSend _ _ => isTrue trivial
  | link, .clientReceive count _ =>
    inferInstanceAs (Decidable (cDoipPacketSize ≤ count ∧ cDoipPacketSize ≤ link.toClient.length))

/-- The speed is read for the first query and in the cache for the second one. -/
theorem readings_delivered_speed : ∃ trace link, Run (step sampleVehicle) (connected sampleVehicle) trace link ∧
    delivered trace = [(0x0d, [55]), (0x0d, [55])] ∧
    ∃ waiting onTheWay, waiting.length + onTheWay.length ≤ link.inTransit ∧
      forwarded trace = (served sampleVehicle trace).map Prod.fst ++ waiting ∧
      (delivered trace ++ onTheWay).Sublist (answered sampleVehicle trace) ∧
      (answered sampleVehicle trace).length ≤ (delivered trace ++ onTheWay).length + lost trace := by
  let see (taken : LinkTaken) := (decide (Whole taken.before taken.input), deliveredOf taken)
  obtain ⟨trace, link, run, seen⟩ := Run.of_seen (step sampleVehicle) (connected sampleVehicle) see
    (exchange (speedOnly 0) ++ .query [0x0d] true :: exchange (speedOnly 1) ++ .query [0x0d] true ::
      exchange (speedOnly 2))
    ((true, some (0x0d, [55])) :: List.replicate 4 (true, none) ++ (true, some (0x0d, [55])) ::
      List.replicate 8 (true, none)) (by decide +kernel)
  have whole : Run.Every Whole trace := by
    intro taken there
    have shown : see taken ∈ trace.map see := List.mem_map_of_mem there
    rw [seen] at shown
    have all : ∀ one ∈ ((true, some (0x0d, [55])) :: List.replicate 4 (true, none) ++ (true, some (0x0d, [55])) ::
        List.replicate 8 (true, none) : List (Bool × Option (UInt8 × Bytes))), one.1 = true := by decide
    exact of_decide_eq_true (all _ shown)
  have got : delivered trace = [(0x0d, [55]), (0x0d, [55])] := by
    have both : delivered trace = ((trace.map see).reverse).filterMap Prod.snd := by
      rw [← List.map_reverse, List.filterMap_map]
      rfl
    rw [both, seen]
    rfl
  exact ⟨trace, link, run, got, (readings_delivered sampleVehicle run whole).1⟩

/-! ## Everything on its way arrives -/

section Arriving
variable {vehicle : DoipVehicle} {trace : List LinkTaken} {link : DiagnosticLink} {traffic : Traffic}

/-- The steps that the messages have before them. -/
def Traffic.steps (traffic : Traffic) : ℕ :=
  4 * traffic.queued.length + 3 * traffic.asking.length + 2 * traffic.answering.length + traffic.returning.length

/-- A step of a poller that takes a message along, while the server lives. -/
structure Progress (vehicle : DoipVehicle) (trace : List LinkTaken) (link : DiagnosticLink) (traffic : Traffic)
    (input : LinkStep) (output : LinkReport) (link' : DiagnosticLink) (traffic' : Traffic) : Prop where
  taken : step vehicle link input = .ok (output, link')
  whole : Whole link input
  carried : Carried vehicle (⟨link, input, output⟩ :: trace) link' traffic'
  alive : link'.server.fault = none
  forwards : forwardedOf (⟨link, input, output⟩ : LinkTaken) = none
  loses : Loses (⟨link, input, output⟩ : LinkTaken) = false
  less : traffic'.steps < traffic.steps

theorem Carried.progress (carried : Carried vehicle trace link traffic) (alive : link.server.fault = none)
    {lookUp : LookUp} (readable : ∀ pid ∈ cDoipPids, Readable (vehicle.environment lookUp) (didOf pid))
    (buffer : Block cDoipPacketSize) (positive : 0 < traffic.steps) :
    ∃ input output link' traffic', Progress vehicle trace link traffic input output link' traffic' := by
  obtain ⟨queued, asking, answering, returning⟩ := traffic
  cases returning with
  | cons response returning =>
    obtain ⟨link', arguments, received, carried', server⟩ := carried.clientReceive (Nat.le_refl _) buffer
    refine ⟨_, _, link', _, received, ⟨Nat.le_refl _, carried.toClient.size_le⟩, carried', server ▸ alive, rfl,
      rfl, ?_⟩
    simp only [Traffic.steps, List.length_cons]
    omega
  | nil =>
  cases answering with
  | cons response answering =>
    obtain ⟨link', sent, carried', alive'⟩ := carried.serverSend alive buffer
    refine ⟨_, _, link', _, sent, trivial, carried', alive', rfl, rfl, ?_⟩
    simp only [Traffic.steps, List.length_cons, List.length_append, List.length_nil]
    omega
  | nil =>
  cases asking with
  | cons request asking =>
    obtain ⟨link', enqueued, received, carried', single, stays⟩ :=
      carried.serverReceive alive (Nat.le_refl _) buffer lookUp true
    refine ⟨_, _, link', _, received, ⟨Nat.le_refl _, carried.toServer.size_le⟩, carried', stays readable, rfl,
      Bool.and_false _, ?_⟩
    simp only [Traffic.steps, List.length_cons, List.length_append, List.length_nil]
    omega
  | nil =>
  cases queued with
  | cons request queued =>
    obtain ⟨link', sent, carried', server⟩ := carried.clientSend buffer
    refine ⟨_, _, link', _, sent, trivial, carried', server ▸ alive, rfl, rfl, ?_⟩
    simp only [Traffic.steps, List.length_cons, List.length_append, List.length_nil]
    omega
  | nil => exact absurd positive (Nat.lt_irrefl 0)

/-- Steps of the pollers until nothing is on its way. -/
theorem Carried.drains (carried : Carried vehicle trace link traffic) (alive : link.server.fault = none)
    (every : Run.Every Whole trace) {lookUp : LookUp}
    (readable : ∀ pid ∈ cDoipPids, Readable (vehicle.environment lookUp) (didOf pid))
    (buffer : Block cDoipPacketSize) :
    ∃ inputs trace' link', Run.play (DiagnosticLink.step vehicle) trace link inputs = .ok (trace', link') ∧
      Run.Every Whole trace' ∧ Carried vehicle trace' link' ⟨[], [], [], []⟩ ∧ forwarded trace' = forwarded trace ∧
      lost trace' = lost trace := by
  induction left : traffic.steps using Nat.strongRecOn generalizing trace link traffic with
  | _ n ih =>
    rcases Nat.eq_zero_or_pos n with rfl | positive
    · obtain ⟨queued, asking, answering, returning⟩ := traffic
      simp only [Traffic.steps] at left
      obtain rfl : queued = [] := List.eq_nil_of_length_eq_zero (by omega)
      obtain rfl : asking = [] := List.eq_nil_of_length_eq_zero (by omega)
      obtain rfl : answering = [] := List.eq_nil_of_length_eq_zero (by omega)
      obtain rfl : returning = [] := List.eq_nil_of_length_eq_zero (by omega)
      exact ⟨[], trace, link, rfl, every, carried, rfl, rfl⟩
    · obtain ⟨input, output, link', traffic', progress⟩ := carried.progress alive readable buffer (left ▸ positive)
      have whole' : Run.Every Whole (⟨link, input, output⟩ :: trace) := Run.every_cons.mpr ⟨progress.whole, every⟩
      obtain ⟨inputs, trace', last, played, wholes, done, same, kept⟩ :=
        ih traffic'.steps (left ▸ progress.less) progress.carried progress.alive whole' rfl
      refine ⟨input :: inputs, trace', last, ?_, wholes, done, same.trans ?_, kept.trans ?_⟩
      · rw [Run.play_cons progress.taken]
        exact played
      · rw [forwarded, Run.seen_cons, progress.forwards]
        exact List.append_nil _
      · exact List.countP_cons_of_neg (by rw [progress.loses]; exact Bool.false_ne_true)

end Arriving

/-- From whatever state a run reaches in which no exception has ended the server: with a resource server that holds a
value for every parameter or cannot be asked, the pollers can empty the queues and the connection. The server then has
looked for every parameter that the vehicle was asked for. If its queue took every response before, the callback has got
every value that the server answered with, in this order, and the client knows the address of the vehicle. -/
theorem readings_arrive (vehicle : DoipVehicle) {trace : List LinkTaken} {link : DiagnosticLink}
    (run : Run (step vehicle) (connected vehicle) trace link) (whole : Run.Every Whole trace)
    (alive : link.server.fault = none) (lookUp : LookUp)
    (readable : ∀ pid ∈ cDoipPids, Readable (vehicle.environment lookUp) (didOf pid)) :
    ∃ inputs trace' link', Run.play (step vehicle) trace link inputs = .ok (trace', link') ∧ Run.Every Whole trace' ∧
      link'.inTransit = 0 ∧ (served vehicle trace').map Prod.fst = forwarded trace ∧
      (lost trace = 0 → delivered trace' = answered vehicle trace' ∧
        link'.client.logicalAddress = some vehicle.logicalAddress) := by
  obtain ⟨traffic, carried⟩ := carried_of_run run whole
  obtain ⟨inputs, trace', link', played, wholes, done, same, kept⟩ :=
    carried.drains alive whole readable DoipController.blankBuffer
  refine ⟨inputs, trace', link', played, wholes, done.inTransit_eq, ?_, ?_⟩
  · have all := done.forwards
    rw [same] at all
    exact (all.trans (List.append_nil _)).symm
  · intro none_lost
    have delivers := done.delivers
    have loses := done.loses
    rw [kept, none_lost] at loses
    have everything : delivered trace' ++ answersOf [] = delivered trace' := List.append_nil _
    change (delivered trace' ++ answersOf []).Sublist _ at delivers
    change _ ≤ (delivered trace' ++ answersOf []).length + 0 at loses
    rw [everything] at delivers loses
    refine ⟨delivers.eq_of_length_le loses, ?_⟩
    rcases done.known (kept.trans none_lost) with impossible | impossible | known
    · cases impossible
    · cases impossible
    · exact known

/-- The request for the identification, which is in the queue when the connection is accepted. -/
theorem readings_arrive_connected : ∃ inputs trace link,
    Run.play (step sampleVehicle) [] (connected sampleVehicle) inputs = .ok (trace, link) ∧
      link.client.logicalAddress = some 0x0e80 := by
  have unanswered : ∀ pid ∈ cDoipPids, Readable (sampleVehicle.environment ⟨fun _ => none, 0, 0⟩) (didOf pid) :=
    fun _ _ _ _ => .inl rfl
  obtain ⟨inputs, trace, link, played, -, -, -, arrived⟩ :=
    readings_arrive sampleVehicle .start (Run.every_nil Whole) rfl ⟨fun _ => none, 0, 0⟩ unanswered
  exact ⟨inputs, trace, link, played, (arrived rfl).2⟩

end DiagnosticLink
end AdaptiveAutosar.Application
