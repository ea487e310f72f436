import AdaptiveAutosar.Application.ObdToDoipConverter
import AdaptiveAutosar.Application.Readings
import AdaptiveAutosar.Foundations.Transition

/-! # From an OBD query to the vehicle and back

`ObdToDoipConverter` and its `DoipClient` on one side of a TCP connection, `DoipServer` with the diagnostic service on
the other one. Queries come and rounds of both pollers are made in any order; whether a queue is locked and what the
resource server answers is new in every step. A send takes the whole packet.
-/

namespace AdaptiveAutosar.Application
open Foundations Foundations.BigEndian Com Diag
set_option autoImplicit false

/-- The two ends, and what is on its way from the client and from the server. -/
structure DiagnosticLink where
  client : DoipClient
  toServer : Bytes
  server : DoipServer ResponseCache
  toClient : Bytes

/-- A receive returns up to `count` bytes. The buffers are those on the stack. -/
inductive LinkStep where
  | query (pid : Bytes) (locked : Bool)
  | clientSend (sendBuffer : Block cDoipPacketSize) (locked : Bool)
  | serverReceive (count : ℕ) (receiveBuffer : Block cDoipPacketSize) (lookUp : LookUp) (locked : Bool)
  | serverSend (sendBuffer : Block cDoipPacketSize) (locked : Bool)
  | clientReceive (count : ℕ) (receiveBuffer : Block cDoipPacketSize)

inductive LinkReport where
  | queried (result : ObdToDoipConverter.QueryResult)
  /-- What the callback is called with, if it is called. -/
  | received (arguments : Option (Bytes × Bytes))
  | nothing
  deriving DecidableEq, Repr

namespace DiagnosticLink
open ObdToDoipConverter ReadDataByIdentifier

/-- Both ends when the connection is accepted. -/
def connected (vehicle : DoipVehicle) : DiagnosticLink where
  client := .make vehicle.library
  toServer := []
  server := (DoipServer.make ⟨cCacheLifetime, OrderedMap.empty⟩).onAccept true true true true
  toClient := []

def step (vehicle : DoipVehicle) (link : DiagnosticLink) : LinkStep → Outcome (LinkReport × DiagnosticLink)
  | .query pid locked => do
    let (result, client) ← tryGetResponseAsync vehicle.library link.client pid locked
    pure (.queried result, { link with client })
  | .clientSend sendBuffer locked =>
    let (client, packet) := link.client.onSend sendBuffer locked
    .ok (.nothing, { link with client, toServer := link.toServer ++ packet.getD [] })
  | .serverReceive count receiveBuffer lookUp locked =>
    -- an exception that nobody catches has ended the server
    if link.server.fault = none then
      let segment := Segment.front link.toServer count
      .ok (.nothing,
        { link with
          toServer := link.toServer.drop segment.data.length
          server := link.server.onReceive (vehicle.controller lookUp) segment receiveBuffer locked })
    else .ok (.nothing, link)
  | .serverSend sendBuffer locked =>
    if link.server.fault = none then
      let (server, packet) := link.server.onSend sendBuffer locked
      .ok (.nothing, { link with server, toClient := link.toClient ++ packet.getD [] })
    else .ok (.nothing, link)
  | .clientReceive count receiveBuffer =>
    let segment := Segment.front link.toClient count
    let (client, udsData) := link.client.onReceive vehicle.library segment receiveBuffer
    .ok (.received (udsData.bind onUdsDataReceived),
      { link with client, toClient := link.toClient.drop segment.data.length })

/-- A receive finds a packet, and returns it whole. -/
def Whole (link : DiagnosticLink) : LinkStep → Prop
  | .serverReceive count _ _ _ => cDoipPacketSize ≤ count ∧ cDoipPacketSize ≤ link.toServer.length
  | .clientReceive count _ => cDoipPacketSize ≤ count ∧ cDoipPacketSize ≤ link.toClient.length
  | _ => True

/-- The messages in the queues and the packets on their way. -/
def inTransit (link : DiagnosticLink) : ℕ :=
  link.client.sendQueue.length + link.toServer.length / cDoipPacketSize + link.server.sendQueue.length +
    link.toClient.length / cDoipPacketSize

/-! ## What is seen of a run -/

abbrev LinkTaken : Type := Taken DiagnosticLink LinkStep LinkReport

def forwardedOf (taken : LinkTaken) : Option UInt8 :=
  match taken.output with
  | .queried (.forwarded pid) => some pid
  | _ => none

/-- The parameter and the data that the callback is called with for the vehicle. -/
def deliveredOf (taken : LinkTaken) : Option (UInt8 × Bytes) :=
  match taken.output with
  | .received (some ([pid], obdData)) => some (pid, obdData)
  | _ => none

/-- The value of a positive response. -/
def valueOf : Answer → Option Bytes
  | .response responseData => (tryParseUdsData responseData).map Prod.snd
  | _ => none

/-- The parameter that the server is asked for in this step, with the value if it has one. -/
def servedOf (vehicle : DoipVehicle) (taken : LinkTaken) : Option (UInt8 × Option Bytes) :=
  match taken.input with
  | .serverReceive count receiveBuffer lookUp _ =>
    if taken.before.server.fault = none then
      match vehicle.library.read ((Segment.front taken.before.toServer count).receive receiveBuffer).bytes with
      | some (.diagMessage _ message) =>
        message.userData[cPidIndex]?.map fun pid =>
          (pid, valueOf (DiagMessageHandler.route (vehicle.environment lookUp) taken.before.server.state
            message.userData).1)
      | _ => none
    else none
  | _ => none

def lookUpOf (taken : LinkTaken) : Option LookUp :=
  match taken.input with
  | .serverReceive _ _ lookUp _ => some lookUp
  | _ => none

/-- The server's queue takes no response in this step. -/
def Loses (taken : LinkTaken) : Bool :=
  match taken.input with
  | .serverReceive _ _ _ locked => taken.before.server.fault.isNone && !locked
  | _ => false

def answerOf : UInt8 × Option Bytes → Option (UInt8 × Bytes)
  | (pid, value) => value.map fun obdData => (pid, obdData)

/-- The parameters that the vehicle is asked for, the oldest first. -/
def forwarded (trace : List LinkTaken) : List UInt8 := Run.seen forwardedOf trace

def delivered (trace : List LinkTaken) : List (UInt8 × Bytes) := Run.seen deliveredOf trace

def served (vehicle : DoipVehicle) (trace : List LinkTaken) : List (UInt8 × Option Bytes) :=
  Run.seen (servedOf vehicle) trace

def answered (vehicle : DoipVehicle) (trace : List LinkTaken) : List (UInt8 × Bytes) :=
  (served vehicle trace).filterMap answerOf

def lost (trace : List LinkTaken) : ℕ := trace.countP Loses

def didOf (pid : UInt8) : UInt16 := word16 cDidMsb pid

/-- The parameter was answered with this value, which the resource server held at this time. -/
def Held (vehicle : DoipVehicle) (trace : List LinkTaken) (did : UInt16) (time : ℤ) (value : Bytes) : Prop :=
  ∃ taken ∈ trace, ∃ pid lookUp, did = didOf pid ∧ servedOf vehicle taken = some (pid, some value) ∧
    lookUpOf taken = some lookUp ∧ Reads (vehicle.environment lookUp) did value ∧ time = lookUp.additionTime

/-- The value is what the resource server holds, or what it was answered with when it held that less than the lifetime
of the cache ago. -/
def Current (vehicle : DoipVehicle) (taken : LinkTaken) (older : List LinkTaken) (pid : UInt8) (value : Bytes) : Prop :=
  ∃ lookUp, lookUpOf taken = some lookUp ∧
    (Reads (vehicle.environment lookUp) (didOf pid) value ∨
      ∃ time, Held vehicle older (didOf pid) time value ∧ lookUp.lookupTime - time < cCacheLifetime)

/-! ## The messages -/

/-- A request for the identification of the vehicle, or for a parameter. -/
def requestOf (vehicle : DoipVehicle) : Option UInt8 → DoipMessage
  | none => .vehicleIdRequest cProtocolVersion
  | some pid =>
    .diagMessage cProtocolVersion
      ⟨vehicle.logicalAddress, vehicle.logicalAddress, [ObdToDoipConverter.cSid, cDidMsb, pid]⟩

/-- The data of the response for a parameter. -/
def responseData (reading : UInt8 × Option Bytes) : Bytes :=
  match reading.2 with
  | none => generateNegativeResponse ReadDataByIdentifier.cSid cConditionsNotCorrectNrc
  | some value => generateResponse (didOf reading.1) ++ value

/-- The response to a request of the same kind. -/
def responseOf (vehicle : DoipVehicle) : Option (UInt8 × Option Bytes) → DoipMessage
  | none => .vehicleIdResponse vehicle.vehicleIdRequestHandler.response
  | some reading =>
    .diagMessageAck ⟨cProtocolVersion, vehicle.logicalAddress, vehicle.logicalAddress, responseData reading⟩

def sent (vehicle : DoipVehicle) (request : Option UInt8) : Bytes :=
  vehicle.library.serialize (requestOf vehicle request)

def returned (vehicle : DoipVehicle) (response : Option (UInt8 × Option Bytes)) : Bytes :=
  vehicle.library.serialize (responseOf vehicle response)

/-- The value of a response is not too long for a packet. -/
def Short (response : Option (UInt8 × Option Bytes)) : Prop :=
  ∀ pid value, response = some (pid, some value) → value.length ≤ 4

section Messages
variable {vehicle : DoipVehicle}

theorem requestOf_fits (request : Option UInt8) : (requestOf vehicle request).Fits := by
  cases request with
  | none => exact DoipVehicle.vehicleIdRequest_fits
  | some pid => exact DoipVehicle.diagMessage_fits (by decide : 3 ≤ 52)

theorem requestOf_isRequest (request : Option UInt8) : (requestOf vehicle request).IsRequest := by
  cases request with
  | none => rfl
  | some pid => rfl

theorem responseData_length {reading : UInt8 × Option Bytes} (short : Short (some reading)) :
    (responseData reading).length ≤ 7 := by
  obtain ⟨pid, value⟩ := reading
  cases value with
  | none => exact Nat.le_of_ble_eq_true rfl
  | some value =>
    have size := short pid value rfl
    show value.length + 3 ≤ 7
    omega

theorem responseData_ne_nil (reading : UInt8 × Option Bytes) : responseData reading ≠ [] := by
  obtain ⟨pid, value⟩ := reading
  cases value with
  | none => exact List.cons_ne_nil _ _
  | some value => exact List.cons_ne_nil _ _

theorem responseOf_fits {response : Option (UInt8 × Option Bytes)} (short : Short response) :
    (responseOf vehicle response).Fits := by
  cases response with
  | none =>
    refine ⟨Nat.le_of_ble_eq_true rfl, ?_⟩
    rintro _ ⟨⟩
    exact ⟨rfl, rfl, rfl⟩
  | some reading =>
    have size := responseData_length short
    refine ⟨?_, fun _ impossible => by cases impossible⟩
    show 8 + (5 + (responseData reading).length) ≤ 64
    omega

theorem sent_length (request : Option UInt8) : (sent vehicle request).length ≤ cDoipPacketSize := by
  rw [sent, vehicle.library.serialize_length _ (requestOf_fits request)]
  exact (requestOf_fits request).1

theorem returned_length {response : Option (UInt8 × Option Bytes)} (short : Short response) :
    (returned vehicle response).length ≤ cDoipPacketSize := by
  rw [returned, vehicle.library.serialize_length _ (responseOf_fits short)]
  exact (responseOf_fits short).1

theorem didOf_toUInt8 (pid : UInt8) : (didOf pid).toUInt8 = pid := by
  have size := pid.toNat_lt
  have word := word16_toNat cDidMsb pid
  apply UInt8.toNat_inj.mp
  rw [UInt16.toNat_toUInt8, didOf, word]
  omega

theorem known_of_doip {pid : UInt8} (asked : pid ∈ cDoipPids) : (resourceKey (didOf pid)).isSome := by
  have all : cDoipPids.all (fun pid => (resourceKey (didOf pid)).isSome) = true := by decide +kernel
  exact List.all_eq_true.mp all pid asked

theorem tryParseUdsData_responseData (reading : UInt8 × Option Bytes) :
    tryParseUdsData (responseData reading) = answerOf reading := by
  obtain ⟨pid, value⟩ := reading
  cases value with
  | none => rfl
  | some value =>
    have long : ¬ (responseData (pid, some value)).length < cDataOffset := by
      show ¬ value.length + 3 < 3
      omega
    have positive : (responseData (pid, some value)).head? ≠ some cNegativeResponseCodeSid :=
      fun same => absurd (Option.some.inj same) (by decide)
    rw [tryParseUdsData, if_neg long, if_neg positive]
    show some ((didOf pid).toUInt8, value) = some (pid, value)
    rw [didOf_toUInt8]

end Messages

/-! ## What the vehicle makes of a packet -/

section Handling
variable {vehicle : DoipVehicle} {P : UInt16 → ℤ → Bytes → Prop} {cache : ResponseCache}

theorem tryHandle_sent (request : Option UInt8) (lookUp : LookUp) (cache : ResponseCache) (padding : Bytes) :
    (vehicle.controller lookUp).tryHandle cache (sent vehicle request ++ padding) =
      vehicle.handle lookUp cache (sent vehicle request) := by
  have complete : vehicle.library.decode (sent vehicle request) = some (sent vehicle request) :=
    vehicle.library.decode_serialize _ (requestOf_fits request) (requestOf_isRequest request)
  exact DoipServer.tryHandle_some (vehicle.library.decode_append complete padding) cache

theorem read_sent (request : Option UInt8) :
    vehicle.library.read (sent vehicle request) = some (requestOf vehicle request) := by
  have read := vehicle.library.read_serialize (requestOf vehicle request) (requestOf_fits request) []
  rwa [List.append_nil] at read

theorem handle_identification (lookUp : LookUp) (cache : ResponseCache) :
    vehicle.handle lookUp cache (sent vehicle none) = (.ok (some (returned vehicle none)), cache) := by
  unfold DoipVehicle.handle
  rw [read_sent]
  rfl

/-- What the vehicle makes of a request for a parameter that it finds this value for, if any. -/
structure Handled (vehicle : DoipVehicle) (P : UInt16 → ℤ → Bytes → Prop) (lookUp : LookUp) (pid : UInt8)
    (value : Option Bytes) (outcome : Outcome (Option Bytes)) (after : ResponseCache) : Prop where
  answers : outcome = .ok (some (returned vehicle (some (pid, value)))) ∨
    value = none ∧ ¬ Readable (vehicle.environment lookUp) (didOf pid) ∧ ∀ response, outcome ≠ .ok (some response)
  short : ∀ found, value = some found → found.length ≤ 4
  current : ∀ found, value = some found → Reads (vehicle.environment lookUp) (didOf pid) found ∨
    ∃ time, P (didOf pid) time found ∧ lookUp.lookupTime - time < cCacheLifetime
  lifetime : after.lifetime = cCacheLifetime
  caches : Caches (fun did time found => P did time found ∨ did = didOf pid ∧ value = some found ∧
    Reads (vehicle.environment lookUp) did found ∧ time = lookUp.additionTime) after

theorem valueOf_positive (pid : UInt8) (value : Bytes) :
    valueOf (.response (generateResponse (didOf pid) ++ value)) = some value := by
  have parsed := tryParseUdsData_responseData (pid, some value)
  show (tryParseUdsData (responseData (pid, some value))).map Prod.snd = some value
  rw [parsed]
  rfl

theorem handle_response {lookUp : LookUp} {pid : UInt8} {responseData : Bytes} {after : ResponseCache}
    (routed : DiagMessageHandler.route (vehicle.environment lookUp) cache [ObdToDoipConverter.cSid, cDidMsb, pid] =
      (.response responseData, after)) :
    vehicle.handle lookUp cache (sent vehicle (some pid)) =
      (.ok (some (vehicle.library.serialize (.diagMessageAck
        ⟨cProtocolVersion, vehicle.logicalAddress, vehicle.logicalAddress, responseData⟩))), after) := by
  unfold DoipVehicle.handle
  rw [read_sent]
  unfold requestOf DiagMessageHandler.tryHandle
  dsimp only
  rw [routed]

theorem handle_faulted {lookUp : LookUp} {pid : UInt8} {e : Fault} {after : ResponseCache}
    (routed : DiagMessageHandler.route (vehicle.environment lookUp) cache [ObdToDoipConverter.cSid, cDidMsb, pid] =
      (.faulted e, after)) :
    ∃ outcome, vehicle.handle lookUp cache (sent vehicle (some pid)) = (outcome, after) ∧
      ∀ response, outcome ≠ .ok (some response) := by
  unfold DoipVehicle.handle
  rw [read_sent]
  unfold requestOf DiagMessageHandler.tryHandle
  dsimp only
  rw [routed]
  dsimp only
  split
  · next impossible => cases impossible
  · exact ⟨_, rfl, fun response same => by cases same⟩
  · exact ⟨_, rfl, fun response same => by cases same⟩
  · next impossible => cases impossible

/-- A request for a parameter is answered, unless its resource cannot be read. -/
theorem handle_parameter (holds : Caches P cache) (kept : cache.lifetime = cCacheLifetime)
    (small : ∀ did time value, P did time value → value.length ≤ 4) (lookUp : LookUp) {pid : UInt8}
    (asked : pid ∈ cDoipPids) :
    ∃ value outcome after, vehicle.handle lookUp cache (sent vehicle (some pid)) = (outcome, after) ∧
      valueOf (DiagMessageHandler.route (vehicle.environment lookUp) cache [ObdToDoipConverter.cSid, cDidMsb, pid]).1 =
        value ∧
      Handled vehicle P lookUp pid value outcome after := by
  obtain ⟨answer, after, routed, reading, lifetime, extended⟩ :=
    DiagMessageHandler.route_reading (vehicle.environment lookUp) holds (known_of_doip asked)
  change DiagMessageHandler.route (vehicle.environment lookUp) cache [ObdToDoipConverter.cSid, cDidMsb, pid] = _
    at routed
  rw [kept] at reading lifetime
  -- a positive response, whose value is new in the cache only if it was read
  have positive (value : Bytes) (found : answer = .response (generateResponse (didOf pid) ++ value))
      (size : value.length ≤ 4) (now : Reads (vehicle.environment lookUp) (didOf pid) value ∨
        ∃ time, P (didOf pid) time value ∧ lookUp.lookupTime - time < cCacheLifetime) :
      Handled vehicle P lookUp pid (some value) (.ok (some (returned vehicle (some (pid, some value))))) after := by
    refine ⟨.inl rfl, ?_, ?_, lifetime, extended.mono ?_⟩
    · rintro _ ⟨⟩
      exact size
    · rintro _ ⟨⟩
      exact now
    · rintro did time other (was | ⟨rfl, same, reads, added⟩)
      · exact .inl was
      · have both := congrArg valueOf (found.symm.trans same)
        rw [valueOf_positive] at both
        have again := valueOf_positive pid other
        exact .inr ⟨rfl, both.trans again, reads, added⟩
  -- a response without a value, or none
  have negative (outcome : Outcome (Option Bytes)) (found : valueOf answer = none)
      (answers : outcome = .ok (some (returned vehicle (some (pid, none)))) ∨
        ¬ Readable (vehicle.environment lookUp) (didOf pid) ∧ ∀ response, outcome ≠ .ok (some response)) :
      Handled vehicle P lookUp pid none outcome after := by
    refine ⟨answers.imp_right fun failed => ⟨rfl, failed⟩, ?_, ?_, lifetime, extended.mono ?_⟩
    · rintro _ ⟨⟩
    · rintro _ ⟨⟩
    · rintro did time other (was | ⟨rfl, same, -⟩)
      · exact .inl was
      · have value := valueOf_positive pid other
        exact absurd ((congrArg valueOf same).symm.trans found) (fun same => by cases value.symm.trans same)
  cases reading with
  | failed e unreadable =>
    obtain ⟨outcome, done, silent⟩ := handle_faulted routed
    exact ⟨none, outcome, after, done, by rw [routed]; rfl, negative _ rfl (.inr ⟨unreadable, silent⟩)⟩
  | refused => exact ⟨none, _, after, handle_response routed, by rw [routed]; rfl, negative _ rfl (.inl rfl)⟩
  | read reads =>
    exact ⟨_, _, after, handle_response routed, by rw [routed]; exact valueOf_positive pid _,
      positive _ rfl reads.length_le (.inl reads)⟩
  | cached time was young =>
    exact ⟨_, _, after, handle_response routed, by rw [routed]; exact valueOf_positive pid _,
      positive _ rfl (small _ _ _ was) (.inr ⟨time, was, young⟩)⟩

end Handling

/-! ## The steps -/

section Taking
variable {vehicle : DoipVehicle} {link : DiagnosticLink} {sendBuffer : Block cDoipPacketSize} {locked : Bool}
  {sendQueue : List Bytes} {packet : Option Bytes}

theorem step_clientSend (sending : packetRound link.client.sendQueue sendBuffer locked = (sendQueue, packet)) :
    step vehicle link (.clientSend sendBuffer locked) = .ok (.nothing,
      { link with client := { link.client with sendQueue }, toServer := link.toServer ++ packet.getD [] }) := by
  rw [step, DoipClient.onSend, sending]

theorem step_serverSend (alive : link.server.fault = none)
    (sending : packetRound link.server.sendQueue sendBuffer locked = (sendQueue, packet)) :
    step vehicle link (.serverSend sendBuffer locked) = .ok (.nothing,
      { link with server := { link.server with sendQueue }, toClient := link.toClient ++ packet.getD [] }) := by
  rw [step, if_pos alive, DoipServer.onSend_eq, sending]

theorem step_serverReceive {count : ℕ} {receiveBuffer : Block cDoipPacketSize} {lookUp : LookUp}
    {server : DoipServer ResponseCache} (alive : link.server.fault = none)
    (received : link.server.onReceive (vehicle.controller lookUp) (Segment.front link.toServer count) receiveBuffer
      locked = server) :
    step vehicle link (.serverReceive count receiveBuffer lookUp locked) = .ok (.nothing,
      { link with
        toServer := link.toServer.drop (Segment.front link.toServer count).data.length
        server }) := by
  rw [step, if_pos alive, ← received]

theorem step_clientReceive {count : ℕ} {receiveBuffer : Block cDoipPacketSize} {client : DoipClient}
    {udsData : Option Bytes}
    (received : link.client.onReceive vehicle.library (Segment.front link.toClient count) receiveBuffer =
      (client, udsData)) :
    step vehicle link (.clientReceive count receiveBuffer) = .ok (.received (udsData.bind onUdsDataReceived),
      { link with client, toClient := link.toClient.drop (Segment.front link.toClient count).data.length }) := by
  rw [step]
  dsimp only
  rw [received]

end Taking

end DiagnosticLink
end AdaptiveAutosar.Application
