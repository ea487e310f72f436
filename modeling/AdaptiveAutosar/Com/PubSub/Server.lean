import AdaptiveAutosar.Com.Sd.Fsm
import AdaptiveAutosar.Com.Sd.Server.Matching
import AdaptiveAutosar.Foundations.Transition

/-! # The publish-subscribe server

`ara::com::someip::pubsub::SomeIpPubSubServer` with its three states. The subscribers are counted in an
`int32_t` that only `Activate` of the subscribed state sets; a count beyond its range is undefined.
-/

namespace AdaptiveAutosar.Com
open Foundations Foundations.BigEndian
set_option autoImplicit false

inductive PubSubState where
  | serviceDown
  | notSubscribed
  | subscribed
  deriving DecidableEq, Repr

structure OfferedEventgroup where
  serviceId : UInt16
  instanceId : UInt16
  majorVersion : UInt8
  eventgroupId : UInt16
  endpointIp : Ipv4Address
  endpointPort : UInt16
  deriving DecidableEq, Repr

structure SomeIpPubSubServer where
  offered : OfferedEventgroup
  sessionId : UInt16
  /-- Whether an event layer is set. -/
  eventLayer : Bool
  stateMachine : FiniteStateMachine PubSubState
  /-- Indeterminate before the first subscription. -/
  subscriptionCounter : Option ℤ
  deriving DecidableEq, Repr

/-- How a call ends, what it leaves of the server, and what it has sent. -/
structure Reaction where
  outcome : Outcome Unit
  server : SomeIpPubSubServer
  sent : List SomeIpSdMessage

namespace OfferedEventgroup

def compares (offered : OfferedEventgroup) (entry : EventgroupEntry) : Bool :=
  entry.serviceId == offered.serviceId &&
    (entry.instanceId == Entry.cAnyInstanceId || entry.instanceId == offered.instanceId) &&
    (entry.majorVersion == Entry.cAnyMajorVersion || entry.majorVersion == offered.majorVersion) &&
    entry.eventgroupId == offered.eventgroupId

/-- The loop of `onMessageReceived`: the entry it handles. -/
def findEntry (offered : OfferedEventgroup) : List AnyEntry → Option EventgroupEntry
  | [] => none
  | .eventgroup entry :: rest =>
    if entry.type = .subscribing ∧ offered.compares entry then some entry else findEntry offered rest
  | .service _ :: rest => findEntry offered rest

end OfferedEventgroup

namespace SomeIpPubSubServer

def make (offered : OfferedEventgroup) : SomeIpPubSubServer :=
  ⟨offered, 1, false, ⟨.serviceDown⟩, none⟩

def getState (server : SomeIpPubSubServer) : PubSubState := server.stateMachine.currentState

/-! ## The states -/

def activate (server : SomeIpPubSubServer) : PubSubState → SomeIpPubSubServer
  | .subscribed => { server with subscriptionCounter := some 1 }
  | .serviceDown | .notSubscribed => server

/-- `Deactivate` does nothing in all three states. -/
def transit (server : SomeIpPubSubServer) (state nextState : PubSubState) : SomeIpPubSubServer :=
  match server.stateMachine.transit state nextState with
  | none => server
  | some stateMachine => { server with stateMachine }.activate nextState

def int32Max : ℤ := 2147483647
def int32Min : ℤ := -2147483648

/-- `SubscribedState::Subscribed`. -/
def countUp (server : SomeIpPubSubServer) : Outcome SomeIpPubSubServer :=
  match server.subscriptionCounter with
  | none => .error .undefined
  | some counter =>
    if counter < int32Max then .ok { server with subscriptionCounter := some (counter + 1) }
    else .error .undefined

/-- `SubscribedState::Unsubscribed`. -/
def countDown (server : SomeIpPubSubServer) : Outcome SomeIpPubSubServer :=
  match server.subscriptionCounter with
  | none => .error .undefined
  | some counter =>
    if int32Min < counter then
      let server := { server with subscriptionCounter := some (counter - 1) }
      .ok (if counter - 1 ≤ 0 then server.transit .subscribed .notSubscribed else server)
    else .error .undefined

/-! ## Received messages -/

def cDiscardableEndpoint : Bool := true

def acknowledge (server : SomeIpPubSubServer) (state : PubSubState) (entry : EventgroupEntry) :
    Outcome SomeIpSdMessage := do
  let acknowledgeMessage ← SomeIpSdMessage.make
  if state = .serviceDown then
    let acknowledgeEntry ← entry.createNegativeAcknowledgeEntry
    pure (acknowledgeMessage.addEntry (.eventgroup acknowledgeEntry))
  else
    let acknowledgeEntry ← entry.createAcknowledgeEntry
    let multicastEndpoint ← Ipv4EndpointOption.createMulticastEndpoint cDiscardableEndpoint
      server.offered.endpointIp server.offered.endpointPort
    let acknowledgeEntry ←
      (AnyEntry.eventgroup acknowledgeEntry).addFirstOption (.ipv4Endpoint multicastEndpoint)
    pure (acknowledgeMessage.addEntry acknowledgeEntry)

def subscribe (server : SomeIpPubSubServer) : Outcome SomeIpPubSubServer :=
  match server.getState with
  | .serviceDown => .ok server
  | .notSubscribed => .ok (server.transit .notSubscribed .subscribed)
  | .subscribed => server.countUp

def processEntry (server : SomeIpPubSubServer) (entry : EventgroupEntry) : Reaction :=
  let state := server.getState
  match server.subscribe with
  | .error e => ⟨.error e, server, []⟩
  | .ok server =>
    match server.acknowledge state entry with
    | .error e => ⟨.error e, server, []⟩
    | .ok acknowledgeMessage => ⟨.ok (), server, [acknowledgeMessage]⟩

def unsubscribe (server : SomeIpPubSubServer) : Outcome SomeIpPubSubServer :=
  if server.getState = .subscribed then server.countDown else .ok server

def onMessageReceived (server : SomeIpPubSubServer) (message : SomeIpSdMessage) : Reaction :=
  match server.offered.findEntry message.entries with
  | none => ⟨.ok (), server, []⟩
  | some entry =>
    if entry.ttl > 0 then server.processEntry entry
    else
      match server.unsubscribe with
      | .error e => ⟨.error e, server, []⟩
      | .ok server => ⟨.ok (), server, []⟩

/-! ## The public API -/

def setEventLayer (server : SomeIpPubSubServer) (eventLayer : Bool) : SomeIpPubSubServer :=
  { server with eventLayer }

def cProtocolVersion : UInt8 := 1
def cNotificationType : UInt8 := 0x02
def cReturnCode : UInt8 := 0x00

def notificationHeader (server : SomeIpPubSubServer) (eventId : UInt16) (payload : Bytes) : Bytes :=
  let messageId := server.offered.serviceId.toUInt32 <<< 16 ||| eventId.toUInt32
  let length := UInt32.ofNat (8 + payload.length)
  let notification := injectInteger [] messageId
  let notification := injectInteger notification length
  let notification := injectShort notification 0
  let notification := injectShort notification server.sessionId
  notification ++ [cProtocolVersion, server.offered.majorVersion, cNotificationType, cReturnCode]

/-- What is given to `SendRaw`, if anything, and the server with its next session. -/
def publish (server : SomeIpPubSubServer) (eventId : UInt16) (payload : Bytes) :
    Option Bytes × SomeIpPubSubServer :=
  if server.eventLayer = false then (none, server)
  else if server.getState ≠ .subscribed then (none, server)
  else
    let sessionId := server.sessionId + 1
    (some (server.notificationHeader eventId payload ++ payload),
      { server with sessionId := if sessionId = 0 then 1 else sessionId })

def start (server : SomeIpPubSubServer) : SomeIpPubSubServer :=
  match server.getState with
  | .serviceDown => server.transit .serviceDown .notSubscribed
  | .notSubscribed | .subscribed => server

def stop (server : SomeIpPubSubServer) : SomeIpPubSubServer :=
  match server.getState with
  | .serviceDown => server
  | .notSubscribed => server.transit .notSubscribed .serviceDown
  | .subscribed => server.transit .subscribed .serviceDown

end SomeIpPubSubServer

inductive PubSubCall where
  | start
  | stop
  | receive (message : SomeIpSdMessage)
  | setEventLayer (eventLayer : Bool)
  | publish (eventId : UInt16) (payload : Bytes)
  deriving DecidableEq, Repr

namespace SomeIpPubSubServer

/-- What the call sends to the service discovery. After an exception the server goes on, after undefined
behaviour nothing does. -/
def step (server : SomeIpPubSubServer) : PubSubCall → Outcome (List SomeIpSdMessage × SomeIpPubSubServer)
  | .start => .ok ([], server.start)
  | .stop => .ok ([], server.stop)
  | .receive message =>
    let reaction := server.onMessageReceived message
    match reaction.outcome with
    | .ok () | .error (.thrown _) => .ok (reaction.sent, reaction.server)
    | .error e => .error e
  | .setEventLayer eventLayer => .ok ([], server.setEventLayer eventLayer)
  | .publish eventId payload => .ok ([], (server.publish eventId payload).2)

/-! ## What the calls do -/

section Calls
variable {server server' : SomeIpPubSubServer}

@[simp] theorem getState_mk (offered : OfferedEventgroup) (sessionId : UInt16) (eventLayer : Bool)
    (state : PubSubState) (counter : Option ℤ) :
    getState ⟨offered, sessionId, eventLayer, ⟨state⟩, counter⟩ = state := rfl

theorem transit_current {state : PubSubState} (current : server.getState = state)
    (nextState : PubSubState) : server.transit state nextState =
      { server with
        stateMachine := ⟨nextState⟩
        subscriptionCounter :=
          if nextState = .subscribed then some 1 else server.subscriptionCounter } := by
  have taken : state = server.stateMachine.currentState := current.symm
  rw [transit, FiniteStateMachine.transit, if_pos taken]
  cases nextState <;> rfl

theorem start_eq (server : SomeIpPubSubServer) :
    server.start =
      if server.getState = .serviceDown then { server with stateMachine := ⟨.notSubscribed⟩ }
      else server := by
  unfold start
  cases current : server.getState with
  | serviceDown => exact transit_current current _
  | notSubscribed | subscribed => rfl

theorem stop_eq (server : SomeIpPubSubServer) :
    server.stop = { server with stateMachine := ⟨.serviceDown⟩ } := by
  unfold stop
  cases current : server.getState with
  | serviceDown => exact congrArg (fun state => { server with stateMachine := ⟨state⟩ }) current
  | notSubscribed | subscribed => exact transit_current current _

theorem subscribe_first (current : server.getState = .notSubscribed) :
    server.subscribe =
      .ok { server with stateMachine := ⟨.subscribed⟩, subscriptionCounter := some 1 } := by
  simp only [subscribe, current, transit_current current, if_true]

theorem subscribe_more {counter : ℤ} (current : server.getState = .subscribed)
    (counted : server.subscriptionCounter = some counter) :
    server.subscribe =
      if counter < int32Max then .ok { server with subscriptionCounter := some (counter + 1) }
      else .error .undefined := by
  simp only [subscribe, current, countUp, counted]

theorem unsubscribe_one {counter : ℤ} (current : server.getState = .subscribed)
    (counted : server.subscriptionCounter = some counter) (positive : 1 ≤ counter) :
    server.unsubscribe =
      .ok { server with
        stateMachine := ⟨if counter = 1 then .notSubscribed else .subscribed⟩
        subscriptionCounter := some (counter - 1) } := by
  have inRange : int32Min < counter := by
    unfold int32Min
    omega
  rw [unsubscribe, if_pos current, countDown, counted]
  simp only [inRange, if_true]
  by_cases last : counter = 1
  · subst last
    have still : getState { server with subscriptionCounter := some (1 - 1) } = .subscribed := current
    rw [if_pos (by omega), transit_current still]
    rfl
  · rw [if_neg (by omega), if_neg last, ← current]
    rfl

end Calls

/-- The subscribed state has counted at least one subscriber, within the range of its counter. -/
def Counted (server : SomeIpPubSubServer) : Prop :=
  server.getState = .subscribed →
    ∃ counter, server.subscriptionCounter = some counter ∧ 1 ≤ counter ∧ counter ≤ int32Max

section Kept
variable {server server' : SomeIpPubSubServer}

theorem counted_of_other (other : server.getState ≠ .subscribed) : server.Counted :=
  fun current => absurd current other

theorem Counted.subscribe (counted : server.Counted) (done : server.subscribe = .ok server') :
    server'.Counted ∧ server'.offered = server.offered := by
  cases current : server.getState with
  | serviceDown =>
    rw [SomeIpPubSubServer.subscribe, current] at done
    cases done
    exact ⟨counted, rfl⟩
  | notSubscribed =>
    rw [subscribe_first current] at done
    cases done
    exact ⟨fun _ => ⟨1, rfl, by omega, by unfold int32Max; omega⟩, rfl⟩
  | subscribed =>
    obtain ⟨counter, isCounter, positive, -⟩ := counted current
    rw [subscribe_more current isCounter] at done
    split_ifs at done with inRange
    cases done
    exact ⟨fun _ => ⟨counter + 1, rfl, by omega, by omega⟩, rfl⟩

theorem Counted.unsubscribe (counted : server.Counted) : ∃ server',
    server.unsubscribe = .ok server' ∧ server'.Counted ∧ server'.offered = server.offered := by
  by_cases current : server.getState = .subscribed
  · obtain ⟨counter, isCounter, positive, inRange⟩ := counted current
    refine ⟨_, unsubscribe_one current isCounter positive, ?_, rfl⟩
    intro still
    by_cases last : counter = 1
    · rw [getState_mk, if_pos last] at still
      cases still
    · exact ⟨counter - 1, rfl, by omega, by omega⟩
  · exact ⟨server, if_neg current, counted, rfl⟩

theorem Counted.receive (counted : server.Counted) (message : SomeIpSdMessage) :
    (server.onMessageReceived message).server.Counted ∧
      (server.onMessageReceived message).server.offered = server.offered := by
  unfold onMessageReceived
  cases server.offered.findEntry message.entries with
  | none => exact ⟨counted, rfl⟩
  | some entry =>
    simp only
    split_ifs
    · unfold processEntry
      cases done : server.subscribe with
      | error e => exact ⟨counted, rfl⟩
      | ok server' =>
        have kept := counted.subscribe done
        simp only
        cases server'.acknowledge server.getState entry <;> exact kept
    · obtain ⟨server', done, kept⟩ := counted.unsubscribe
      rw [done]
      exact kept

theorem Counted.step {call : PubSubCall} {sent : List SomeIpSdMessage} (counted : server.Counted)
    (taken : server.step call = .ok (sent, server')) :
    server'.Counted ∧ server'.offered = server.offered := by
  cases call with
  | start =>
    cases taken
    rw [start_eq]
    split_ifs
    · exact ⟨counted_of_other (by simp), rfl⟩
    · exact ⟨counted, rfl⟩
  | stop =>
    cases taken
    rw [stop_eq]
    exact ⟨counted_of_other (by simp), rfl⟩
  | receive message =>
    have kept := counted.receive message
    simp only [SomeIpPubSubServer.step] at taken
    split at taken <;> cases taken <;> exact kept
  | setEventLayer eventLayer =>
    cases taken
    exact ⟨counted, rfl⟩
  | publish eventId payload =>
    cases taken
    unfold publish
    split_ifs <;> exact ⟨counted, rfl⟩

/-- In every run the subscribers are counted and the offer stays the same. -/
theorem reached_counted {offered : OfferedEventgroup}
    {trace : List (Taken SomeIpPubSubServer PubSubCall (List SomeIpSdMessage))}
    (run : Run SomeIpPubSubServer.step (make offered) trace server) :
    server.Counted ∧ server.offered = offered := by
  let inv (server : SomeIpPubSubServer) : Prop := server.Counted ∧ server.offered = offered
  have start : inv (make offered) := ⟨counted_of_other (by simp [make]), rfl⟩
  refine Run.reached start ?_ run
  rintro server call sent server' ⟨counted, same⟩ taken
  obtain ⟨counted', same'⟩ := counted.step taken
  exact ⟨counted', same'.trans same⟩

end Kept

end SomeIpPubSubServer
end AdaptiveAutosar.Com
