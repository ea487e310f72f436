import AdaptiveAutosar.Com.PubSub.Acknowledge

/-! # Whom the publish-subscribe server serves

The server counts its subscriptions and does not know its clients. Next to it stand here the clients
whose Subscribe was acknowledged positively since the service was started, without an Unsubscribe of
theirs since. `Stop` ends all subscriptions, and a `Start` of a running service changes nothing.
-/

namespace AdaptiveAutosar.Com
open Foundations
set_option autoImplicit false

def AnyEntry.Acknowledged : AnyEntry → Bool
  | .service _ => false
  | .eventgroup entry => entry.isAcknowledge

inductive SubscriptionStep (ι : Type) where
  | start
  | stop
  | receive (client : ι) (message : SomeIpSdMessage)
  | setEventLayer (eventLayer : Bool)
  | publish (eventId : UInt16) (payload : Bytes)
  deriving DecidableEq, Repr

/-- The call to the server, which is not told the client. -/
def SubscriptionStep.call {ι : Type} : SubscriptionStep ι → PubSubCall
  | start => .start
  | stop => .stop
  | receive _ message => .receive message
  | setEventLayer eventLayer => .setEventLayer eventLayer
  | publish eventId payload => .publish eventId payload

/-- `undefined` once the behaviour of the server is. -/
structure Subscriptions (ι : Type) where
  server : SomeIpPubSubServer
  subscribers : List ι
  undefined : Bool

namespace Subscriptions
variable {ι : Type} [DecidableEq ι]

def make (offered : OfferedEventgroup) : Subscriptions ι := ⟨.make offered, [], false⟩

def updated (state : Subscriptions ι) (sent : List SomeIpSdMessage) : SubscriptionStep ι → List ι
  | .stop => []
  | .receive client message =>
    if sent.any fun reply => reply.entries.any AnyEntry.Acknowledged then client :: state.subscribers
    else
      match state.server.offered.findEntry message.entries with
      | some request => if request.ttl = 0 then state.subscribers.filter (· ≠ client) else state.subscribers
      | none => state.subscribers
  | _ => state.subscribers

def step (state : Subscriptions ι) (input : SubscriptionStep ι) : Outcome (Unit × Subscriptions ι) :=
  if state.undefined then .ok ((), state)
  else
    match state.server.step input.call with
    | .error _ => .ok ((), { state with undefined := true })
    | .ok (sent, server) => .ok ((), { state with server, subscribers := state.updated sent input })

/-- With a subscriber the server is subscribed, and with an event layer it hands on every event. -/
structure Serves (state : Subscriptions ι) : Prop where
  defined : state.undefined = false
  subscribed : ∀ client ∈ state.subscribers, state.server.getState = .subscribed
  sends : ∀ client ∈ state.subscribers, state.server.eventLayer = true →
    ∀ eventId payload, (state.server.publish eventId payload).1.isSome

/-- No Subscribe comes when the counter is at its end, and no Unsubscribe of one client when a single
subscription is counted and another client is subscribed. -/
def Balanced (state : Subscriptions ι) : SubscriptionStep ι → Prop
  | .receive client message =>
    match state.server.offered.findEntry message.entries with
    | none => True
    | some request =>
      if 0 < request.ttl then
        ¬ (state.server.getState = .subscribed ∧
          state.server.subscriptionCounter = some SomeIpPubSubServer.int32Max)
      else
        ¬ (state.server.subscriptionCounter = some 1 ∧ ∃ other ∈ state.subscribers, other ≠ client)
  | _ => True

instance (state : Subscriptions ι) (input : SubscriptionStep ι) : Decidable (state.Balanced input) := by
  unfold Balanced
  split
  · split
    · infer_instance
    · split_ifs <;> infer_instance
  · infer_instance

end Subscriptions

/-! ## A message at the server -/

namespace SomeIpPubSubServer
variable {server server' : SomeIpPubSubServer} {message : SomeIpSdMessage} {request : EventgroupEntry}

theorem step_receive {sent : List SomeIpSdMessage} {outcome : Outcome Unit}
    (received : server.onMessageReceived message = ⟨outcome, server', sent⟩)
    (returned : outcome = .ok () ∨ ∃ e, outcome = .error (.thrown e)) :
    server.step (.receive message) = .ok (sent, server') := by
  simp only [step, received]
  obtain rfl | ⟨e, rfl⟩ := returned <;> rfl

theorem step_other (other : server.offered.findEntry message.entries = none) :
    server.step (.receive message) = .ok ([], server) := by
  have received : server.onMessageReceived message = ⟨.ok (), server, []⟩ := by
    rw [onMessageReceived, other]
  exact step_receive received (.inl rfl)

theorem step_unsubscribe (found : server.offered.findEntry message.entries = some request)
    (ends : request.ttl = 0) (done : server.unsubscribe = .ok server') :
    server.step (.receive message) = .ok ([], server') := by
  have received : server.onMessageReceived message = ⟨.ok (), server', []⟩ := by
    rw [onMessageReceived, found]
    simp only [ends]
    rw [if_neg (by decide), done]
  exact step_receive received (.inl rfl)

theorem step_overflow (found : server.offered.findEntry message.entries = some request)
    (live : 0 < request.ttl) (current : server.getState = .subscribed)
    (top : server.subscriptionCounter = some int32Max) :
    server.step (.receive message) = .error .undefined := by
  have first := (server.offered.findEntry_eq_some message request).mp found
  have received := onMessageReceived_first first live
  rw [processEntry, subscribe_more current top, if_neg (by omega)] at received
  simp only [step, received]

/-- A subscription is acknowledged positively only while the service is up. -/
theorem step_subscribe (found : server.offered.findEntry message.entries = some request)
    (live : 0 < request.ttl) (done : server.subscribe = .ok server') :
    ∃ sent, server.step (.receive message) = .ok (sent, server') ∧
      (server.getState = .serviceDown →
        (sent.any fun reply => reply.entries.any AnyEntry.Acknowledged) = false) := by
  have first := (server.offered.findEntry_eq_some message request).mp found
  have received := onMessageReceived_first first live
  by_cases down : server.getState = .serviceDown
  · obtain ⟨reply, answer, built, one, echoes, negative⟩ := acknowledge_down server' request
    rw [processEntry, done] at received
    simp only [down, built] at received
    refine ⟨[reply], step_receive received (.inl rfl), fun _ => ?_⟩
    simp [one, AnyEntry.Acknowledged, EventgroupEntry.isAcknowledge, negative.1]
  · by_cases multicast : server'.offered.endpointIp.IsMulticast
    · obtain ⟨reply, answer, built, -⟩ := acknowledge_up down multicast live
      rw [processEntry, done] at received
      simp only [built] at received
      exact ⟨[reply], step_receive received (.inl rfl), fun isDown => absurd isDown down⟩
    · have thrown : server'.acknowledge server.getState request =
          .error (.thrown (.invalidArgument "IP address is out of range.")) := by
        unfold acknowledge
        simp only [SomeIpSdMessage.make_eq, bind, Except.bind, down, if_false,
          request.createAcknowledgeEntry_eq, Ipv4EndpointOption.createMulticastEndpoint, multicast,
          dite_false]
      rw [processEntry, done] at received
      simp only [thrown] at received
      exact ⟨[], step_receive received (.inr ⟨_, rfl⟩), fun isDown => absurd isDown down⟩

theorem publish_isSome (current : server.getState = .subscribed) (layered : server.eventLayer = true)
    (eventId : UInt16) (payload : Bytes) : (server.publish eventId payload).1.isSome := by
  rw [publish, if_neg (by simp [layered]), if_neg (not_not.mpr current)]
  rfl

end SomeIpPubSubServer

namespace Subscriptions
variable {ι : Type} [DecidableEq ι] {state state' : Subscriptions ι} {input : SubscriptionStep ι}

/-! ## What is kept -/

structure Sound (state : Subscriptions ι) : Prop where
  defined : state.undefined = false
  counted : state.server.Counted
  subscribed : ∀ client ∈ state.subscribers, state.server.getState = .subscribed

omit [DecidableEq ι] in
theorem sound_make (offered : OfferedEventgroup) : (make offered : Subscriptions ι).Sound where
  defined := rfl
  counted := SomeIpPubSubServer.counted_of_other (by simp [make, SomeIpPubSubServer.make])
  subscribed := fun _ there => by cases there

omit [DecidableEq ι] in
theorem Sound.serves (h : state.Sound) : state.Serves where
  defined := h.defined
  subscribed := h.subscribed
  sends := fun client there layered eventId payload =>
    SomeIpPubSubServer.publish_isSome (h.subscribed client there) layered eventId payload

theorem step_ok (input : SubscriptionStep ι) {sent : List SomeIpSdMessage}
    {server : SomeIpPubSubServer} (defined : state.undefined = false)
    (taken : state.server.step input.call = .ok (sent, server)) :
    state.step input = .ok ((), { state with server, subscribers := state.updated sent input }) := by
  simp only [step, defined, Bool.false_eq_true, if_false, taken]

/-- Where the step leads: balanced, the subscriptions stay sound, and otherwise somebody is not served. -/
def Decided (state : Subscriptions ι) (input : SubscriptionStep ι) (state' : Subscriptions ι) : Prop :=
  (state.Balanced input → state'.Sound) ∧ (¬ state.Balanced input → ¬ state'.Serves)

theorem decided_other (h : state.Sound) (client : ι) {message : SomeIpSdMessage}
    (other : state.server.offered.findEntry message.entries = none) :
    ∃ state', state.step (.receive client message) = .ok ((), state') ∧
      state.Decided (.receive client message) state' := by
  have taken := step_ok (.receive client message) h.defined
    (SomeIpPubSubServer.step_other other)
  have same : state.updated [] (.receive client message) = state.subscribers := by
    simp [updated, other]
  rw [same] at taken
  have balanced : state.Balanced (.receive client message) := by
    simp only [Balanced, other]
  exact ⟨_, taken, fun _ => ⟨h.defined, h.counted, h.subscribed⟩, fun not => absurd balanced not⟩

theorem decided_subscribe (h : state.Sound) (client : ι) {message : SomeIpSdMessage}
    {request : EventgroupEntry} (found : state.server.offered.findEntry message.entries = some request)
    (live : 0 < request.ttl) :
    ∃ state', state.step (.receive client message) = .ok ((), state') ∧
      state.Decided (.receive client message) state' := by
  have balanced_iff : state.Balanced (.receive client message) ↔
      ¬ (state.server.getState = .subscribed ∧
        state.server.subscriptionCounter = some SomeIpPubSubServer.int32Max) := by
    simp only [Balanced, found, live, if_true]
  by_cases full : state.server.getState = .subscribed ∧
      state.server.subscriptionCounter = some SomeIpPubSubServer.int32Max
  · have failed := SomeIpPubSubServer.step_overflow found live full.1 full.2
    refine ⟨{ state with undefined := true }, ?_, fun balanced => absurd full (balanced_iff.mp balanced),
      fun _ serves => ?_⟩
    · simp only [step, h.defined, Bool.false_eq_true, if_false, SubscriptionStep.call, failed]
    · cases serves.defined
  · have room : state.server.getState = .subscribed →
        state.server.subscriptionCounter ≠ some SomeIpPubSubServer.int32Max :=
      fun current top => full ⟨current, top⟩
    obtain ⟨server', done, subscribed⟩ := h.counted.subscribe_ok room
    obtain ⟨sent, stepped, silent⟩ := SomeIpPubSubServer.step_subscribe found live done
    have taken := step_ok (.receive client message) h.defined stepped
    refine ⟨_, taken, fun _ => ⟨h.defined, (h.counted.subscribe done).1, ?_⟩,
      fun not => absurd (balanced_iff.mpr full) not⟩
    intro other there
    by_cases down : state.server.getState = .serviceDown
    · have same : state.updated sent (.receive client message) = state.subscribers := by
        simp only [updated, silent down, Bool.false_eq_true, if_false, found]
        rw [if_neg (UInt32.pos_iff_ne_zero.mp live)]
      have current := h.subscribed other (same ▸ there)
      rw [down] at current
      cases current
    · exact subscribed down

theorem decided_unsubscribe (h : state.Sound) (client : ι) {message : SomeIpSdMessage}
    {request : EventgroupEntry} (found : state.server.offered.findEntry message.entries = some request)
    (ends : request.ttl = 0) :
    ∃ state', state.step (.receive client message) = .ok ((), state') ∧
      state.Decided (.receive client message) state' := by
  have balanced_iff : state.Balanced (.receive client message) ↔
      ¬ (state.server.subscriptionCounter = some 1 ∧ ∃ other ∈ state.subscribers, other ≠ client) := by
    simp only [Balanced, found, ends]
    rw [if_neg (by decide)]
  obtain ⟨server', done, counted', -⟩ := h.counted.unsubscribe
  have stepped := SomeIpPubSubServer.step_unsubscribe found ends done
  have taken := step_ok (.receive client message) h.defined stepped
  have rest : state.updated [] (.receive client message) = state.subscribers.filter (· ≠ client) := by
    simp [updated, found, ends]
  rw [rest] at taken
  refine ⟨_, taken, ?_, ?_⟩
  · intro balanced
    refine ⟨h.defined, counted', ?_⟩
    intro other there
    obtain ⟨member, isOther⟩ := List.mem_filter.mp there
    have current := h.subscribed other member
    obtain ⟨counter, isCounter, positive, -⟩ := h.counted current
    rw [SomeIpPubSubServer.unsubscribe_one current isCounter positive] at done
    cases done
    by_cases last : counter = 1
    · rw [last] at isCounter
      exact absurd ⟨isCounter, other, member, by simpa using isOther⟩ (balanced_iff.mp balanced)
    · rw [SomeIpPubSubServer.getState_mk, if_neg last]
  · intro unbalanced serves
    obtain ⟨one, other, member, isOther⟩ := not_not.mp (fun not => unbalanced (balanced_iff.mpr not))
    have current := h.subscribed other member
    rw [SomeIpPubSubServer.unsubscribe_one current one (le_refl 1)] at done
    cases done
    have still := serves.subscribed other (List.mem_filter.mpr ⟨member, by simpa using isOther⟩)
    cases still

theorem decided_call (input : SubscriptionStep ι) {sent : List SomeIpSdMessage}
    {server : SomeIpPubSubServer} (h : state.Sound)
    (stepped : state.server.step input.call = .ok (sent, server)) (balanced : state.Balanced input)
    (served : ∀ client ∈ state.updated sent input, server.getState = .subscribed) :
    ∃ state', state.step input = .ok ((), state') ∧ state.Decided input state' :=
  ⟨_, step_ok input h.defined stepped, fun _ => ⟨h.defined, (h.counted.step stepped).1, served⟩,
    fun not => absurd balanced not⟩

theorem decided_step (h : state.Sound) (input : SubscriptionStep ι) :
    ∃ state', state.step input = .ok ((), state') ∧ state.Decided input state' := by
  cases input with
  | start =>
    apply decided_call .start h rfl trivial
    intro client there
    have current := h.subscribed client there
    rw [SomeIpPubSubServer.start_eq, if_neg (by simp [current])]
    exact current
  | stop =>
    apply decided_call .stop h rfl trivial
    intro client there
    cases there
  | receive client message =>
    cases found : state.server.offered.findEntry message.entries with
    | none => exact decided_other h client found
    | some request =>
      by_cases ends : request.ttl = 0
      · exact decided_unsubscribe h client found ends
      · exact decided_subscribe h client found (UInt32.pos_iff_ne_zero.mpr ends)
  | setEventLayer eventLayer =>
    exact decided_call (.setEventLayer eventLayer) h rfl trivial h.subscribed
  | publish eventId payload =>
    apply decided_call (.publish eventId payload) h rfl trivial
    intro client there
    have current := h.subscribed client there
    unfold SomeIpPubSubServer.publish
    split_ifs <;> exact current

/-- For every history of starts, stops, messages of any clients and events: the server serves its
subscribers in every state exactly when every step is balanced. -/
theorem serves_iff_balanced (offered : OfferedEventgroup)
    {trace : List (Taken (Subscriptions ι) (SubscriptionStep ι) Unit)}
    (run : Run step (make offered) trace state) :
    Run.Throughout Serves trace state ↔ Run.Every Balanced trace :=
  Run.throughout_iff_decided (fun _ h => h.serves) (sound_make offered)
    (fun _ input h => ⟨(), decided_step h input⟩) run

def unsubscribing : SomeIpSdMessage :=
  { SomeIpPubSubServer.subscribing with
    entries := [.eventgroup
      { toEntry := Entry.make .subscribing 1 1 cUnsubscribeEventTTL 1, counter := 0, eventgroupId := 4,
        counter_le := UInt8.zero_le }] }

theorem serves_iff_balanced_shared : ∃ trace state,
    Run.play step [] (make SomeIpPubSubServer.sampleEventgroup)
        [.start, .setEventLayer true, .receive 1 SomeIpPubSubServer.subscribing,
          .receive 2 SomeIpPubSubServer.subscribing, .receive 1 unsubscribing] = .ok (trace, state) ∧
      Run.Throughout Serves trace state ∧ state.subscribers = [2] := by
  obtain ⟨trace, state, played, every, rest⟩ : ∃ trace state,
      Run.play step [] (make SomeIpPubSubServer.sampleEventgroup)
          [.start, .setEventLayer true, .receive 1 SomeIpPubSubServer.subscribing,
            .receive 2 SomeIpPubSubServer.subscribing, .receive 1 unsubscribing] = .ok (trace, state) ∧
        Run.Every Balanced trace ∧ state.subscribers = [2] := ⟨_, _, rfl, by decide, rfl⟩
  exact ⟨trace, state, played,
    (serves_iff_balanced _ (Run.of_play .start played)).mpr every, rest⟩

/-- The surplus Unsubscribe of the second client takes the events from the first one. -/
theorem not_always_serves : ∃ trace state,
    Run.play step [] (make SomeIpPubSubServer.sampleEventgroup)
        [.start, .setEventLayer true, .receive 1 SomeIpPubSubServer.subscribing,
          .receive 2 unsubscribing] = .ok (trace, state) ∧
      state.subscribers = [1] ∧ state.server.getState = .notSubscribed ∧
      (state.server.publish 1 [7]).1 = none ∧ ¬ Run.Throughout Serves trace state := by
  refine ⟨_, _, rfl, rfl, rfl, rfl, ?_⟩
  rintro ⟨serves, -⟩
  have current := serves.subscribed 1 List.mem_cons_self
  cases current

end Subscriptions
end AdaptiveAutosar.Com
