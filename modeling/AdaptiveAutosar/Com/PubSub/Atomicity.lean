import AdaptiveAutosar.Com.PubSub.Acknowledge

/-! # Requests that the publish-subscribe server cannot acknowledge

`processEntry` changes the state and counts the subscriber before it makes the multicast option, which
throws for an endpoint that is no multicast address.
-/

namespace AdaptiveAutosar.Com
open Foundations
set_option autoImplicit false

namespace SomeIpPubSubServer

/-- The call completes with the acknowledgement that the message calls for, or it throws and leaves the
state and the subscribers as they were. -/
def Atomic (server : SomeIpPubSubServer) (message : SomeIpSdMessage) : Prop :=
  server.Acknowledges message ∨
    ∃ e, (server.onMessageReceived message).outcome = .error (.thrown e) ∧
      (server.onMessageReceived message).server.getState = server.getState ∧
      (server.onMessageReceived message).server.subscriptionCounter = server.subscriptionCounter

/-- A first request with a TTL, while the service is up, has an acknowledgement that can be made and a
subscriber that can be counted. -/
def Serves (server : SomeIpPubSubServer) (message : SomeIpSdMessage) : Prop :=
  ∀ request, server.offered.First message request → 0 < request.ttl → server.getState ≠ .serviceDown →
    server.offered.endpointIp.IsMulticast ∧
      (server.getState = .subscribed → server.subscriptionCounter ≠ some int32Max)

variable {server server' : SomeIpPubSubServer} {request : EventgroupEntry}

theorem acknowledge_thrown {state : PubSubState} (up : state ≠ .serviceDown)
    (other : ¬ server.offered.endpointIp.IsMulticast) :
    server.acknowledge state request = .error (.thrown (.invalidArgument "IP address is out of range.")) := by
  have thrown : Ipv4EndpointOption.createMulticastEndpoint cDiscardableEndpoint server.offered.endpointIp
      server.offered.endpointPort = .error (.thrown (.invalidArgument "IP address is out of range.")) :=
    dif_neg other
  unfold acknowledge
  simp only [SomeIpSdMessage.make_eq, bind, Except.bind, up, if_false, request.createAcknowledgeEntry_eq, thrown]

/-- A subscription is never nothing: it leaves another state or another count. -/
theorem Counted.subscribe_changes (counted : server.Counted) (up : server.getState ≠ .serviceDown)
    (done : server.subscribe = .ok server') :
    ¬ (server'.getState = server.getState ∧ server'.subscriptionCounter = server.subscriptionCounter) := by
  rintro ⟨state, counter⟩
  cases current : server.getState with
  | serviceDown => exact up current
  | notSubscribed =>
    rw [subscribe_first current] at done
    cases done
    exact absurd (state.trans current) nofun
  | subscribed =>
    obtain ⟨count, isCounter, -⟩ := counted current
    rw [subscribe_more current isCounter] at done
    split_ifs at done
    cases done
    have same := Option.some.inj (counter.trans isCounter)
    omega

theorem not_atomic_of_full {message : SomeIpSdMessage} (first : server.offered.First message request)
    (live : 0 < request.ttl) (current : server.getState = .subscribed)
    (full : server.subscriptionCounter = some int32Max) : ¬ server.Atomic message := by
  have undefined := overflow_undefined first live current full
  rintro (acknowledges | ⟨e, threw, -⟩)
  · exact absurd (undefined.symm.trans acknowledges.returns) nofun
  · exact absurd (undefined.symm.trans threw) nofun

/-- Without a multicast address a request that comes while the service is up is half done. -/
theorem Counted.not_atomic {message : SomeIpSdMessage} (counted : server.Counted)
    (first : server.offered.First message request) (live : 0 < request.ttl) (up : server.getState ≠ .serviceDown)
    (other : ¬ server.offered.endpointIp.IsMulticast)
    (room : server.getState = .subscribed → server.subscriptionCounter ≠ some int32Max) :
    ¬ server.Atomic message := by
  obtain ⟨server', done, -⟩ := counted.subscribe_ok room
  have other' : ¬ server'.offered.endpointIp.IsMulticast := (counted.subscribe done).2 ▸ other
  have threw : server.processEntry request =
      ⟨.error (.thrown (.invalidArgument "IP address is out of range.")), server', []⟩ := by
    simp only [processEntry, done, acknowledge_thrown up other']
  have begins := (onMessageReceived_first first live).trans threw
  rintro (acknowledges | ⟨e, -, state, counter⟩)
  · have returns := acknowledges.returns
    rw [begins] at returns
    cases returns
  · rw [begins] at state counter
    exact counted.subscribe_changes up done ⟨state, counter⟩

/-- For every endpoint address and every message in every reachable state: the call is atomic exactly when
the request in the message, if the service is up, can be acknowledged and counted. -/
theorem atomic_iff {offered : OfferedEventgroup}
    {trace : List (Taken SomeIpPubSubServer PubSubCall (List SomeIpSdMessage))}
    (run : Run step (make offered) trace server) (message : SomeIpSdMessage) :
    server.Atomic message ↔ server.Serves message := by
  obtain ⟨counted, -⟩ := reached_counted run
  constructor
  · intro atomic request first live up
    have room : server.getState = .subscribed → server.subscriptionCounter ≠ some int32Max :=
      fun current full => not_atomic_of_full first live current full atomic
    refine ⟨?_, room⟩
    by_contra other
    exact counted.not_atomic first live up other room atomic
  · intro serves
    by_cases subscribes : ∃ request, server.offered.First message request ∧ 0 < request.ttl
    · obtain ⟨request, first, live⟩ := subscribes
      refine .inl (counted.answered (fun up => (serves request first live up).1) first live fun current => ?_)
      exact (serves request first live (by rw [current]; decide)).2 current
    · refine .inl (counted.unanswered fun request first => ?_)
      by_contra other
      exact subscribes ⟨request, first, UInt32.pos_iff_ne_zero.mpr other⟩

theorem atomic_iff_sample : ∃ trace server,
    Run.play step [] (make sampleEventgroup) [.start, .receive subscribing] = .ok (trace, server) ∧
      server.Atomic subscribing := by
  obtain ⟨trace, server, played, serves⟩ : ∃ trace server,
      Run.play step [] (make sampleEventgroup) [.start, .receive subscribing] = .ok (trace, server) ∧
        server.subscriptionCounter = some 1 ∧ server.offered = sampleEventgroup := ⟨_, _, rfl, rfl, rfl⟩
  obtain ⟨counter, same⟩ := serves
  refine ⟨trace, server, played, (atomic_iff (Run.of_play .start played) subscribing).mpr ?_⟩
  intro _ _ _ _
  rw [same, counter]
  exact ⟨by decide, fun _ => by decide⟩

/-- The same eventgroup with an address that is no multicast address: the first request throws, and the
server is subscribed. -/
theorem not_always_atomic : ∃ trace server,
    Run.play step [] (make { sampleEventgroup with endpointIp := ⟨192, 168, 0, 1⟩ }) [.start] =
        .ok (trace, server) ∧ ¬ server.Atomic subscribing := by
  obtain ⟨trace, server, played, current⟩ : ∃ trace server,
      Run.play step [] (make { sampleEventgroup with endpointIp := ⟨192, 168, 0, 1⟩ }) [.start] =
        .ok (trace, server) ∧
      (server.onMessageReceived subscribing).outcome ≠ .ok () ∧ server.getState = .notSubscribed ∧
      (server.onMessageReceived subscribing).server.getState = .subscribed := ⟨_, _, rfl, nofun, rfl, rfl⟩
  obtain ⟨faults, before, after⟩ := current
  refine ⟨trace, server, played, ?_⟩
  rintro (acknowledges | ⟨e, -, state, -⟩)
  · exact faults acknowledges.returns
  · exact absurd (after.symm.trans (state.trans before)) nofun

end SomeIpPubSubServer
end AdaptiveAutosar.Com
