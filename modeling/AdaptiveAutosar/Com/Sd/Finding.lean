import AdaptiveAutosar.Com.Sd.Discovery

/-! # How a client finds a server

A Find that comes to a server with no call of `receiveFind` or `sendOffer` going on in it is queued, taken
out and answered by the steps of that server alone.
-/

namespace AdaptiveAutosar.Com
open Foundations
set_option autoImplicit false

namespace OfferQueue
variable {ι : Type} [DecidableEq ι] {service : OfferedService} {state : OfferQueue ι}

/-- A call of `receiveFind` that nobody else disturbs. -/
theorem Sound.accepts (h : state.Sound service) (free : state.messageBuffer.mutex = none) {receiver : ι}
    (outside : state.messageBuffer.position (some receiver) = .outside) {find : SomeIpSdMessage}
    (matching : service.matchOfferingService find.entries = true)
    (trace : List (Taken (OfferQueue ι) (OfferStep ι) Unit)) :
    ∃ trace' state', Run.play (step service) trace state
        (.receive receiver find :: List.replicate 4 (.attempt receiver)) = .ok (trace', state') ∧
      state'.Sound service ∧ state'.machine = state.machine ∧ state'.messageBuffer.mutex = none ∧
      state'.messageBuffer.queue = state.messageBuffer.queue ++ [find] ∧ state'.offers = state.offers := by
  obtain ⟨s1, e1, taken1⟩ : ∃ s1, s1 = { state with
      messageBuffer := state.messageBuffer.move (some receiver) (.enqueueLock find) } ∧
      state.step service (.receive receiver find) = .ok ((), s1) := by
    refine ⟨_, rfl, ?_⟩
    simp [step, outside, matching]
  obtain ⟨s2, e2, taken2⟩ : ∃ s2, s2 = { s1 with
      messageBuffer := s1.messageBuffer.lock (some receiver) (.emplace find) } ∧
      s1.step service (.attempt receiver) = .ok ((), s2) := by
    refine ⟨_, rfl, ?_⟩
    simp [e1, step, SharedQueue.advance, free, bind, Except.bind, pure, Except.pure]
  obtain ⟨s3, e3, taken3⟩ : ∃ s3, s3 = { s2 with
      messageBuffer := s2.messageBuffer.put (some receiver) find } ∧
      s2.step service (.attempt receiver) = .ok ((), s3) := by
    refine ⟨_, rfl, ?_⟩
    simp [e2, e1, step, SharedQueue.advance, bind, Except.bind, pure, Except.pure]
  obtain ⟨s4, e4, taken4⟩ : ∃ s4, s4 = { s3 with
      messageBuffer := s3.messageBuffer.count (some receiver) (s3.messageBuffer.size + 1)
        (.enqueueUnlock find) } ∧ s3.step service (.attempt receiver) = .ok ((), s4) := by
    refine ⟨_, rfl, ?_⟩
    simp [e3, e2, e1, step, SharedQueue.advance, bind, Except.bind, pure, Except.pure]
  obtain ⟨s5, e5, taken5⟩ : ∃ s5, s5 = { s4 with
      messageBuffer := s4.messageBuffer.unlock (some receiver)
      received := s4.received ++ [find] } ∧ s4.step service (.attempt receiver) = .ok ((), s5) := by
    refine ⟨_, rfl, ?_⟩
    simp [e4, e3, e2, e1, step, SharedQueue.advance, bind, Except.bind, pure, Except.pure]
  have sound := sound_step (sound_step (sound_step (sound_step (sound_step h taken1) taken2) taken3) taken4)
    taken5
  refine ⟨⟨s4, .attempt receiver, ()⟩ :: ⟨s3, .attempt receiver, ()⟩ :: ⟨s2, .attempt receiver, ()⟩ ::
    ⟨s1, .attempt receiver, ()⟩ :: ⟨state, .receive receiver find, ()⟩ :: trace, s5, ?_, sound, ?_, ?_, ?_,
    ?_⟩
  · simp only [List.replicate_succ, List.replicate_zero, Run.play, taken1, taken2, taken3, taken4, taken5]
  · subst e1 e2 e3 e4 e5
    rfl
  · rw [e5]
    rfl
  · subst e1 e2 e3 e4 e5
    rfl
  · subst e1 e2 e3 e4 e5
    rfl

/-- A find that a server at rest takes for its own is answered by it alone. -/
theorem Sound.answers (h : state.Sound service) (rests : state.machine = .resting)
    (free : state.messageBuffer.mutex = none) {receiver : ι}
    (outside : state.messageBuffer.position (some receiver) = .outside) {find : SomeIpSdMessage}
    (matching : service.matchOfferingService find.entries = true)
    (trace : List (Taken (OfferQueue ι) (OfferStep ι) Unit)) :
    ∃ times trace' state', Run.play (step service) trace state
        (.receive receiver find :: List.replicate 4 (.attempt receiver) ++
          .expire :: List.replicate times .proceed) = .ok (trace', state') ∧
      state'.machine = .resting ∧ state.offers.length < state'.offers.length := by
  obtain ⟨trace1, s, accepted, sound, machine, free', queue, offers⟩ :=
    h.accepts free outside matching trace
  obtain ⟨started, e, taken⟩ : ∃ started, started = { s with
      machine := .checking
      due := s.offers.length + s.messageBuffer.size } ∧ s.step service .expire = .ok ((), started) :=
    ⟨_, rfl, by simp only [step, machine, rests]⟩
  have sound' := sound_step sound taken
  obtain ⟨times, trace', last, played, rests', -, all⟩ :=
    sound'.drains (e ▸ rfl) (e ▸ free') (⟨s, .expire, ()⟩ :: trace1)
  refine ⟨times, trace', last, ?_, rests', ?_⟩
  · rw [Run.play_append accepted, Run.play_cons taken]
    exact played
  · have last_sound : last.Sound service :=
      Run.play_keeps (fun _ _ _ _ h taken => sound_step h taken) sound' played
    have before : started.answered.length = state.offers.length := by
      rw [← sound'.each, e, offers]
    have after : started.messageBuffer.queue.length = state.messageBuffer.queue.length + 1 := by
      rw [e, queue, List.length_append, List.length_singleton]
    rw [last_sound.each, all, List.length_append]
    omega

end OfferQueue

namespace SdGroup
variable {γ δ ι : Type} [DecidableEq γ] [DecidableEq δ] [DecidableEq ι] {setup : SdSetup γ δ}
  {group group' : SdGroup γ δ ι} {server : δ}

/-- The step of the group that is one of a server. A find comes from the network. -/
def ownStep (server : δ) : OfferStep ι → GroupStep γ δ ι
  | .receive receiver _ => .toServer server receiver 0 []
  | .attempt receiver => .attempt server receiver
  | .expire => .expire server
  | .proceed => .proceed server

theorem Sound.step_own (h : group.Sound setup) {input : GroupStep γ δ ι} {own : OfferStep ι}
    {offering : OfferQueue ι} (event : group.event input = some (.server server (.offer own)))
    (taken : (group.agents.servers server).offering.step (setup.server server).service own =
      .ok ((), offering)) :
    ∃ group', group.step input = .ok ((), group') ∧ (group'.agents.servers server).offering = offering ∧
      ∃ more, group'.sent = group.sent ++ more := by
  rw [← h.services server] at taken
  unfold SdGroup.step
  rw [event]
  simp only [SdAgents.step, SdOfferer.step, taken, bind, Except.bind, pure, Except.pure]
  refine ⟨_, rfl, ?_, _, rfl⟩
  simp only [Function.update_self]

/-- A run of a server alone is one of the group. -/
theorem Sound.play_own (h : group.Sound setup) {owns : List (OfferStep ι)}
    (inner : ∀ own ∈ owns, ∀ receiver find, own ≠ .receive receiver find)
    {older newer : List (Taken (OfferQueue ι) (OfferStep ι) Unit)} {offering : OfferQueue ι}
    (played : Run.play (OfferQueue.step (setup.server server).service) older
      (group.agents.servers server).offering owns = .ok (newer, offering))
    (trace : List (Taken (SdGroup γ δ ι) (GroupStep γ δ ι) Unit)) :
    ∃ trace' group', Run.play SdGroup.step trace group (owns.map (ownStep server)) = .ok (trace', group') ∧
      (group'.agents.servers server).offering = offering ∧ ∃ more, group'.sent = group.sent ++ more := by
  induction owns generalizing group older trace with
  | nil =>
    cases played
    exact ⟨trace, group, rfl, rfl, [], (List.append_nil _).symm⟩
  | cons own owns ih =>
    obtain ⟨here, later⟩ := List.forall_mem_cons.mp inner
    have event : group.event (ownStep server own) = some (.server server (.offer own)) := by
      cases own with
      | receive receiver find => exact absurd rfl (here receiver find)
      | attempt | expire | proceed => rfl
    obtain ⟨next, taken⟩ := (h.queues server).total own
    rw [Run.play_cons taken] at played
    obtain ⟨group₁, stepped, same, more, sent⟩ := h.step_own event taken
    rw [← same] at played
    obtain ⟨trace', group', played', offering', rest, sent'⟩ :=
      ih (h.step stepped) later played (⟨group, ownStep server own, ()⟩ :: trace)
    refine ⟨trace', group', ?_, offering', more ++ rest, ?_⟩
    · rw [List.map_cons, Run.play_cons stepped]
      exact played'
    · rw [sent', sent, List.append_assoc]

/-- The Find that is about to be sent comes to a server, and its steps alone bring an Offer. -/
theorem Sound.asks (h : group.Sound setup) {client : γ} {receiver : ι}
    (same : (setup.server server).service.serviceId = setup.serviceId client)
    (rests : (group.agents.servers server).offering.machine = .resting)
    (free : (group.agents.servers server).offering.messageBuffer.mutex = none)
    (outside : (group.agents.servers server).offering.messageBuffer.position (some receiver) = .outside)
    (trace : List (Taken (SdGroup γ δ ι) (GroupStep γ δ ι) Unit)) :
    ∃ times trace' group', Run.play SdGroup.step trace group
        (.sendFind client :: .toServer server receiver group.sent.length [] ::
          (List.replicate 4 (.attempt server receiver) ++
            .expire server :: List.replicate times (.proceed server))) = .ok (trace', group') ∧
      ∃ k payload, group.sent.length < k ∧ group'.sent[k]? = some (.offer server, payload) := by
  obtain ⟨group₁, sends, servers, find, sent₁⟩ : ∃ group₁,
      group.step (.sendFind client) = .ok ((), group₁) ∧
      group₁.agents.servers = group.agents.servers ∧
      ∃ find, group₁.sent = group.sent ++ [(.find client, find)] := ⟨_, rfl, rfl, _, rfl⟩
  have h₁ := h.step sends
  have asked : group₁.sent[group.sent.length]? = some (.find client, find) := by
    rw [sent₁, List.getElem?_concat_length]
  obtain ⟨message, carrying, rfl⟩ := h₁.sent _ (List.mem_of_getElem? asked)
  have arrives : group₁.arriving group.sent.length [] = some message := by
    simp only [SdGroup.arriving, asked, Option.bind_some, carrying.handedOn]
  have matching : (setup.server server).service.matchOfferingService message.entries = true := by
    rw [carrying.entries, OfferedService.matchOfferingService_one]
    simp [SdSetup.entryOf, OfferedService.Finds, OfferedService.compares, ServiceEntry.make, Entry.make, same]
  rw [← servers] at rests free outside
  obtain ⟨times, newer, last, played, -, more_offers⟩ :=
    (h₁.queues server).answers rests free outside matching []
  -- the reception is a step of its own, the rest is done by the server alone
  obtain ⟨received, taken⟩ := (h₁.queues server).total (.receive receiver message)
  rw [List.cons_append, Run.play_cons taken] at played
  have event : group₁.event (.toServer server receiver group.sent.length []) =
      some (.server server (.offer (.receive receiver message))) := by
    simp only [SdGroup.event, arrives, Option.map_some]
  obtain ⟨group₂, receives, offering₂, sent₂, more₂⟩ := h₁.step_own event taken
  have h₂ := h₁.step receives
  rw [← offering₂] at played
  have inner : ∀ own ∈ List.replicate 4 (OfferStep.attempt receiver) ++
      .expire :: List.replicate times .proceed, ∀ receiver find, own ≠ .receive receiver find := by
    intro own there
    simp only [List.mem_append, List.mem_cons, List.mem_replicate] at there
    rcases there with ⟨-, rfl⟩ | rfl | ⟨-, rfl⟩ <;> simp
  obtain ⟨trace', group', played', offering', more', sent'⟩ := h₂.play_own inner played
    (⟨group₁, .toServer server receiver group.sent.length [], ()⟩ :: ⟨group, .sendFind client, ()⟩ :: trace)
  have h' : group'.Sound setup :=
    Run.play_keeps (fun _ _ _ _ h taken => Sound.step h taken) h₂ played'
  refine ⟨times, trace', group', ?_, ?_⟩
  · rw [Run.play_cons sends, Run.play_cons receives]
    simpa [ownStep] using played'
  · have before := h₁.logged server
    have after := h'.logged server
    have sent : group'.sent = group₁.sent ++ (sent₂ ++ more') := by
      rw [sent', more₂, List.append_assoc]
    rw [offering', sent, List.countP_append] at after
    have positive : 0 < (sent₂ ++ more').countP (fun datagram => datagram.1 = .offer server) := by omega
    obtain ⟨⟨sender, payload⟩, there, isOffer⟩ := List.countP_pos_iff.mp positive
    obtain ⟨i, at_⟩ := List.getElem?_of_mem there
    refine ⟨group₁.sent.length + i, payload, ?_, ?_⟩
    · rw [sent₁, List.length_append, List.length_singleton]
      omega
    · rw [sent, List.getElem?_append_right (Nat.le_add_right _ _), Nat.add_sub_cancel_left, at_]
      simpa using isOffer

/-- From every group reached: a client and a server of one service with no call of `receiveFind` or `sendOffer`
going on in it find each other. The Find that the client sends next, one reception of it, the steps
of the server, and one reception of an Offer sent behind the Find leave the client with the endpoint of the
server for an infinite time. -/
theorem client_discovers {init : SdGroup γ δ ι} (constructed : init.Constructed setup)
    {trace : List (Taken (SdGroup γ δ ι) (GroupStep γ δ ι) Unit)} (run : Run step init trace group)
    {client : γ} {receiver : ι} (same : (setup.server server).service.serviceId = setup.serviceId client)
    (rests : (group.agents.servers server).offering.machine = .resting)
    (free : (group.agents.servers server).offering.messageBuffer.mutex = none)
    (outside : (group.agents.servers server).offering.messageBuffer.position (some receiver) = .outside) :
    ∃ times k, group.sent.length < k ∧ ∃ trace' group',
      Run.play SdGroup.step trace group
          (.sendFind client :: .toServer server receiver group.sent.length [] ::
            (List.replicate 4 (.attempt server receiver) ++
              .expire server :: List.replicate times (.proceed server)) ++ [.toClient client k []]) =
          .ok (trace', group') ∧
        (group'.agents.clients client).receiver.Knows (setup.serviceId client)
          (some (cInfiniteTtl, (setup.server server).endpoint)) := by
  obtain ⟨times, trace₁, group₁, played, k, payload, later, offer⟩ :=
    (constructed.reached_sound run).asks same rests free outside trace
  have run₁ := Run.of_play run played
  obtain ⟨group', receives⟩ := (constructed.reached_sound run₁).step_total (.toClient client k [])
  refine ⟨times, k, later, ⟨group₁, .toClient client k [], ()⟩ :: trace₁, group', ?_, ?_⟩
  · rw [Run.play_append played, Run.play_cons receives]
    rfl
  · have informed := constructed.informed (run₁.next receives) client
    have heard : setup.announcedIn client ⟨group₁, .toClient client k [], ()⟩ =
        some (cInfiniteTtl, (setup.server server).endpoint) := by
      simp only [SdSetup.announcedIn, if_true, offer, Option.bind_some, SdSetup.announces, same]
    rw [SdSetup.heard_cons, heard] at informed
    exact informed

theorem client_discovers_sample : ∃ inputs trace group,
    Run.play SdGroup.step [] sampleGroup inputs = .ok (trace, group) ∧
      (group.agents.clients ()).receiver.tryGetOfferedEndpoint = .ok (some ("10.0.0.9", 80)) := by
  have run : Run SdGroup.step sampleGroup [] sampleGroup := .start
  have same : (sampleSetup.server ()).service.serviceId = sampleSetup.serviceId () := rfl
  have outside : (sampleGroup.agents.servers ()).offering.messageBuffer.position (some ()) = .outside := rfl
  obtain ⟨times, k, -, trace, group, played, knows⟩ :=
    client_discovers sampleGroup_constructed run same rfl rfl outside
  exact ⟨_, trace, group, played, knows.endpoint⟩

end SdGroup

end AdaptiveAutosar.Com
