import AdaptiveAutosar.Com.Sd.Client.Runs

/-! # Entering `ServiceReady`

`Stopped` and `ServiceSeen` choose `ServiceReady` without a look at the TTL, and the wait in `Stopped` is
over at once when the flag is still set from `Start`; the two timed phases choose it without a look at
the request.
-/

namespace AdaptiveAutosar.Com
open Foundations
set_option autoImplicit false

namespace SdClient

/-- The TTL is that of an Offer, and no StopOffer came behind it. -/
def Offered (client : SdClient) : Prop :=
  ∃ ttl older, client.received = ttl :: older ∧ 0 < ttl ∧ client.timer.ttl = ttl

/-- When the machine is about to transit to `ServiceReady`, the service is requested and on offer. -/
def OnOffer (client : SdClient) : Prop :=
  client.Entering .serviceReady → client.timer.requested = true ∧ client.Offered

/-- What a state that chooses `ServiceReady` does not look at is as it should be: the TTL in `Stopped`
and `ServiceSeen`, the request in `SetTimer`. -/
def ChoosesOffered (client : SdClient) : Place → Prop
  | .choose .stopped _ | .choose .seen _ =>
    client.timer.requested = true → client.timer.getOffered = true
  | .wakeUp _ _ _ => client.timer.getOffered = true → client.timer.requested = true
  | .choose .notSeen _ | .choose .ready _ | .idle | .requestService | .transit _ _ | .getRequested _
  | .getOffered _ | .waitForSignal _ | .signalled _ | .waitForExpiration _ | .waitFor _ | .waiting _
  | .woken _ | .sleep _ _ | .sendFind _ _ | .returned => True

/-- Every choice of `ServiceReady` is that of a service requested and on offer, and no release and no
StopOffer comes between the choice and the transition. -/
def Attentive (client : SdClient) : ClientStep → Prop
  | .proceed => client.ChoosesOffered client.place
  | .stop => ¬ client.Entering .serviceReady
  | .offer ttl => client.Entering .serviceReady → client.validState = true → 0 < ttl
  | .start | .destroy | .signal | .timeout => True

instance (client : SdClient) : (place : Place) → Decidable (client.ChoosesOffered place)
  | .choose .stopped _ | .choose .seen _ =>
    inferInstanceAs (Decidable (client.timer.requested = true → client.timer.getOffered = true))
  | .wakeUp _ _ _ =>
    inferInstanceAs (Decidable (client.timer.getOffered = true → client.timer.requested = true))
  | .choose .notSeen _ | .choose .ready _ | .idle | .requestService | .transit _ _ | .getRequested _
  | .getOffered _ | .waitForSignal _ | .signalled _ | .waitForExpiration _ | .waitFor _ | .waiting _
  | .woken _ | .sleep _ _ | .sendFind _ _ | .returned => isTrue trivial

instance (client : SdClient) : (input : ClientStep) → Decidable (client.Attentive input)
  | .proceed => inferInstanceAs (Decidable (client.ChoosesOffered client.place))
  | .stop => inferInstanceAs (Decidable (¬ client.Entering .serviceReady))
  | .offer ttl => inferInstanceAs
      (Decidable (client.Entering .serviceReady → client.validState = true → 0 < ttl))
  | .start | .destroy | .signal | .timeout => isTrue trivial

variable {repetitions : Repetitions} {client client' : SdClient} {observed : Option Observed}

theorem onOffer_make (signalFlag : Bool) : (make signalFlag).OnOffer := by
  simp [OnOffer, Entering, Place.transitsTo, make]

theorem Sound.offered_iff (h : client.Sound) : client.Offered ↔ client.timer.getOffered = true := by
  unfold Offered TtlTimer.getOffered
  rw [h.ttl]
  cases received : client.received with
  | nil => simp
  | cons ttl older => simp

/-- The choice of `ServiceReady` is the attentive one exactly when the service is requested and on
offer. -/
theorem attentive_proceed : client.Attentive .proceed ↔
    (client.Chooses .serviceReady →
      client.timer.requested = true ∧ client.timer.getOffered = true) := by
  unfold Attentive ChoosesOffered Chooses
  cases place : client.place with
  | choose watch expired =>
    cases watch with
    | stopped | seen =>
      cases requested : client.timer.requested <;>
        simp [Watch.service, stoppedState, serviceSeenState]
    | notSeen =>
      cases requested : client.timer.requested <;> simp [Watch.service, serviceNotseenState]
    | ready =>
      cases requested : client.timer.requested <;> cases expired <;>
        simp [Watch.service, serviceReadyState]
  | wakeUp phase i interrupted => cases offered : client.timer.getOffered <;> simp
  | _ => simp

theorem Move.onOffer (h : client.Sound) (move : Move repetitions client observed client') :
    client'.OnOffer ↔ client.Attentive .proceed := by
  have shared := move.shared
  have requested : client'.timer.requested = client.timer.requested := congrArg Shared.requested shared
  have ttl : client'.timer.ttl = client.timer.ttl := congrArg Shared.ttl shared
  have received : client'.received = client.received := congrArg Shared.received shared
  have offered : client'.Offered ↔ client.timer.getOffered = true := by
    rw [← h.offered_iff]
    simp only [Offered, ttl, received]
  rw [attentive_proceed, OnOffer, move.entering h (Or.inl rfl), requested, offered]

theorem onOffer_iff_attentive_step (h : client.Sound) (onOffer : client.OnOffer) {input : ClientStep}
    (taken : client.step repetitions input = .ok (observed, client')) :
    client'.OnOffer ↔ client.Attentive input := by
  cases step_effect taken with
  | refused | destroys | silent | signals | waits => exact iff_of_true onOffer trivial
  | starts => exact iff_of_true (by simp [OnOffer, Entering, Place.transitsTo, startAgent]) trivial
  | stops => simp [OnOffer, Attentive, Entering, setRequested]
  | ignores invalid =>
    refine iff_of_true onOffer fun _ valid => ?_
    cases invalid.symm.trans valid
  | @offers ttl valid =>
    constructor
    · intro after entering _
      obtain ⟨-, _, _, same, positive, -⟩ := after entering
      cases same
      exact positive
    · intro attentive entering
      have requested := (onOffer entering).1
      exact ⟨requested, ttl, client.received, rfl, attentive entering valid, rfl⟩
  | timesOut => exact iff_of_true (by simp [OnOffer, Entering, Place.transitsTo]) trivial
  | proceeds move => exact move.onOffer h

/-- In every run of the client: whenever the machine is about to enter `ServiceReady`, the service is
requested and its last entry is an Offer, exactly when every choice of `ServiceReady` is attentive. Then
it is so in the very step that enters `ServiceReady`. -/
theorem onOffer_iff_attentive (repetitions : Repetitions) (signalFlag : Bool)
    {trace : List (Taken SdClient ClientStep (Option Observed))}
    (run : Run (step repetitions) (make signalFlag) trace client) :
    (Run.Throughout OnOffer trace client ↔ Run.Every Attentive trace) ∧
      (Run.Every Attentive trace → ∀ taken ∈ trace,
        taken.output = some (.transited .serviceReady) →
          taken.before.timer.requested = true ∧ taken.before.Offered) := by
  have throughout := Run.stays_iff_every (sound_make signalFlag) (onOffer_make signalFlag)
    (fun _ _ _ _ h taken => sound_step h taken)
    (fun _ _ _ _ h onOffer taken => onOffer_iff_attentive_step h onOffer taken) run
  refine ⟨throughout, fun every taken there entered => ?_⟩
  obtain ⟨after, step⟩ := run.taken_step there
  rw [entered] at step
  exact (throughout.mpr every).2 taken there (transited_entering step)

/-- The service is offered during the initial wait. -/
def offeredInTime : List ClientStep :=
  [.start, .proceed, .proceed, .offer 3, .signal, .proceed, .proceed, .proceed]

theorem onOffer_iff_attentive_offeredInTime : ∃ trace client,
    Run.play (step ⟨1, 100⟩) [] (make false) offeredInTime = .ok (trace, client) ∧
      Run.Throughout OnOffer trace client ∧ client.stateMachine.currentState = .serviceReady := by
  obtain ⟨trace, client, played, every, entered⟩ : ∃ trace client,
      Run.play (step ⟨1, 100⟩) [] (make false) offeredInTime = .ok (trace, client) ∧
        Run.Every Attentive trace ∧ client.stateMachine.currentState = .serviceReady :=
    ⟨_, _, rfl, by decide, rfl⟩
  have both := onOffer_iff_attentive ⟨1, 100⟩ false (Run.of_play .start played)
  exact ⟨trace, client, played, both.1.mpr every, entered⟩

/-- Nobody offers the service: `Stopped` takes the flag that `Start` has set for an offer. -/
def neverOffered : List ClientStep := .start :: List.replicate 16 .proceed

theorem not_always_onOffer : ∃ trace client,
    Run.play (step ⟨1, 100⟩) [] (make false) neverOffered = .ok (trace, client) ∧
      client.received = [] ∧ ∃ taken ∈ trace, taken.output = some (.transited .serviceReady) ∧
        ¬ taken.before.Offered := by
  refine ⟨_, _, rfl, rfl, _, List.mem_cons_self, rfl, ?_⟩
  rintro ⟨ttl, older, received, -⟩
  cases received

end SdClient
end AdaptiveAutosar.Com
