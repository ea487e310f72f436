import AdaptiveAutosar.Com.Sd.Client.Runs

/-! # Behind the expiry of a TTL

`WaitForExpiration` tells `ServiceReady` and `ServiceSeen` that the TTL is over, but leaves it in the
timer, where `SetTimer` of the initial wait finds it again.
-/

namespace AdaptiveAutosar.Com
open Foundations
set_option autoImplicit false

namespace SdClient

/-- Once a TTL is expired, the machine is not about to enter `ServiceReady` or `ServiceSeen`. -/
def Gone (client : SdClient) : Prop :=
  client.expired = true → ¬ client.Entering .serviceReady ∧ ¬ client.Entering .serviceSeen

/-- The state at `place` takes a branch to a service that is gone: `ServiceReady` and `ServiceNotSeen`
have to find it requested, `ServiceSeen` and `Stopped` not requested, and `SetTimer` a TTL of zero. -/
def ChoosesGone (client : SdClient) : Place → Prop
  | .choose .ready _ | .choose .notSeen _ => client.timer.requested = true
  | .choose .seen _ | .choose .stopped _ => client.timer.requested = false
  | .wakeUp _ _ _ => client.timer.getOffered = false
  | .idle | .requestService | .transit _ _ | .getRequested _ | .getOffered _ | .waitForSignal _
  | .signalled _ | .waitForExpiration _ | .waitFor _ | .waiting _ | .woken _ | .sleep _ _ | .sendFind _ _
  | .returned => True

/-- Once a TTL is expired, only branches to a service that is gone are taken. -/
def Resigned (client : SdClient) : ClientStep → Prop
  | .proceed => client.expired = true → client.ChoosesGone client.place
  | .start | .stop | .destroy | .offer _ | .signal | .timeout => True

instance (client : SdClient) : (place : Place) → Decidable (client.ChoosesGone place)
  | .choose .ready _ | .choose .notSeen _ => inferInstanceAs (Decidable (client.timer.requested = true))
  | .choose .seen _ | .choose .stopped _ => inferInstanceAs (Decidable (client.timer.requested = false))
  | .wakeUp _ _ _ => inferInstanceAs (Decidable (client.timer.getOffered = false))
  | .idle | .requestService | .transit _ _ | .getRequested _ | .getOffered _ | .waitForSignal _
  | .signalled _ | .waitForExpiration _ | .waitFor _ | .waiting _ | .woken _ | .sleep _ _ | .sendFind _ _
  | .returned => isTrue trivial

instance (client : SdClient) : (input : ClientStep) → Decidable (client.Resigned input)
  | .proceed => inferInstanceAs (Decidable (client.expired = true → client.ChoosesGone client.place))
  | .start | .stop | .destroy | .offer _ | .signal | .timeout => isTrue trivial

variable {repetitions : Repetitions} {client client' : SdClient} {observed : Option Observed}

theorem gone_make (signalFlag : Bool) : (make signalFlag).Gone := by
  simp [Gone, make]

theorem choosesGone_iff : client.ChoosesGone client.place ↔
    ¬ client.Chooses .serviceReady ∧ ¬ client.Chooses .serviceSeen := by
  unfold ChoosesGone Chooses
  cases place : client.place with
  | choose watch expired =>
    cases watch with
    | notSeen => cases requested : client.timer.requested <;> simp [Watch.service, serviceNotseenState]
    | seen => cases requested : client.timer.requested <;> simp [Watch.service, serviceSeenState]
    | ready =>
      cases requested : client.timer.requested <;> cases expired <;>
        simp [Watch.service, serviceReadyState]
    | stopped => cases requested : client.timer.requested <;> simp [Watch.service, stoppedState]
  | wakeUp phase i interrupted => cases offered : client.timer.getOffered <;> simp
  | _ => simp

theorem gone_iff_resigned_step (h : client.Sound) (gone : client.Gone) {input : ClientStep}
    (taken : client.step repetitions input = .ok (observed, client')) :
    client'.Gone ↔ client.Resigned input := by
  cases step_effect taken with
  | refused | stops | destroys | ignores | silent | signals | waits => exact iff_of_true gone trivial
  | starts => exact iff_of_true (by simp [Gone, Entering, Place.transitsTo, startAgent]) trivial
  | offers =>
    refine iff_of_true (fun expired => gone ?_) trivial
    simp only [setOffered, Bool.and_eq_true] at expired
    exact expired.1
  | timesOut => exact iff_of_true (by simp [Gone, Entering, Place.transitsTo]) trivial
  | proceeds move =>
    have expired : client'.expired = client.expired := congrArg Shared.expired move.shared
    unfold Gone Resigned
    rw [choosesGone_iff, move.entering h (Or.inl rfl), move.entering h (Or.inr rfl), expired]

/-! ## Since the wait timed out -/

/-- An Offer of the service is received. -/
def Offers (taken : Taken SdClient ClientStep (Option Observed)) : Prop :=
  ∃ ttl, taken.input = .offer ttl ∧ taken.before.validState = true ∧ 0 < ttl

/-- `WaitForExpiration` times out, and no Offer has come since it began to wait for an offered TTL. -/
def TimesOut (taken : Taken SdClient ClientStep (Option Observed)) : Prop :=
  taken.output = some .timedOut ∧ taken.before.waited = true

theorem expired_of_timesOut {input : ClientStep}
    (taken : client.step repetitions input = .ok (observed, client'))
    (timesOut : TimesOut ⟨client, input, observed⟩) : client'.expired = true := by
  obtain ⟨output, waited⟩ := timesOut
  dsimp only at output waited
  subst output
  cases step_effect taken with
  | timesOut place => simp [goto, setSignal, waited]
  | proceeds move => cases move

theorem expired_step {input : ClientStep}
    (taken : client.step repetitions input = .ok (observed, client')) (expired : client.expired = true)
    (noOffer : ¬ Offers ⟨client, input, observed⟩) : client'.expired = true := by
  cases step_effect taken with
  | refused | starts | stops | destroys | ignores | silent | signals | waits => exact expired
  | @offers ttl valid =>
    have stops : ttl = 0 := by
      by_contra positive
      exact noOffer ⟨ttl, rfl, valid, UInt32.pos_iff_ne_zero.mpr positive⟩
    simp [setOffered, expired, stops]
  | timesOut place => simp [goto, setSignal, expired]
  | proceeds move =>
    rw [← expired]
    exact congrArg Shared.expired move.shared

theorem expired_since {signalFlag : Bool} {newer older : List (Taken SdClient ClientStep (Option Observed))}
    {timeout : Taken SdClient ClientStep (Option Observed)}
    (run : Run (step repetitions) (make signalFlag) (newer ++ timeout :: older) client)
    (timesOut : TimesOut timeout) (noOffer : ∀ later ∈ newer, ¬ Offers later) : client.expired = true := by
  induction newer generalizing client with
  | nil =>
    cases run with
    | next _ taken => exact expired_of_timesOut taken timesOut
  | cons last rest ih =>
    obtain ⟨here, earlier⟩ := List.forall_mem_cons.mp noOffer
    cases run with
    | next run taken => exact expired_step taken (ih run earlier) here

/-- In every run of the client: since a TTL has expired, and until an Offer comes, the machine is never
about to enter `ServiceReady` or `ServiceSeen`, exactly when it takes no branch there. Then no step
behind the timeout enters them before the next Offer. -/
theorem gone_iff_resigned (repetitions : Repetitions) (signalFlag : Bool)
    {trace : List (Taken SdClient ClientStep (Option Observed))}
    (run : Run (step repetitions) (make signalFlag) trace client) :
    (Run.Throughout Gone trace client ↔ Run.Every Resigned trace) ∧
      (Run.Every Resigned trace → ∀ newer timeout older, trace = newer ++ timeout :: older →
        TimesOut timeout → (∀ later ∈ newer, ¬ Offers later) →
          ∀ later ∈ newer, later.output ≠ some (.transited .serviceReady) ∧
            later.output ≠ some (.transited .serviceSeen)) := by
  have throughout := Run.stays_iff_every (sound_make signalFlag) (gone_make signalFlag)
    (fun _ _ _ _ h taken => sound_step h taken)
    (fun _ _ _ _ h gone taken => gone_iff_resigned_step h gone taken) run
  refine ⟨throughout, ?_⟩
  rintro every newer timeout older rfl timesOut noOffer later there
  obtain ⟨after, step⟩ := run.taken_step (List.mem_append_left _ there)
  have gone := (throughout.mpr every).2 later (List.mem_append_left _ there)
  have expired : later.before.expired = true := by
    obtain ⟨newest, between, rfl⟩ := List.append_of_mem there
    rw [List.append_assoc] at run
    exact expired_since run.before timesOut fun taken h =>
      noOffer taken (List.mem_append_right _ (List.mem_cons_of_mem _ h))
  constructor
  · intro entered
    rw [entered] at step
    exact (gone expired).1 (transited_entering step)
  · intro entered
    rw [entered] at step
    exact (gone expired).2 (transited_entering step)

/-- A StopOffer comes when the TTL has expired. -/
def stoppedBehind : List ClientStep :=
  [.start, .proceed, .proceed, .offer 3, .signal] ++ List.replicate 7 .proceed ++
    [.timeout, .proceed, .offer 0, .signal] ++ List.replicate 3 .proceed

theorem gone_iff_resigned_stoppedBehind : ∃ trace client,
    Run.play (step ⟨1, 100⟩) [] (make false) stoppedBehind = .ok (trace, client) ∧
      Run.Throughout Gone trace client ∧ client.expired = true ∧ client.place = .sendFind .initialWait 0 := by
  obtain ⟨trace, client, played, every, expired, place⟩ : ∃ trace client,
      Run.play (step ⟨1, 100⟩) [] (make false) stoppedBehind = .ok (trace, client) ∧
        Run.Every Resigned trace ∧ client.expired = true ∧ client.place = .sendFind .initialWait 0 :=
    ⟨_, _, rfl, by decide, rfl, rfl⟩
  have both := gone_iff_resigned ⟨1, 100⟩ false (Run.of_play .start played)
  exact ⟨trace, client, played, both.1.mpr every, expired, place⟩

/-- Behind the expiry the initial wait finds the TTL that is over. -/
def revived : List ClientStep :=
  [.start, .proceed, .proceed, .offer 3, .signal] ++ List.replicate 7 .proceed ++
    .timeout :: List.replicate 5 .proceed

theorem not_always_gone : ∃ trace client,
    Run.play (step ⟨1, 100⟩) [] (make false) revived = .ok (trace, client) ∧
      ∃ newer timeout older, trace = newer ++ timeout :: older ∧ TimesOut timeout ∧
        (∀ later ∈ newer, ¬ Offers later) ∧
          ∃ later ∈ newer, later.output = some (.transited .serviceReady) := by
  obtain ⟨trace, client, played, a, b, c, d, e, timeout, older, split, timesOut, inputs, entered⟩ :
      ∃ trace client, Run.play (step ⟨1, 100⟩) [] (make false) revived = .ok (trace, client) ∧
        ∃ a b c d e timeout older, trace = [a, b, c, d, e] ++ timeout :: older ∧ TimesOut timeout ∧
          [a, b, c, d, e].map Taken.input = List.replicate 5 .proceed ∧
            a.output = some (.transited .serviceReady) :=
    ⟨_, _, rfl, _, _, _, _, _, _, _, rfl, ⟨rfl, rfl⟩, rfl, rfl⟩
  refine ⟨trace, client, played, _, timeout, older, split, timesOut, ?_, a, List.mem_cons_self, entered⟩
  rintro later there ⟨ttl, offers, -⟩
  have input := List.eq_of_mem_replicate (inputs ▸ List.mem_map_of_mem there)
  cases input.symm.trans offers

end SdClient
end AdaptiveAutosar.Com
