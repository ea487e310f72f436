import AdaptiveAutosar.Com.Sd.Client.Runs

/-! # Sending Find messages

`SetTimer` sends a Find when it sees the service not offered; it never looks at the request, and nobody
interrupts it. How many it sends in a pass is bounded all the same.
-/

namespace AdaptiveAutosar.Com
open Foundations
set_option autoImplicit false

namespace Place

/-- The next step sends a Find. -/
def Sends : Place → Prop
  | sendFind _ _ => True
  | idle | requestService | transit _ _ | getRequested _ | getOffered _ | waitForSignal _ | signalled _
  | waitForExpiration _ | waitFor _ | waiting _ | woken _ | choose _ _ | sleep _ _ | wakeUp _ _ _
  | returned => False

instance : (place : Place) → Decidable place.Sends
  | sendFind _ _ => isTrue trivial
  | idle | requestService | transit _ _ | getRequested _ | getOffered _ | waitForSignal _ | signalled _
  | waitForExpiration _ | waitFor _ | waiting _ | woken _ | choose _ _ | sleep _ _ | wakeUp _ _ _
  | returned => isFalse id

/-- How far `SetTimer` of the repetition is. -/
def repetition : Place → Option ℕ
  | sleep .repetition i | wakeUp .repetition i _ | sendFind .repetition i => some i
  | sleep .initialWait _ | wakeUp .initialWait _ _ | sendFind .initialWait _ | idle | requestService
  | transit _ _ | getRequested _ | getOffered _ | waitForSignal _ | signalled _ | waitForExpiration _
  | waitFor _ | waiting _ | woken _ | choose _ _ | returned => none

/-- How many Finds may have been sent since the initial wait began. -/
def allowance (repetitionsMax : ℕ) : Place → ℕ
  | sleep .initialWait _ | wakeUp .initialWait _ _ | sendFind .initialWait _ => 0
  | transit _ .repetitionPhase => 1
  | sleep .repetition i | wakeUp .repetition i _ | sendFind .repetition i => 1 + i
  | _ => 1 + repetitionsMax

end Place

namespace SdClient

/-- When the machine is about to send a Find, the service is requested and not offered. -/
def Looking (client : SdClient) : Prop :=
  client.place.Sends → client.timer.requested = true ∧ client.timer.getOffered = false

/-- The bound of one pass through initial wait and repetition. -/
def Bounded (repetitions : Repetitions) (client : SdClient) : Prop :=
  client.finds ≤ 1 + repetitions.repetitionsMax.toNat

/-- Where `SetTimer` sees no offer, the service is requested. -/
def LooksRequested (client : SdClient) : Place → Prop
  | .wakeUp _ _ false => client.timer.getOffered = false → client.timer.requested = true
  | .wakeUp _ _ true | .idle | .requestService | .transit _ _ | .getRequested _ | .getOffered _
  | .waitForSignal _ | .signalled _ | .waitForExpiration _ | .waitFor _ | .waiting _ | .woken _
  | .choose _ _ | .sleep _ _ | .sendFind _ _ | .returned => True

/-- `SetTimer` sees no offer of a service only while it is requested, and no release and no Offer comes
before the Find. -/
def Heeding (client : SdClient) : ClientStep → Prop
  | .proceed => client.LooksRequested client.place
  | .stop => ¬ client.place.Sends
  | .offer ttl => client.place.Sends → client.validState = true → ttl = 0
  | .start | .destroy | .signal | .timeout => True

instance (client : SdClient) : (place : Place) → Decidable (client.LooksRequested place)
  | .wakeUp _ _ false =>
    inferInstanceAs (Decidable (client.timer.getOffered = false → client.timer.requested = true))
  | .wakeUp _ _ true | .idle | .requestService | .transit _ _ | .getRequested _ | .getOffered _
  | .waitForSignal _ | .signalled _ | .waitForExpiration _ | .waitFor _ | .waiting _ | .woken _
  | .choose _ _ | .sleep _ _ | .sendFind _ _ | .returned => isTrue trivial

instance (client : SdClient) : (input : ClientStep) → Decidable (client.Heeding input)
  | .proceed => inferInstanceAs (Decidable (client.LooksRequested client.place))
  | .stop => inferInstanceAs (Decidable (¬ client.place.Sends))
  | .offer ttl => inferInstanceAs
      (Decidable (client.place.Sends → client.validState = true → ttl = 0))
  | .start | .destroy | .signal | .timeout => isTrue trivial

variable {repetitions : Repetitions} {client client' : SdClient} {observed : Option Observed}

theorem looking_make (signalFlag : Bool) : (make signalFlag).Looking := by
  simp [Looking, Place.Sends, make]

theorem repeatFrom_sends (i : ℕ) : ¬ (client.repeatFrom repetitions i).place.Sends := by
  unfold repeatFrom
  split_ifs
  · simp [Place.Sends]
  · simp [Place.Sends]

theorem activate_sends (state : SdClientState) :
    ¬ (client.activate repetitions state).place.Sends := by
  cases state with
  | serviceNotSeen | initialWaitPhase =>
    simp only [activate]
    split_ifs
    · simp [Place.Sends]
    · simp [Place.Sends]
  | serviceSeen | serviceReady | stopped => simp [activate, Place.Sends]
  | repetitionPhase =>
    simp only [activate]
    split_ifs
    · simp [Place.Sends]
    · exact repeatFrom_sends 0

/-- The machine is about to send a Find exactly when it has just seen the service not offered. -/
theorem Move.sends (move : Move repetitions client observed client') :
    client'.place.Sends ↔
      (∃ phase i, client.place = .wakeUp phase i false) ∧ client.timer.getOffered = false := by
  cases move with
  | rests place =>
    cases at_ : client.place <;> simp_all [Place.Resting, Place.Sends]
  | requests place | returns place | chooses place | awakes place => simp [Place.Sends, place]
  | transits place => exact iff_of_false (activate_sends _) (by simp [place])
  | watches next place choosing =>
    refine iff_of_false ?_ ?_
    · cases next <;> simp_all [Place.Choosing, Place.Watching, Place.Sends]
    · cases at_ : client.place <;> simp_all [Place.Watching]
  | seesOffer place offered => simp [Place.Sends, offered]
  | breaks place offered => simp [Place.Sends, place]
  | looks place offered => simp [Place.Sends, place, offered]
  | sendsFirst place => simp [Place.Sends, place]
  | sendsAgain place => exact iff_of_false (repeatFrom_sends _) (by simp [place])

theorem Move.looking (move : Move repetitions client observed client') :
    client'.Looking ↔ client.Heeding .proceed := by
  have requested : client'.timer.requested = client.timer.requested :=
    congrArg Shared.requested move.shared
  have ttl : client'.timer.ttl = client.timer.ttl := congrArg Shared.ttl move.shared
  have offered : client'.timer.getOffered = client.timer.getOffered := by
    unfold TtlTimer.getOffered
    rw [ttl]
  unfold Looking
  rw [move.sends, requested, offered]
  constructor
  · intro after
    simp only [Heeding]
    cases place : client.place with
    | wakeUp phase i interrupted =>
      cases interrupted with
      | false => exact fun unseen => (after ⟨⟨phase, i, place⟩, unseen⟩).1
      | true => trivial
    | _ => trivial
  · rintro heeding ⟨⟨phase, i, place⟩, unseen⟩
    simp only [Heeding, place] at heeding
    exact ⟨heeding unseen, unseen⟩

theorem looking_iff_heeding_step (looking : client.Looking) {input : ClientStep}
    (taken : client.step repetitions input = .ok (observed, client')) :
    client'.Looking ↔ client.Heeding input := by
  cases step_effect taken with
  | refused | destroys | silent | signals | waits => exact iff_of_true looking trivial
  | starts => exact iff_of_true (by simp [Looking, Place.Sends, startAgent]) trivial
  | stops => simp [Looking, Heeding, setRequested]
  | ignores invalid =>
    refine iff_of_true looking fun _ valid => ?_
    cases invalid.symm.trans valid
  | @offers ttl valid =>
    constructor
    · intro after sends _
      have unseen : ¬ 0 < ttl := of_decide_eq_false (after sends).2
      exact UInt32.le_zero_iff.mp (UInt32.not_lt.mp unseen)
    · intro heeding sends
      refine ⟨(looking sends).1, ?_⟩
      simp [setOffered, TtlTimer.getOffered, heeding sends valid]
  | timesOut => exact iff_of_true (by simp [Looking, Place.Sends]) trivial
  | proceeds move => exact move.looking

/-! ## The Finds of a pass -/

/-- The Finds sent are within the allowance of the place, and a repetition is one of those asked for. -/
structure Counted (repetitions : Repetitions) (client : SdClient) : Prop where
  finds : client.finds ≤ client.place.allowance repetitions.repetitionsMax.toNat
  within : ∀ i, client.place.repetition = some i → i < repetitions.repetitionsMax.toNat

theorem counted_make (signalFlag : Bool) : (make signalFlag).Counted repetitions where
  finds := by simp [make]
  within := by simp [make, Place.repetition]

theorem Counted.bounded (h : client.Counted repetitions) : client.Bounded repetitions := by
  have finds := h.finds
  have within := h.within
  unfold Bounded
  cases place : client.place with
  | sleep phase i | wakeUp phase i interrupted | sendFind phase i =>
    cases phase with
    | initialWait =>
      simp only [place, Place.allowance] at finds
      omega
    | repetition =>
      simp only [place, Place.allowance] at finds
      have := within i (by simp [place, Place.repetition])
      omega
  | transit source next =>
    cases next <;> simp only [place, Place.allowance] at finds <;> omega
  | _ => simpa only [place, Place.allowance] using finds

theorem Counted.repeatFrom {i : ℕ} (finds : client.finds ≤ 1 + i)
    (most : i ≤ repetitions.repetitionsMax.toNat)
    (target : (client.timerSet .repetition).target = .stopped) :
    (client.repeatFrom repetitions i).Counted repetitions := by
  unfold SdClient.repeatFrom
  split_ifs with more
  · refine ⟨by simpa [Place.allowance] using finds, ?_⟩
    intro j at_
    simp only [goto_place, Place.repetition, Option.some.injEq] at at_
    omega
  · refine ⟨?_, by simp [Place.repetition]⟩
    simp only [setTimerBase_finds, setTimerBase_place, target, Place.allowance]
    omega

theorem Bounded.counted (bounded : client.Bounded repetitions)
    (allowance : client.place.allowance repetitions.repetitionsMax.toNat =
      1 + repetitions.repetitionsMax.toNat)
    (outside : client.place.repetition = none) : client.Counted repetitions where
  finds := allowance ▸ bounded
  within := by simp [outside]

theorem activate_counted (idle : ∀ phase, (client.timerSet phase).Idle)
    (bounded : client.Bounded repetitions) {next : SdClientState}
    (first : next = .repetitionPhase → client.finds ≤ 1) :
    (client.activate repetitions next).Counted repetitions := by
  cases next with
  | serviceNotSeen =>
    simp only [activate]
    split_ifs
    · exact Bounded.counted bounded rfl rfl
    · exact Bounded.counted bounded rfl rfl
  | serviceSeen | serviceReady | stopped => exact Bounded.counted bounded rfl rfl
  | initialWaitPhase =>
    simp only [activate]
    split_ifs
    · refine Bounded.counted ?_ rfl rfl
      simp [Bounded]
    · exact ⟨by simp [Place.allowance], by simp [Place.repetition]⟩
  | repetitionPhase =>
    have stays := (idle .repetition).setNextState (Phase.following .repetition)
    simp only [activate]
    rw [if_neg (by simp [stays.1])]
    refine Counted.repeatFrom (first rfl) (Nat.zero_le _) ?_
    rw [setTimerSet_timerSet, if_pos rfl, stays.target]
    rfl

/-- None of the states that watch the timer begins a repetition. -/
theorem next_ne_repetitionPhase (watch : Watch) (requested expired : Bool) :
    watch.service.next requested expired ≠ .repetitionPhase := by
  cases watch <;> cases requested <;> cases expired <;> decide

theorem allowance_transit {next : SdClientState} (other : next ≠ .repetitionPhase)
    (source : SdClientState) (repetitionsMax : ℕ) :
    (Place.transit source next).allowance repetitionsMax = 1 + repetitionsMax := by
  cases next <;> simp_all [Place.allowance]

theorem Move.counted (sound : client.Sound) (h : client.Counted repetitions)
    (move : Move repetitions client observed client') : client'.Counted repetitions := by
  have bounded := h.bounded
  have finds := h.finds
  have within := h.within
  cases move with
  | rests => exact h
  | requests => exact Bounded.counted bounded rfl rfl
  | @returns source next place =>
    refine Bounded.counted ?_ rfl rfl
    simpa [Bounded] using bounded
  | @transits source next place =>
    apply activate_counted
    · exact deactivate_idle sound.idle source
    · simpa [Bounded] using bounded
    · rintro rfl
      simpa [place, Place.allowance] using finds
  | watches next place choosing =>
    cases next with
    | idle | requestService | transit | sleep | wakeUp | sendFind | returned => exact choosing.elim
    | _ => exact Bounded.counted bounded rfl rfl
  | @chooses watch expired place =>
    exact Bounded.counted bounded (allowance_transit (next_ne_repetitionPhase watch _ _) _ _) rfl
  | @awakes phase i place =>
    cases phase with
    | initialWait =>
      refine ⟨?_, by simp [Place.repetition]⟩
      simpa [place, Place.allowance] using finds
    | repetition =>
      refine ⟨?_, ?_⟩
      · simpa [place, Place.allowance] using finds
      · simpa [place, Place.repetition] using within
  | @seesOffer phase i interrupted place offered =>
    have target : ((client.timerSet phase).setNextState .serviceReady).target = .serviceReady :=
      ((sound.idle phase).setNextState _).target
    refine Bounded.counted bounded ?_ rfl
    simp [target, Place.allowance]
  | @breaks phase i place offered =>
    have target := sound.target phase (by simp [place, Place.phase])
    cases phase with
    | initialWait =>
      have none : client.finds = 0 := by simpa [place, Place.allowance] using finds
      refine ⟨?_, by simp [Place.repetition]⟩
      simp [target, Phase.following, Place.allowance, none]
    | repetition =>
      refine Bounded.counted bounded ?_ rfl
      simp [target, Phase.following, Place.allowance]
  | @looks phase i place offered =>
    cases phase with
    | initialWait =>
      refine ⟨?_, by simp [Place.repetition]⟩
      simpa [place, Place.allowance] using finds
    | repetition =>
      refine ⟨?_, ?_⟩
      · simpa [place, Place.allowance] using finds
      · simpa [place, Place.repetition] using within
  | sendsFirst place =>
    have target := sound.target .initialWait (by simp [place, Place.phase])
    have none : client.finds = 0 := by simpa [place, Place.allowance] using finds
    refine ⟨?_, by simp [Place.repetition]⟩
    simp [target, Phase.following, Place.allowance, none]
  | @sendsAgain i place =>
    have target := sound.target .repetition (by simp [place, Place.phase])
    have sent : client.finds ≤ 1 + i := by simpa [place, Place.allowance] using finds
    have more := within i (by simp [place, Place.repetition])
    refine Counted.repeatFrom ?_ more target
    show client.finds + 1 ≤ 1 + (i + 1)
    omega

theorem counted_step (sound : client.Sound) (h : client.Counted repetitions) {input : ClientStep}
    (taken : client.step repetitions input = .ok (observed, client')) :
    client'.Counted repetitions := by
  cases step_effect taken with
  | refused | ignores | silent | waits => exact h
  | stops | destroys | offers | signals => exact ⟨h.finds, h.within⟩
  | starts | timesOut => exact Bounded.counted h.bounded rfl rfl
  | proceeds move => exact move.counted sound h

/-- What holds in every state reached. -/
structure Regular (repetitions : Repetitions) (client : SdClient) : Prop where
  sound : client.Sound
  counted : client.Counted repetitions

theorem regular_make (signalFlag : Bool) : (make signalFlag).Regular repetitions :=
  ⟨sound_make signalFlag, counted_make signalFlag⟩

theorem Regular.step (regular : client.Regular repetitions) {input : ClientStep}
    (taken : client.step repetitions input = .ok (observed, client')) : client'.Regular repetitions :=
  ⟨sound_step regular.sound taken, counted_step regular.sound regular.counted taken⟩

theorem sentFind_sends {input : ClientStep}
    (taken : client.step repetitions input = .ok (some .sentFind, client')) : client.place.Sends := by
  cases step_effect taken with
  | proceeds move =>
    cases move with
    | sendsFirst place | sendsAgain place => simp [Place.Sends, place]

/-- In every run of the client: whenever the machine is about to send a Find, the service is requested
and not offered, and no pass sends more Finds than it may, exactly when `SetTimer` looks for a requested
service only. Then it is so in the very step that sends a Find. -/
theorem looking_iff_heeding (repetitions : Repetitions) (signalFlag : Bool)
    {trace : List (Taken SdClient ClientStep (Option Observed))}
    (run : Run (step repetitions) (make signalFlag) trace client) :
    (Run.Throughout (fun client => client.Looking ∧ client.Bounded repetitions) trace client ↔
        Run.Every Heeding trace) ∧
      (Run.Every Heeding trace → ∀ taken ∈ trace, taken.output = some .sentFind →
        taken.before.timer.requested = true ∧ taken.before.timer.getOffered = false) := by
  have throughout :
      Run.Throughout (fun client => client.Looking ∧ client.Bounded repetitions) trace client ↔
        Run.Every Heeding trace := by
    have start : (make signalFlag).Regular repetitions := regular_make signalFlag
    refine Run.stays_iff_every start ⟨looking_make signalFlag, start.counted.bounded⟩
      (fun _ _ _ _ regular taken => regular.step taken) ?_ run
    intro client input output client' regular good taken
    have bounded := (regular.step taken).counted.bounded
    rw [← looking_iff_heeding_step good.1 taken]
    exact and_iff_left bounded
  refine ⟨throughout, fun every taken there sent => ?_⟩
  obtain ⟨after, step⟩ := run.taken_step there
  rw [sent] at step
  exact ((throughout.mpr every).2 taken there).1 (sentFind_sends step)

/-- The service is offered behind the first Find. -/
def offeredBehindFind : List ClientStep :=
  .start :: List.replicate 6 .proceed ++ [.offer 3, .signal] ++ List.replicate 3 .proceed

theorem looking_iff_heeding_offeredBehindFind : ∃ trace client,
    Run.play (step ⟨1, 100⟩) [] (make false) offeredBehindFind = .ok (trace, client) ∧
      Run.Throughout (fun client => client.Looking ∧ client.Bounded ⟨1, 100⟩) trace client ∧
        client.finds = 1 ∧ client.stateMachine.currentState = .serviceReady := by
  obtain ⟨trace, client, played, every, finds, entered⟩ : ∃ trace client,
      Run.play (step ⟨1, 100⟩) [] (make false) offeredBehindFind = .ok (trace, client) ∧
        Run.Every Heeding trace ∧ client.finds = 1 ∧
          client.stateMachine.currentState = .serviceReady :=
    ⟨_, _, rfl, by decide, rfl, rfl⟩
  have both := looking_iff_heeding ⟨1, 100⟩ false (Run.of_play .start played)
  exact ⟨trace, client, played, both.1.mpr every, finds, entered⟩

/-- The client is stopped during the initial wait. -/
def stoppedWaiting : List ClientStep :=
  [.start, .proceed, .proceed, .stop, .signal, .proceed, .proceed, .proceed]

theorem not_always_looking : ∃ trace client,
    Run.play (step ⟨1, 100⟩) [] (make false) stoppedWaiting = .ok (trace, client) ∧
      ∃ taken ∈ trace, taken.output = some .sentFind ∧ taken.before.timer.requested = false :=
  ⟨_, _, rfl, _, List.mem_cons_self, rfl, rfl⟩

end SdClient
end AdaptiveAutosar.Com
