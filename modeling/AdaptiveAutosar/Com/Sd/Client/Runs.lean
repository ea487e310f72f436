import AdaptiveAutosar.Com.Sd.Client.Machine

/-! # Runs of the state machine of the service discovery client

What holds in every state of every run, and what a step has to do with the next states `ServiceReady`
and `ServiceSeen` and with the next Find.
-/

namespace AdaptiveAutosar.Com
open Foundations
set_option autoImplicit false

namespace Place

/-- The phase whose `SetTimer` runs. -/
def phase : Place → Option Phase
  | sleep phase _ | wakeUp phase _ _ | sendFind phase _ => some phase
  | idle | requestService | transit _ _ | getRequested _ | getOffered _ | waitForSignal _ | signalled _
  | waitForExpiration _ | waitFor _ | waiting _ | woken _ | choose _ _ | returned => none

/-- The state that the next step transits to. -/
def transitsTo : Place → Option SdClientState
  | transit _ next => some next
  | idle | requestService | getRequested _ | getOffered _ | waitForSignal _ | signalled _
  | waitForExpiration _ | waitFor _ | waiting _ | woken _ | choose _ _ | sleep _ _ | wakeUp _ _ _
  | sendFind _ _ | returned => none

theorem phase_of_choosing {place : Place} (choosing : place.Choosing) : place.phase = none := by
  cases place with
  | sleep | wakeUp | sendFind => exact choosing.elim
  | _ => rfl

end Place

namespace SdClient

/-- Nobody stops or interrupts a phase of the client; while `SetTimer` runs, the next state is the one
that `Activate` has set; and the TTL is that of the last entry. -/
structure Sound (client : SdClient) : Prop where
  idle : ∀ phase, (client.timerSet phase).Idle
  following : ∀ phase, client.place.phase = some phase →
    (client.timerSet phase).nextState = phase.following
  ttl : client.timer.ttl = client.received.headD 0

theorem sound_make (signalFlag : Bool) : (make signalFlag).Sound where
  idle _ := TimerSetState.idle_make ..
  following := by simp [make, Place.phase]
  ttl := rfl

variable {repetitions : Repetitions} {client client' : SdClient} {observed : Option Observed}

theorem deactivate_idle (idle : ∀ phase, (client.timerSet phase).Idle) (state : SdClientState)
    (phase : Phase) : ((client.deactivate state).timerSet phase).Idle := by
  cases state with
  | serviceNotSeen | serviceSeen | serviceReady | stopped => exact idle phase
  | initialWaitPhase | repetitionPhase =>
    simp only [deactivate, setTimerSet_timerSet]
    split_ifs
    · exact TimerSetState.idle_deactivate _
    · exact idle phase

theorem activate_idle (idle : ∀ phase, (client.timerSet phase).Idle) (state : SdClientState)
    (phase : Phase) : ((client.activate repetitions state).timerSet phase).Idle := by
  cases state with
  | serviceNotSeen =>
    simp only [activate]
    split_ifs
    · exact idle phase
    · exact idle phase
  | serviceSeen | serviceReady | stopped => exact idle phase
  | initialWaitPhase =>
    have stays := (idle .initialWait).1
    simp only [activate, TimerSetState.setNextState, stays, Bool.false_eq_true, if_false, goto_timerSet,
      setTimerSet_timerSet]
    split_ifs
    · exact ⟨rfl, (idle .initialWait).2⟩
    · exact idle phase
  | repetitionPhase =>
    have stays := (idle .repetition).1
    simp only [activate, TimerSetState.setNextState, stays, Bool.false_eq_true, if_false,
      repeatFrom_timerSet, setTimerSet_timerSet]
    split_ifs
    · exact ⟨rfl, (idle .repetition).2⟩
    · exact idle phase

theorem repeatFrom_phase {i : ℕ} {phase : Phase}
    (place : (client.repeatFrom repetitions i).place.phase = some phase) : phase = .repetition := by
  unfold repeatFrom at place
  split_ifs at place
  · simpa [Place.phase, eq_comm] using place
  · simp [Place.phase] at place

theorem activate_following {state : SdClientState} {phase : Phase}
    (place : (client.activate repetitions state).place.phase = some phase) :
    ((client.activate repetitions state).timerSet phase).nextState = phase.following := by
  cases state with
  | serviceNotSeen =>
    simp only [activate] at place
    split_ifs at place
    · simp [Place.phase] at place
    · simp [Place.phase] at place
  | serviceSeen | serviceReady | stopped => simp [activate, Place.phase] at place
  | initialWaitPhase =>
    simp only [activate] at place ⊢
    split_ifs at place ⊢
    · simp [Place.phase] at place
    · have : phase = .initialWait := by simpa [Place.phase, eq_comm] using place
      subst this
      simp [TimerSetState.setNextState]
  | repetitionPhase =>
    simp only [activate] at place ⊢
    split_ifs at place ⊢
    · simp [Place.phase] at place
    · cases repeatFrom_phase place
      simp [TimerSetState.setNextState]

theorem Move.sound (h : client.Sound) (move : Move repetitions client observed client') :
    client'.Sound := by
  have shared := move.shared
  have ttl : client'.timer.ttl = client'.received.headD 0 := by
    have same : client'.timer.ttl = client.timer.ttl := congrArg Shared.ttl shared
    have received : client'.received = client.received := congrArg Shared.received shared
    rw [same, received]
    exact h.ttl
  cases move with
  | rests => exact h
  | requests => exact ⟨h.idle, by simp [Place.phase], ttl⟩
  | returns => exact ⟨deactivate_idle h.idle _, by simp [Place.phase], ttl⟩
  | @transits source next =>
    refine ⟨?_, fun _ => activate_following, ttl⟩
    apply activate_idle
    exact deactivate_idle h.idle source
  | watches next place choosing =>
    exact ⟨h.idle, by simp [Place.phase_of_choosing choosing], ttl⟩
  | chooses => exact ⟨h.idle, by simp [Place.phase], ttl⟩
  | awakes place =>
    exact ⟨h.idle, fun phase at_ => h.following phase (by simpa [place, Place.phase] using at_), ttl⟩
  | @seesOffer phase i interrupted place offered =>
    refine ⟨fun other => ?_, by simp [Place.phase], ttl⟩
    simp only [setTimerBase_timerSet, setTimerSet_timerSet]
    split_ifs
    · exact (h.idle phase).setNextState _
    · exact h.idle other
  | breaks => exact ⟨h.idle, by simp [Place.phase], ttl⟩
  | looks place =>
    exact ⟨h.idle, fun phase at_ => h.following phase (by simpa [place, Place.phase] using at_), ttl⟩
  | sendsFirst => exact ⟨h.idle, by simp [Place.phase], ttl⟩
  | @sendsAgain i place =>
    refine ⟨fun phase => ?_, fun phase at_ => ?_, ttl⟩
    · rw [repeatFrom_timerSet]
      exact h.idle phase
    · cases repeatFrom_phase at_
      rw [repeatFrom_timerSet]
      exact h.following .repetition (by simp [place, Place.phase])

theorem sound_step (h : client.Sound) {input : ClientStep}
    (taken : client.step repetitions input = .ok (observed, client')) : client'.Sound := by
  cases step_effect taken with
  | refused | ignores | silent | waits => exact h
  | starts => exact ⟨h.idle, by simp [startAgent, Place.phase], h.ttl⟩
  | stops | destroys | signals => exact ⟨h.idle, h.following, h.ttl⟩
  | offers => exact ⟨h.idle, h.following, rfl⟩
  | timesOut => exact ⟨h.idle, by simp [Place.phase], h.ttl⟩
  | proceeds move => exact move.sound h

/-! ## The next state -/

/-- The next step of the machine's thread transits to `state`. -/
def Entering (client : SdClient) (state : SdClientState) : Prop := client.place.transitsTo = some state

instance (client : SdClient) (state : SdClientState) : Decidable (client.Entering state) :=
  inferInstanceAs (Decidable (client.place.transitsTo = some state))

/-- The next step of the machine's thread chooses `state` as the next one: a state that watches the
timer, or `SetTimer` when it sees the service offered. -/
def Chooses (client : SdClient) (state : SdClientState) : Prop :=
  match client.place with
  | .choose watch expired => watch.service.next client.timer.requested expired = state
  | .wakeUp _ _ _ => client.timer.getOffered = true ∧ state = .serviceReady
  | _ => False

theorem Sound.target (h : client.Sound) (phase : Phase) (place : client.place.phase = some phase) :
    (client.timerSet phase).target = phase.following := by
  rw [(h.idle phase).target]
  exact h.following phase place

theorem following_ne {state : SdClientState} (seen : state = .serviceReady ∨ state = .serviceSeen)
    (phase : Phase) : phase.following ≠ state := by
  rcases seen with rfl | rfl
  · cases phase <;> simp [Phase.following]
  · cases phase <;> simp [Phase.following]

theorem repeatFrom_entering {state : SdClientState} (target : (client.timerSet .repetition).target ≠ state)
    (i : ℕ) : ¬ (client.repeatFrom repetitions i).Entering state := by
  unfold repeatFrom
  split_ifs
  · simp [Entering, Place.transitsTo]
  · simpa [Entering, Place.transitsTo] using target

theorem activate_entering (idle : ∀ phase, (client.timerSet phase).Idle) {state : SdClientState}
    (seen : state = .serviceReady ∨ state = .serviceSeen) (next : SdClientState) :
    ¬ (client.activate repetitions next).Entering state := by
  cases next with
  | serviceNotSeen =>
    simp only [activate]
    split_ifs
    · simp [Entering, Place.transitsTo]
    · simp [Entering, Place.transitsTo]
  | serviceSeen | serviceReady | stopped => simp [activate, Entering, Place.transitsTo]
  | initialWaitPhase =>
    simp only [activate]
    split_ifs
    · simp [Entering, Place.transitsTo]
    · simp [Entering, Place.transitsTo]
  | repetitionPhase =>
    have stays := (idle .repetition).setNextState (Phase.following .repetition)
    simp only [activate]
    rw [if_neg (by simp [stays.1])]
    apply repeatFrom_entering
    rw [setTimerSet_timerSet, if_pos rfl, stays.target]
    exact following_ne seen .repetition

/-- The machine is about to transit to `ServiceReady` or `ServiceSeen` exactly when it has just chosen
to. -/
theorem Move.entering (h : client.Sound) (move : Move repetitions client observed client')
    {state : SdClientState} (seen : state = .serviceReady ∨ state = .serviceSeen) :
    client'.Entering state ↔ client.Chooses state := by
  cases move with
  | rests place =>
    cases at_ : client.place <;> simp_all [Place.Resting, Entering, Place.transitsTo, Chooses]
  | requests place =>
    have other : SdClientState.initialWaitPhase ≠ state := by rcases seen with rfl | rfl <;> simp
    simp [Entering, Place.transitsTo, Chooses, place, other]
  | returns place => simp [Entering, Place.transitsTo, Chooses, place]
  | @transits source next place =>
    refine iff_of_false ?_ (by simp [Chooses, place])
    apply activate_entering _ seen
    exact deactivate_idle h.idle source
  | watches next place choosing =>
    refine iff_of_false ?_ ?_
    · cases next <;> simp_all [Place.Choosing, Place.Watching, Entering, Place.transitsTo]
    · cases at_ : client.place <;> simp_all [Place.Watching, Chooses]
  | chooses place => simp [Entering, Place.transitsTo, Chooses, place]
  | awakes place => simp [Entering, Place.transitsTo, Chooses, place]
  | @seesOffer phase i interrupted place offered =>
    have target : ((client.timerSet phase).setNextState .serviceReady).target = .serviceReady :=
      ((h.idle phase).setNextState _).target
    simp [Entering, Place.transitsTo, Chooses, place, offered, target, eq_comm]
  | @breaks phase i place offered =>
    have target := h.target phase (by simp [place, Place.phase])
    simp [Entering, Place.transitsTo, Chooses, place, offered, target, following_ne seen phase]
  | looks place offered => simp [Entering, Place.transitsTo, Chooses, place, offered]
  | sendsFirst place =>
    have target := h.target .initialWait (by simp [place, Place.phase])
    refine iff_of_false ?_ (by simp [Chooses, place])
    simpa [Entering, Place.transitsTo, target] using following_ne seen .initialWait
  | sendsAgain place =>
    have target := h.target .repetition (by simp [place, Place.phase])
    refine iff_of_false ?_ (by simp [Chooses, place])
    apply repeatFrom_entering
    exact target ▸ following_ne seen .repetition

theorem transited_entering {input : ClientStep} {state : SdClientState}
    (taken : client.step repetitions input = .ok (some (.transited state), client')) :
    client.Entering state := by
  cases step_effect taken with
  | proceeds move =>
    cases move with
    | transits place => simp [Entering, Place.transitsTo, place]

end SdClient
end AdaptiveAutosar.Com
