import AdaptiveAutosar.Foundations.Binary64.Exact
import AdaptiveAutosar.Com.Sd.Client.Find
import AdaptiveAutosar.Com.Sd.Server.Restart

/-! # The delays of the repetition phase

`RepetitionState::SetTimer` and the client's own `SetTimer` wait for a delay that doubles from round to
round. It is computed as a `double` and converted to an `int`. What the other threads do to a loop is
given by an answer for each round: whether the wait was interrupted, and whether the service was offered
behind it.
-/

namespace AdaptiveAutosar.Com
open Foundations
set_option autoImplicit false

/-! ## The timed states -/

structure InitialWaitState where
  initialDelayMin : Int32
  initialDelayMax : Int32
  valid : ¬ (initialDelayMin < 0 ∨ initialDelayMax < 0 ∨ initialDelayMin > initialDelayMax)

structure RepetitionState where
  repetitionsMax : Int32
  repetitionsBaseDelay : Int32
  valid : ¬ repetitionsBaseDelay < 0

structure MainState where
  cyclicOfferDelay : Int32
  valid : ¬ cyclicOfferDelay < 0

def InitialWaitState.make (initialDelayMin initialDelayMax : Int32) : Outcome InitialWaitState :=
  if h : initialDelayMin < 0 ∨ initialDelayMax < 0 ∨ initialDelayMin > initialDelayMax then
    .error (.thrown (.invalidArgument "Invalid initial delay minimum and/or maximum."))
  else .ok ⟨initialDelayMin, initialDelayMax, h⟩

def RepetitionState.make (repetitionsMax : UInt32) (repetitionsBaseDelay : Int32) :
    Outcome RepetitionState :=
  if h : repetitionsBaseDelay < 0 then
    .error (.thrown (.invalidArgument "Invalid repetition base delay."))
  else .ok ⟨repetitionsMax.toInt32, repetitionsBaseDelay, h⟩

def MainState.make (cyclicOfferDelay : Int32) : Outcome MainState :=
  if h : cyclicOfferDelay < 0 then .error (.thrown (.invalidArgument "Invalid cyclic offer delay."))
  else .ok ⟨cyclicOfferDelay, h⟩

structure ClientTimers where
  initialWaitState : InitialWaitState
  repetitionState : RepetitionState

structure ServerTimers where
  initialWaitState : InitialWaitState
  repetitionState : RepetitionState
  mainState : MainState

/-- The constructor of `SomeIpSdClient`. -/
def ClientTimers.make (initialDelayMin initialDelayMax : Int32) (repetitionBaseDelay : Int32 := 30)
    (repetitionMax : UInt32 := 3) : Outcome ClientTimers := do
  let initialWaitState ← InitialWaitState.make initialDelayMin initialDelayMax
  let repetitionState ← RepetitionState.make repetitionMax repetitionBaseDelay
  pure ⟨initialWaitState, repetitionState⟩

/-- The constructor of `SomeIpSdServer`. -/
def ServerTimers.make (initialDelayMin initialDelayMax : Int32) (repetitionBaseDelay : Int32 := 30)
    (cycleOfferDelay : Int32 := 1000) (repetitionMax : UInt32 := 3) : Outcome ServerTimers := do
  let initialWaitState ← InitialWaitState.make initialDelayMin initialDelayMax
  let repetitionState ← RepetitionState.make repetitionMax repetitionBaseDelay
  let mainState ← MainState.make cycleOfferDelay
  pure ⟨initialWaitState, repetitionState, mainState⟩

/-! ## The two loops -/

/-- What breaks a loop; an Offer also makes `ServiceReady` the next state. -/
inductive Break where
  | interrupted
  | offered
  deriving DecidableEq, Repr

/-- A delay that is no `int` leaves the rest of the call undefined. -/
inductive Ending where
  | complete
  | broken (reason : Break)
  | undefined
  deriving DecidableEq, Repr

/-- What one `SetTimer` does: the delays it waits for, its calls of `OnTimerExpired`, and its end. -/
structure Repeated where
  delays : List Int32
  expired : ℕ
  ending : Ending
  deriving DecidableEq, Repr

namespace RepetitionState

/-- `std::pow(2, i) * RepetitionsBaseDelay`, converted to an `int`. -/
def doubledDelay (state : RepetitionState) (i : ℕ) : Outcome Int32 :=
  Binary64.toInt32 (Binary64.powTwo i * .ofInt state.repetitionsBaseDelay.toInt)

/-- The loop from the `i`-th round on, with what breaks it. -/
def repeatFrom (state : RepetitionState) (breaks : ℕ → Option Break) : (rounds i : ℕ) → Repeated
  | 0, _ => ⟨[], 0, .complete⟩
  | rounds + 1, i =>
    match state.doubledDelay i with
    | .error _ => ⟨[], 0, .undefined⟩
    | .ok delay =>
      match breaks i with
      | some reason => ⟨[delay], 0, .broken reason⟩
      | none =>
        let rest := state.repeatFrom breaks rounds (i + 1)
        ⟨delay :: rest.delays, rest.expired + 1, rest.ending⟩

/-- `RepetitionsMax` as the condition of the loop compares it, with an unsigned counter. -/
def rounds (state : RepetitionState) : ℕ := state.repetitionsMax.toUInt32.toNat

def setTimer (state : RepetitionState) (interrupted : ℕ → Bool) : Repeated :=
  state.repeatFrom (fun i => if interrupted i then some .interrupted else none) state.rounds 0

end RepetitionState

/-- The client looks for an Offer before it looks for an interrupt. -/
def ClientRepetitionState.setTimer (state : RepetitionState) (offered interrupted : ℕ → Bool) :
    Repeated :=
  state.repeatFrom
    (fun i => if offered i then some .offered else if interrupted i then some .interrupted else none)
    state.rounds 0

/-- From the `first` round on every delay is the doubled base delay and none is undefined or negative;
when nothing breaks the loop, it goes through all the `rounds`. -/
structure Doubling (baseDelay : ℤ) (first rounds : ℕ) (repeated : Repeated) : Prop where
  defined : repeated.ending ≠ .undefined
  doubled : repeated.delays.map Int32.toInt =
    (List.range repeated.delays.length).map fun k => 2 ^ (first + k) * baseDelay
  nonneg : ∀ delay ∈ repeated.delays, 0 ≤ delay
  within : repeated.delays.length ≤ rounds
  complete : repeated.ending = .complete → repeated.delays.length = rounds ∧ repeated.expired = rounds

/-- The last delay is below `2 ^ 31`, and no power of two is infinite before it. -/
def LastFits (repetitionBaseDelay : Int32) (repetitionMax : UInt32) : Prop :=
  repetitionMax.toNat ≤ 1024 ∧
    2 ^ (repetitionMax.toNat - 1) * repetitionBaseDelay.toInt < 2 ^ 31

instance (repetitionBaseDelay : Int32) (repetitionMax : UInt32) :
    Decidable (LastFits repetitionBaseDelay repetitionMax) :=
  inferInstanceAs (Decidable (_ ∧ _))

namespace RepetitionState
variable {state : RepetitionState}

/-! ## The delays -/

/-- The state as the machines of client and server have it. -/
def repetitions (state : RepetitionState) : Repetitions :=
  ⟨state.repetitionsMax.toUInt32, state.repetitionsBaseDelay.toNatClampNeg⟩

/-- The `i`-th delay is an `int`. -/
def Fits (state : RepetitionState) (i : ℕ) : Prop :=
  i < 1024 ∧ 2 ^ i * state.repetitionsBaseDelay.toInt < 2 ^ 31

instance (state : RepetitionState) (i : ℕ) : Decidable (state.Fits i) :=
  inferInstanceAs (Decidable (_ ∧ _))

theorem baseDelay_eq (state : RepetitionState) :
    state.repetitionsBaseDelay.toInt = state.repetitionsBaseDelay.toNatClampNeg := by
  have valid := state.valid
  rw [Int32.not_lt] at valid
  exact (Int32.cast_toNatClampNeg _ valid).symm

theorem doubledDelay_repetitions (state : RepetitionState) (i : ℕ) :
    state.repetitions.doubledDelay i = state.doubledDelay i := by
  unfold doubledDelay Repetitions.doubledDelay
  rw [baseDelay_eq]
  rfl

theorem doubledDelay_eq (state : RepetitionState) (i : ℕ) :
    state.doubledDelay i =
      if state.Fits i then .ok (.ofInt (2 ^ i * state.repetitionsBaseDelay.toInt))
      else .error .undefined := by
  have bound : state.repetitionsBaseDelay.toNatClampNeg < 2 ^ 53 :=
    Nat.lt_of_lt_of_le state.repetitionsBaseDelay.toNatClampNeg_lt (by decide)
  have product : (2 ^ i * (state.repetitionsBaseDelay.toNatClampNeg : ℤ)) =
      ((2 ^ i * state.repetitionsBaseDelay.toNatClampNeg : ℕ) : ℤ) := by
    push_cast
    rfl
  have fits : state.Fits i ↔
      i < 1024 ∧ 2 ^ i * state.repetitionsBaseDelay.toNatClampNeg < 2 ^ 31 := by
    unfold Fits
    rw [baseDelay_eq, product]
    norm_cast
  rw [← doubledDelay_repetitions, Repetitions.doubledDelay, repetitions, Binary64.toInt32_powTwo_mul bound,
    baseDelay_eq, product]
  simp only [fits]
  rfl

theorem doubledDelay_ok {i : ℕ} (fits : state.Fits i) :
    ∃ delay, state.doubledDelay i = .ok delay ∧
      delay.toInt = 2 ^ i * state.repetitionsBaseDelay.toInt := by
  refine ⟨_, by rw [doubledDelay_eq, if_pos fits], ?_⟩
  have nonneg : 0 ≤ 2 ^ i * state.repetitionsBaseDelay.toInt := by
    rw [baseDelay_eq]
    positivity
  exact Int32.toInt_ofInt_of_le (by omega) fits.2

/-- The delays of the rounds are ints exactly when the last one is. -/
theorem fits_iff_lastFits {repetitionMax : UInt32} :
    (∀ i < repetitionMax.toNat, state.Fits i) ↔ LastFits state.repetitionsBaseDelay repetitionMax := by
  constructor
  · intro fits
    rcases Nat.eq_zero_or_pos repetitionMax.toNat with zero | more
    · have := state.repetitionsBaseDelay.toInt_lt
      simp only [LastFits, zero]
      omega
    · have last := fits (repetitionMax.toNat - 1) (by omega)
      exact ⟨by have := last.1; omega, last.2⟩
  · rintro ⟨finite, last⟩ i less
    refine ⟨by omega, lt_of_le_of_lt ?_ last⟩
    have power : (2 : ℤ) ^ i ≤ 2 ^ (repetitionMax.toNat - 1) :=
      pow_le_pow_right₀ (by decide) (by omega)
    rw [baseDelay_eq]
    exact Int.mul_le_mul_of_nonneg_right power (Int.natCast_nonneg _)

/-! ## The loop -/

/-- One induction for both loops: on the rounds left, at any round. -/
theorem repeatFrom_doubles (breaks : ℕ → Option Break) {rounds i : ℕ}
    (fits : ∀ k < rounds, state.Fits (i + k)) :
    Doubling state.repetitionsBaseDelay.toInt i rounds (state.repeatFrom breaks rounds i) := by
  induction rounds generalizing i with
  | zero =>
    exact ⟨by simp [repeatFrom], rfl, by simp [repeatFrom], Nat.le_refl _, fun _ => ⟨rfl, rfl⟩⟩
  | succ rounds ih =>
    obtain ⟨delay, ok, value⟩ := doubledDelay_ok (fits 0 (Nat.succ_pos rounds))
    rw [Nat.add_zero] at ok value
    have nonneg : 0 ≤ delay := by
      rw [Int32.le_iff_toInt_le, value, baseDelay_eq]
      exact Int.mul_nonneg (by positivity) (Int.natCast_nonneg _)
    simp only [repeatFrom, ok]
    cases breaks i with
    | some reason => exact ⟨by simp, by simp [value], by simpa using nonneg, by simp, by simp⟩
    | none =>
      have rest : Doubling state.repetitionsBaseDelay.toInt (i + 1) rounds
          (state.repeatFrom breaks rounds (i + 1)) := by
        refine ih fun k less => ?_
        rw [Nat.add_assoc, Nat.add_comm 1]
        exact fits (k + 1) (by omega)
      refine ⟨rest.defined, ?_, ?_, ?_, ?_⟩
      · have shifted (k : ℕ) : i + 1 + k = i + (k + 1) := by omega
        simp only [List.map_cons, List.length_cons, List.range_succ_eq_map, List.map_map, value, rest.doubled,
          Nat.add_zero, shifted]
        rfl
      · exact List.forall_mem_cons.mpr ⟨nonneg, rest.nonneg⟩
      · exact Nat.succ_le_succ rest.within
      · intro ended
        obtain ⟨delays, expired⟩ := rest.complete ended
        exact ⟨congrArg (· + 1) delays, congrArg (· + 1) expired⟩

/-- A loop that nothing breaks computes all its delays. -/
theorem fits_of_defined {rounds i : ℕ}
    (defined : (state.repeatFrom (fun _ => none) rounds i).ending ≠ .undefined) :
    ∀ k < rounds, state.Fits (i + k) := by
  induction rounds generalizing i with
  | zero => exact fun k less => absurd less (Nat.not_lt_zero k)
  | succ rounds ih =>
    have here : state.Fits i := by
      by_contra outside
      simp [repeatFrom, doubledDelay_eq, outside] at defined
    obtain ⟨delay, ok, -⟩ := doubledDelay_ok here
    simp only [repeatFrom, ok] at defined
    intro k less
    cases k with
    | zero => exact here
    | succ k =>
      have later := ih defined k (by omega)
      rwa [Nat.add_assoc, Nat.add_comm 1] at later

theorem make_ok {repetitionMax : UInt32} {repetitionBaseDelay : Int32}
    (made : RepetitionState.make repetitionMax repetitionBaseDelay = .ok state) :
    state.repetitionsBaseDelay = repetitionBaseDelay ∧ state.rounds = repetitionMax.toNat := by
  unfold RepetitionState.make at made
  split_ifs at made
  cases made
  exact ⟨rfl, rfl⟩

/-- Whatever may break a loop, its delays double in all its courses exactly when the last one is an int. -/
theorem doubles_iff {repetitionMax : UInt32} {repetitionBaseDelay : Int32}
    (made : RepetitionState.make repetitionMax repetitionBaseDelay = .ok state) {α : Type}
    (breaks : α → ℕ → Option Break) (quiet : ∃ answers, breaks answers = fun _ => none) :
    (∀ answers, Doubling repetitionBaseDelay.toInt 0 repetitionMax.toNat
        (state.repeatFrom (breaks answers) state.rounds 0)) ↔
      LastFits repetitionBaseDelay repetitionMax := by
  obtain ⟨rfl, rounds⟩ := make_ok made
  rw [rounds, ← fits_iff_lastFits]
  constructor
  · intro doubles
    obtain ⟨answers, silent⟩ := quiet
    have defined := (doubles answers).defined
    rw [silent] at defined
    simpa only [Nat.zero_add] using fits_of_defined defined
  · intro fits answers
    apply repeatFrom_doubles
    simpa only [Nat.zero_add] using fits

end RepetitionState

/-! ## The constructors of client and server -/

theorem ClientTimers.make_ok {initialDelayMin initialDelayMax repetitionBaseDelay : Int32}
    {repetitionMax : UInt32} {client : ClientTimers}
    (accepts : ClientTimers.make initialDelayMin initialDelayMax repetitionBaseDelay repetitionMax =
      .ok client) :
    RepetitionState.make repetitionMax repetitionBaseDelay = .ok client.repetitionState := by
  obtain ⟨initialWaitState, -, accepts⟩ := bind_eq_ok.mp accepts
  obtain ⟨repetitionState, made, accepts⟩ := bind_eq_ok.mp accepts
  cases accepts
  exact made

theorem ServerTimers.make_ok
    {initialDelayMin initialDelayMax repetitionBaseDelay cycleOfferDelay : Int32}
    {repetitionMax : UInt32} {server : ServerTimers}
    (accepts : ServerTimers.make initialDelayMin initialDelayMax repetitionBaseDelay cycleOfferDelay
      repetitionMax = .ok server) :
    RepetitionState.make repetitionMax repetitionBaseDelay = .ok server.repetitionState := by
  obtain ⟨initialWaitState, -, accepts⟩ := bind_eq_ok.mp accepts
  obtain ⟨repetitionState, made, accepts⟩ := bind_eq_ok.mp accepts
  obtain ⟨mainState, -, accepts⟩ := bind_eq_ok.mp accepts
  cases accepts
  exact made

/-- For all the arguments that the constructors accept: in every course of the client's loop, and in every
course of the server's, the delays are the doubled base delays and an undisturbed loop makes all its
repetitions, exactly when the last delay is an int. -/
theorem delays_double_iff
    (initialDelayMin initialDelayMax repetitionBaseDelay cycleOfferDelay : Int32)
    (repetitionMax : UInt32) :
    (∀ client,
      ClientTimers.make initialDelayMin initialDelayMax repetitionBaseDelay repetitionMax = .ok client →
        ((∀ offered interrupted, Doubling repetitionBaseDelay.toInt 0 repetitionMax.toNat
          (ClientRepetitionState.setTimer client.repetitionState offered interrupted)) ↔
            LastFits repetitionBaseDelay repetitionMax)) ∧
      ∀ server,
        ServerTimers.make initialDelayMin initialDelayMax repetitionBaseDelay cycleOfferDelay
          repetitionMax = .ok server →
          ((∀ interrupted, Doubling repetitionBaseDelay.toInt 0 repetitionMax.toNat
            (server.repetitionState.setTimer interrupted)) ↔
              LastFits repetitionBaseDelay repetitionMax) := by
  constructor
  · intro client accepts
    let breaks (answers : (ℕ → Bool) × (ℕ → Bool)) (i : ℕ) : Option Break :=
      if answers.1 i then some .offered else if answers.2 i then some .interrupted else none
    have silent : breaks (fun _ => false, fun _ => false) = fun _ => none := rfl
    rw [← RepetitionState.doubles_iff (ClientTimers.make_ok accepts) breaks ⟨_, silent⟩]
    constructor
    · exact fun doubles answers => doubles answers.1 answers.2
    · exact fun doubles offered interrupted => doubles (offered, interrupted)
  · intro server accepts
    let breaks (interrupted : ℕ → Bool) (i : ℕ) : Option Break :=
      if interrupted i then some .interrupted else none
    have silent : breaks (fun _ => false) = fun _ => none := rfl
    exact RepetitionState.doubles_iff (ServerTimers.make_ok accepts) breaks ⟨_, silent⟩

/-- The default arguments, with three repetitions. -/
theorem delays_double_iff_defaults : ∃ client server,
    ClientTimers.make 10 100 = .ok client ∧ ServerTimers.make 10 100 = .ok server ∧
      (∀ offered interrupted,
        Doubling 30 0 3 (ClientRepetitionState.setTimer client.repetitionState offered interrupted)) ∧
      (∀ interrupted, Doubling 30 0 3 (server.repetitionState.setTimer interrupted)) ∧
      server.repetitionState.setTimer (fun _ => false) = ⟨[30, 60, 120], 3, .complete⟩ := by
  obtain ⟨client, server, clientAccepts, serverAccepts, delays⟩ : ∃ client server,
      ClientTimers.make 10 100 = .ok client ∧ ServerTimers.make 10 100 = .ok server ∧
        server.repetitionState.setTimer (fun _ => false) = ⟨[30, 60, 120], 3, .complete⟩ :=
    ⟨_, _, rfl, rfl, by decide⟩
  have both := delays_double_iff 10 100 30 1000 3
  exact ⟨client, server, clientAccepts, serverAccepts,
    (both.1 client clientAccepts).mpr (by decide), (both.2 server serverAccepts).mpr (by decide), delays⟩

/-- With 28 repetitions of the default base delay the last delay is `30 * 2 ^ 27`, beyond an int. -/
theorem not_always_doubles : ∃ client server,
    ClientTimers.make 10 100 30 28 = .ok client ∧ ServerTimers.make 10 100 30 1000 28 = .ok server ∧
      ¬ Doubling 30 0 28
        (ClientRepetitionState.setTimer client.repetitionState (fun _ => false) fun _ => false) ∧
      ¬ Doubling 30 0 28 (server.repetitionState.setTimer fun _ => false) ∧
      (server.repetitionState.setTimer fun _ => false).delays.length = 27 ∧
      (server.repetitionState.setTimer fun _ => false).ending = .undefined :=
  ⟨_, _, rfl, rfl, fun doubles => doubles.defined (by decide), fun doubles => doubles.defined (by decide),
    by decide, by decide⟩

/-! ## In the state machines -/

theorem RepetitionState.fits_repetitions {state : RepetitionState} {i : ℕ} :
    state.repetitions.Fits i ↔ state.Fits i := by
  rw [Repetitions.Fits, doubledDelay_repetitions, doubledDelay_eq]
  split_ifs with fits
  · exact iff_of_true rfl fits
  · exact iff_of_false (by simp [Except.isOk, Except.toBool]) fits

theorem Repetitions.Fits.exists_delay {repetitions : Repetitions} {i : ℕ} (fits : repetitions.Fits i) :
    ∃ delay, repetitions.doubledDelay i = .ok delay := by
  unfold Repetitions.Fits at fits
  cases computed : repetitions.doubledDelay i with
  | error fault => simp [computed, Except.isOk, Except.toBool] at fits
  | ok delay => exact ⟨delay, rfl⟩

/-- All the rounds of the loop have a delay. -/
def Repetitions.Defined (repetitions : Repetitions) : Prop :=
  ∀ i < repetitions.repetitionsMax.toNat, repetitions.Fits i

theorem RepetitionState.defined_iff {state : RepetitionState} {repetitionMax : UInt32}
    (rounds : state.rounds = repetitionMax.toNat) :
    state.repetitions.Defined ↔ LastFits state.repetitionsBaseDelay repetitionMax := by
  rw [← fits_iff_lastFits, ← rounds]
  exact forall_congr' fun i => imp_congr_right fun _ => fits_repetitions

namespace SdServer
variable {repetitions : Repetitions} {server server' : SdServer}

theorem repeatFrom_place (defined : repetitions.Defined) (i : ℕ) :
    (server.repeatFrom repetitions i).place ≠ .undefined := by
  unfold repeatFrom
  split_ifs with more fits
  · simp [goto]
  · exact absurd (defined i more) fits
  · simp [setTimerBase, goto]

theorem activate_place (defined : repetitions.Defined) (previousState state : SdServerState) :
    (server.activate repetitions previousState state).place ≠ .undefined := by
  cases state with
  | notReady =>
    simp only [activate, phaseOf]
    split_ifs <;> simp [goto]
  | initialWaitPhase | mainPhase =>
    simp only [activate, phaseOf]
    split_ifs <;> simp [goto, setTimer]
  | repetitionPhase =>
    simp only [activate, phaseOf]
    split_ifs
    · simp [goto]
    · exact repeatFrom_place defined 0

theorem proceed_place (defined : repetitions.Defined) (place : server.place ≠ .undefined) :
    (server.proceed repetitions).place ≠ .undefined := by
  unfold proceed
  cases at_ : server.place with
  | undefined => exact absurd at_ place
  | idle | returned => exact place
  | transit source next =>
    dsimp only
    split
    · simp [goto]
    · exact activate_place defined _ _
  | asleep phase i =>
    dsimp only
    split_ifs
    · simp [setTimerBase, goto]
    · cases phase with
      | initialWait | main => simp [expire, setTimerBase, goto]
      | repetition => exact repeatFrom_place defined (i + 1)

theorem join_place (place : server.place ≠ .undefined)
    (joined : server.join repetitions = .ok server') : server'.place ≠ .undefined := by
  unfold join at joined
  split_ifs at joined
  · obtain ⟨finished, -, joined⟩ := bind_eq_ok.mp joined
    cases joined
    simp
  · cases joined
    exact place

theorem step_place (defined : repetitions.Defined) (place : server.place ≠ .undefined)
    {input : ServerStep} {threw : Option String}
    (taken : server.step repetitions input = .ok (threw, server')) : server'.place ≠ .undefined := by
  cases input with
  | start =>
    simp only [step] at taken
    split_ifs at taken <;> cases taken
    · exact place
    · simp
    · exact place
  | proceed =>
    cases taken
    exact proceed_place defined place
  | stop =>
    obtain ⟨_, joined, taken⟩ := bind_eq_ok.mp taken
    cases taken
    let stopped := ((server.serviceStopped .initialWait).serviceStopped .repetition).serviceStopped .main
    have same : stopped.place = server.place := rfl
    exact join_place (same ▸ place) joined
  | join =>
    obtain ⟨_, joined, taken⟩ := bind_eq_ok.mp taken
    cases taken
    exact join_place place joined
  | find =>
    cases taken
    exact place

end SdServer

namespace SdClient
variable {repetitions : Repetitions} {client : SdClient}

/-- Only the delay of a repetition may be undefined, and its round is one of those asked for. -/
theorem exists_step (defined : repetitions.Defined) (counted : client.Counted repetitions)
    (input : ClientStep) : ∃ observed client', client.step repetitions input = .ok (observed, client') := by
  cases input with
  | start =>
    simp only [step]
    split_ifs <;> exact ⟨_, _, rfl⟩
  | stop | destroy | offer => exact ⟨_, _, rfl⟩
  | signal =>
    simp only [step]
    split_ifs <;> exact ⟨_, _, rfl⟩
  | timeout =>
    simp only [step]
    split <;> exact ⟨_, _, rfl⟩
  | proceed =>
    simp only [step, proceed]
    cases at_ : client.place with
    | idle | returned | requestService | waitFor | waiting | choose => exact ⟨_, _, rfl⟩
    | transit | getRequested | waitForSignal | signalled | waitForExpiration | woken =>
      dsimp only
      split <;> exact ⟨_, _, rfl⟩
    | getOffered watch =>
      dsimp only
      split_ifs
      · split <;> exact ⟨_, _, rfl⟩
      · exact ⟨_, _, rfl⟩
    | sleep phase i =>
      cases phase with
      | initialWait => exact ⟨_, _, rfl⟩
      | repetition =>
        obtain ⟨delay, ok⟩ := (defined i (counted.within i (by simp [at_, Place.repetition]))).exists_delay
        refine ⟨none, client.goto (.wakeUp .repetition i (client.timerSet .repetition).waitFor), ?_⟩
        simp only [if_true, ok]
        rfl
    | wakeUp phase i interrupted =>
      dsimp only
      split_ifs <;> exact ⟨_, _, rfl⟩
    | sendFind phase i => cases phase <;> exact ⟨_, _, rfl⟩

end SdClient

/-- With a last delay that is an int the thread of the server is never undefined, and every step of the client
can be taken, in all their runs. -/
theorem machines_defined {state : RepetitionState} {repetitionMax : UInt32}
    (rounds : state.rounds = repetitionMax.toNat)
    (last : LastFits state.repetitionsBaseDelay repetitionMax) :
    (∀ trace server, Run (SdServer.step state.repetitions) .make trace server →
        server.place ≠ .undefined) ∧
      ∀ signalFlag trace client, Run (SdClient.step state.repetitions) (.make signalFlag) trace client →
        ∀ input, ∃ observed client', client.step state.repetitions input = .ok (observed, client') := by
  have defined := (RepetitionState.defined_iff rounds).mpr last
  constructor
  · intro trace server run
    let inv (server : SdServer) : Prop := server.place ≠ .undefined
    have start : inv .make := by simp [inv, SdServer.make]
    exact Run.reached start (fun _ _ _ _ place taken => SdServer.step_place defined place taken) run
  · intro signalFlag trace client run input
    have regular : client.Regular state.repetitions :=
      Run.reached (SdClient.regular_make signalFlag) (fun _ _ _ _ regular taken => regular.step taken) run
    exact SdClient.exists_step defined regular.counted input

end AdaptiveAutosar.Com
