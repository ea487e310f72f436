import AdaptiveAutosar.Foundations.Transition
import AdaptiveAutosar.Phm.AliveSupervision

/-! # Cycles of an alive supervision

A cycle is a number of `ReportAliveness` calls and the round of the worker behind them. It is compared with the
same cycle in the integers.
-/

namespace AdaptiveAutosar.Phm
open Foundations
set_option autoImplicit false

/-- The arguments of the constructor that a cycle is evaluated by. -/
structure AliveConfiguration where
  expectedAliveIndications : UInt16
  minMargin : UInt16
  maxMargin : UInt16
  failedReferenceCyclesTolerance : UInt8
  deriving DecidableEq, Repr

namespace AliveConfiguration

/-- The configured bounds, over the integers. -/
def Good (configuration : AliveConfiguration) (indications : ℕ) : Prop :=
  (configuration.expectedAliveIndications.toNat : ℤ) - configuration.minMargin.toNat ≤ indications ∧
    (indications : ℤ) ≤ configuration.expectedAliveIndications.toNat + configuration.maxMargin.toNat

instance (configuration : AliveConfiguration) (indications : ℕ) : Decidable (configuration.Good indications) :=
  inferInstanceAs (Decidable (_ ∧ _))

/-- The failures behind a cycle. -/
def failures (configuration : AliveConfiguration) (before : ℤ) (indications : ℕ) : ℤ :=
  if configuration.Good indications then max (before - 1) 0 else before + 1

/-- What a cycle reports. -/
def status (configuration : AliveConfiguration) (before : ℤ) (indications : ℕ) : SupervisionStatus :=
  if configuration.Good indications then .ok
  else if configuration.failures before indications < configuration.failedReferenceCyclesTolerance.toNat then .failed
  else .expired

/-- The count of a cycle stops at the largest number, where a bound of that number cannot see more calls. -/
def Distinguishes (configuration : AliveConfiguration) (indications : ℕ) : Prop :=
  configuration.expectedAliveIndications.toNat + configuration.maxMargin.toNat = 65535 → indications ≤ 65535

instance (configuration : AliveConfiguration) (indications : ℕ) :
    Decidable (configuration.Distinguishes indications) :=
  inferInstanceAs (Decidable (_ → _))

def make (configuration : AliveConfiguration) (aliveReferenceCycle : ℤ) : Outcome AliveSupervision :=
  AliveSupervision.make configuration.expectedAliveIndications configuration.minMargin configuration.maxMargin
    aliveReferenceCycle configuration.failedReferenceCyclesTolerance

end AliveConfiguration

namespace AliveSupervision

/-- A cycle with `indications` calls of `ReportAliveness`. -/
def cycle (supervision : AliveSupervision) (indications : ℕ) :
    Outcome (Option (SupervisionStatus × Option SupervisionStatus) × AliveSupervision) :=
  .ok (supervise (reportAliveness^[indications] supervision))

variable {configuration : AliveConfiguration} {supervision : AliveSupervision} {indications : ℕ}

/-- The bounds of the supervision are the configured ones. -/
structure Exact (configuration : AliveConfiguration) (supervision : AliveSupervision) : Prop where
  min : (supervision.expectedAliveIndicationsMin.toNat : ℤ) =
    configuration.expectedAliveIndications.toNat - configuration.minMargin.toNat
  max : (supervision.expectedAliveIndicationsMax.toNat : ℤ) =
    configuration.expectedAliveIndications.toNat + configuration.maxMargin.toNat

/-- The count lies within the bounds of the supervision. -/
def Within (supervision : AliveSupervision) : Prop :=
  supervision.expectedAliveIndicationsMin ≤ supervision.aliveIndications ∧
    supervision.aliveIndications ≤ supervision.expectedAliveIndicationsMax

instance (supervision : AliveSupervision) : Decidable supervision.Within := inferInstanceAs (Decidable (_ ∧ _))

/-- The counter behind a round. -/
def failures (supervision : AliveSupervision) : UInt8 :=
  if supervision.Within then
    if 0 < supervision.aliveCounter then supervision.aliveCounter - 1 else supervision.aliveCounter
  else supervision.aliveCounter + 1

/-- What a round reports. -/
def verdict (supervision : AliveSupervision) : SupervisionStatus :=
  if supervision.Within then .ok
  else if supervision.aliveCounter + 1 < supervision.failedReferenceCyclesTolerance then .failed
  else .expired

/-- A cycle that is evaluated counts the failures of the integers, reports the status they give and ends the
supervision exactly when it expires. -/
structure Evaluated (configuration : AliveConfiguration) (before : AliveSupervision) (indications : ℕ)
    (output : Option (SupervisionStatus × Option SupervisionStatus)) (after : AliveSupervision) : Prop where
  reported : output.map Prod.fst = some (configuration.status before.aliveCounter.toNat indications)
  called : output.bind Prod.snd =
    if configuration.status before.aliveCounter.toNat indications = before.elementary.status then none
    else some (configuration.status before.aliveCounter.toNat indications)
  status : after.elementary.status = configuration.status before.aliveCounter.toNat indications
  counter : (after.aliveCounter.toNat : ℤ) = configuration.failures before.aliveCounter.toNat indications
  running : after.running = true ↔ configuration.status before.aliveCounter.toNat indications ≠ .expired

/-- The cycle counts its calls up to the largest number, and is evaluated while the supervision runs. Afterwards
nothing is reported and the counter and the status stay. -/
structure Evaluates (configuration : AliveConfiguration) (before : AliveSupervision) (indications : ℕ)
    (output : Option (SupervisionStatus × Option SupervisionStatus)) (after : AliveSupervision) : Prop where
  counted : (reportAliveness^[indications] before).aliveIndications.toNat =
    min (before.aliveIndications.toNat + indications) 65535
  evaluated : before.running = true → Evaluated configuration before indications output after
  ended : before.running = false → output = none ∧ after.running = false ∧
    after.aliveCounter = before.aliveCounter ∧ after.elementary = before.elementary

/-- What a supervision that runs has between two cycles. -/
structure Supervises (configuration : AliveConfiguration) (supervision : AliveSupervision) : Prop where
  exact : Exact configuration supervision
  tolerance : supervision.failedReferenceCyclesTolerance = configuration.failedReferenceCyclesTolerance
  counter : supervision.running = true →
    supervision.aliveCounter.toNat < configuration.failedReferenceCyclesTolerance.toNat
  indications : supervision.running = true → supervision.aliveIndications = 0
  status : supervision.running = true → supervision.elementary.status ≠ .expired

/-! ## Counting -/

theorem reportAliveness_toNat (supervision : AliveSupervision) :
    supervision.reportAliveness.aliveIndications.toNat = min (supervision.aliveIndications.toNat + 1) 65535 := by
  have bound := supervision.aliveIndications.toNat_lt
  unfold reportAliveness
  split_ifs with room
  · have below : supervision.aliveIndications.toNat < 65535 := room
    change (supervision.aliveIndications + 1).toNat = _
    rw [UInt16.toNat_add]
    change (supervision.aliveIndications.toNat + 1) % 2 ^ 16 = _
    omega
  · have full : ¬ supervision.aliveIndications.toNat < 65535 := room
    omega

theorem reportAliveness_eq (supervision : AliveSupervision) :
    supervision.reportAliveness =
      { supervision with aliveIndications := supervision.reportAliveness.aliveIndications } := by
  unfold reportAliveness
  split_ifs <;> rfl

/-- Calls change the count and nothing else, and the count stops at the largest number. -/
theorem iterate_reportAliveness (supervision : AliveSupervision) (indications : ℕ) :
    ∃ aliveIndications, reportAliveness^[indications] supervision = { supervision with aliveIndications } ∧
      aliveIndications.toNat = min (supervision.aliveIndications.toNat + indications) 65535 := by
  induction indications with
  | zero =>
    have bound := supervision.aliveIndications.toNat_lt
    refine ⟨supervision.aliveIndications, rfl, ?_⟩
    omega
  | succ indications ih =>
    obtain ⟨aliveIndications, counted, count⟩ := ih
    rw [Function.iterate_succ_apply', counted, reportAliveness_eq]
    refine ⟨_, rfl, ?_⟩
    rw [reportAliveness_toNat]
    change min (aliveIndications.toNat + 1) 65535 = _
    omega

/-! ## One cycle -/

theorem report_of_running (running : supervision.elementary.status ≠ .expired) (status : SupervisionStatus) :
    supervision.elementary.report status = ({ supervision.elementary with status },
      if status = supervision.elementary.status then none else some status) := by
  rw [ElementarySupervision.report_eq]
  simp only [ElementarySupervision.reported, running, false_and, if_false]

theorem within_iff (exact : Exact configuration supervision)
    (count : supervision.aliveIndications.toNat = min indications 65535) :
    supervision.Within ↔ configuration.Good indications ∨ ¬ configuration.Distinguishes indications := by
  have lower := exact.min
  have upper := exact.max
  have bound := supervision.expectedAliveIndicationsMax.toNat_lt
  unfold Within AliveConfiguration.Good AliveConfiguration.Distinguishes
  rw [UInt16.le_iff_toNat_le, UInt16.le_iff_toNat_le]
  omega

theorem not_good (blind : ¬ configuration.Distinguishes indications) : ¬ configuration.Good indications := by
  unfold AliveConfiguration.Good AliveConfiguration.Distinguishes at *
  omega

/-- A round of a supervision that runs reports its verdict, and ends the supervision with an expired one. -/
theorem supervise_running (supervision : AliveSupervision) (running : supervision.running = true)
    (active : supervision.elementary.status ≠ .expired) :
    supervise supervision = (some (supervision.verdict,
        if supervision.verdict = supervision.elementary.status then none else some supervision.verdict),
      { supervision with
        elementary := { supervision.elementary with status := supervision.verdict }
        aliveIndications := 0
        aliveCounter := supervision.failures
        running := supervision.verdict ≠ .expired }) := by
  have runs : ¬ supervision.running = false := by simp [running]
  unfold supervise verdict failures
  rw [if_neg runs]
  by_cases within : supervision.Within
  · rw [if_pos within, if_pos within]
    unfold Within at within
    rw [if_pos within, report_of_running active, running]
    rfl
  · rw [if_neg within, if_neg within]
    unfold Within at within
    rw [if_neg within]
    by_cases tolerated : supervision.aliveCounter + 1 < supervision.failedReferenceCyclesTolerance
    · simp only [if_pos tolerated, report_of_running active, running]
      rfl
    · simp only [if_neg tolerated, report_of_running active]
      rfl

theorem supervise_ended (supervision : AliveSupervision) (ended : supervision.running = false) :
    supervise supervision = (none, supervision) := by
  unfold supervise
  rw [if_pos ended]

theorem toNat_lower (counter : UInt8) :
    ((if 0 < counter then counter - 1 else counter).toNat : ℤ) = max ((counter.toNat : ℤ) - 1) 0 := by
  split_ifs with positive
  · have above : 0 < counter.toNat := positive
    have one : (1 : UInt8) ≤ counter := above
    rw [UInt8.toNat_sub_of_le _ _ one]
    change ((counter.toNat - 1 : ℕ) : ℤ) = _
    omega
  · have none : ¬ 0 < counter.toNat := positive
    omega

theorem toNat_raise {counter tolerance : UInt8} (below : counter.toNat < tolerance.toNat) :
    (counter + 1).toNat = counter.toNat + 1 := by
  have bound := tolerance.toNat_lt
  rw [UInt8.toNat_add]
  change (counter.toNat + 1) % 2 ^ 8 = _
  omega

theorem failures_eq (below : supervision.aliveCounter.toNat < configuration.failedReferenceCyclesTolerance.toNat)
    (told : supervision.Within ↔ configuration.Good indications) :
    (supervision.failures.toNat : ℤ) = configuration.failures supervision.aliveCounter.toNat indications := by
  unfold failures AliveConfiguration.failures
  by_cases good : configuration.Good indications
  · rw [if_pos (told.mpr good), if_pos good]
    exact toNat_lower supervision.aliveCounter
  · rw [if_neg (mt told.mp good), if_neg good, toNat_raise below]
    omega

theorem verdict_eq
    (tolerance : supervision.failedReferenceCyclesTolerance = configuration.failedReferenceCyclesTolerance)
    (below : supervision.aliveCounter.toNat < configuration.failedReferenceCyclesTolerance.toNat)
    (told : supervision.Within ↔ configuration.Good indications) :
    supervision.verdict = configuration.status supervision.aliveCounter.toNat indications := by
  unfold verdict AliveConfiguration.status
  by_cases good : configuration.Good indications
  · rw [if_pos (told.mpr good), if_pos good]
  · have raised := toNat_raise below
    have failures : configuration.failures supervision.aliveCounter.toNat indications =
        supervision.aliveCounter.toNat + 1 := if_neg good
    have tolerated : supervision.aliveCounter + 1 < supervision.failedReferenceCyclesTolerance ↔
        configuration.failures supervision.aliveCounter.toNat indications <
          configuration.failedReferenceCyclesTolerance.toNat := by
      rw [tolerance, UInt8.lt_iff_toNat_lt, raised, failures]
      omega
    rw [if_neg (mt told.mp good), if_neg good]
    exact if_congr tolerated rfl rfl

/-- A round that tells good from bad counts evaluates its cycle. -/
theorem supervise_evaluated (supervision : AliveSupervision)
    (tolerance : supervision.failedReferenceCyclesTolerance = configuration.failedReferenceCyclesTolerance)
    (below : supervision.aliveCounter.toNat < configuration.failedReferenceCyclesTolerance.toNat)
    (running : supervision.running = true) (active : supervision.elementary.status ≠ .expired)
    (told : supervision.Within ↔ configuration.Good indications) :
    Evaluated configuration supervision indications (supervise supervision).1 (supervise supervision).2 := by
  have verdict := verdict_eq tolerance below told
  rw [supervise_running supervision running active, verdict]
  exact ⟨rfl, rfl, rfl, failures_eq below told, decide_eq_true_iff⟩

/-- A cycle with too many calls that is within the bounds is reported to be good. -/
theorem supervise_not_evaluated (supervision : AliveSupervision) (running : supervision.running = true)
    (active : supervision.elementary.status ≠ .expired) (within : supervision.Within)
    (bad : ¬ configuration.Good indications) {after : AliveSupervision} :
    ¬ Evaluated configuration supervision indications (supervise supervision).1 after := by
  intro evaluated
  have reported := evaluated.reported
  have good : supervision.verdict = .ok := if_pos within
  rw [supervise_running supervision running active, good] at reported
  have ok : SupervisionStatus.ok = configuration.status supervision.aliveCounter.toNat indications :=
    Option.some.inj reported
  unfold AliveConfiguration.status at ok
  rw [if_neg bad] at ok
  split_ifs at ok

theorem cycle_evaluates_iff (supervises : Supervises configuration supervision)
    {output : Option (SupervisionStatus × Option SupervisionStatus)} {after : AliveSupervision}
    (taken : supervision.cycle indications = .ok (output, after)) :
    Evaluates configuration supervision indications output after ↔
      (supervision.running = true → configuration.Distinguishes indications) := by
  obtain ⟨aliveIndications, counted, count⟩ := iterate_reportAliveness supervision indications
  have result : supervise { supervision with aliveIndications } = (output, after) := by
    rw [← counted]
    exact Except.ok.inj taken
  have counts : (reportAliveness^[indications] supervision).aliveIndications.toNat =
      min (supervision.aliveIndications.toNat + indications) 65535 := by rw [counted, ← count]
  by_cases running : supervision.running = true
  · have zero : supervision.aliveIndications.toNat = 0 := congrArg UInt16.toNat (supervises.indications running)
    have exact : Exact configuration { supervision with aliveIndications } :=
      ⟨supervises.exact.min, supervises.exact.max⟩
    have fromZero : min (supervision.aliveIndications.toNat + indications) 65535 = min indications 65535 := by omega
    have within := within_iff exact (count.trans fromZero)
    have active := supervises.status running
    constructor
    · intro evaluates _
      by_contra blind
      have evaluated := evaluates.evaluated running
      apply supervise_not_evaluated { supervision with aliveIndications } running active
        (within.mpr (.inr blind)) (not_good blind)
      rw [result]
      exact ⟨evaluated.reported, evaluated.called, evaluated.status, evaluated.counter, evaluated.running⟩
    · intro distinguishes
      refine ⟨counts, fun _ => ?_, fun ended => ?_⟩
      · have told : ({ supervision with aliveIndications } : AliveSupervision).Within ↔
            configuration.Good indications := by
          rw [within]
          exact or_iff_left (not_not_intro (distinguishes running))
        have evaluated := supervise_evaluated { supervision with aliveIndications } supervises.tolerance
          (supervises.counter running) running active told
        rw [result] at evaluated
        exact ⟨evaluated.reported, evaluated.called, evaluated.status, evaluated.counter, evaluated.running⟩
      · rw [running] at ended
        cases ended
  · have ended : supervision.running = false := Bool.eq_false_of_not_eq_true running
    refine iff_of_true ⟨counts, fun here => absurd here running, fun _ => ?_⟩ fun here => absurd here running
    rw [supervise_ended { supervision with aliveIndications } ended] at result
    cases result
    exact ⟨rfl, ended, rfl, rfl⟩

theorem supervise_supervises (supervision : AliveSupervision) (exact : Exact configuration supervision)
    (tolerance : supervision.failedReferenceCyclesTolerance = configuration.failedReferenceCyclesTolerance)
    (below : supervision.aliveCounter.toNat < configuration.failedReferenceCyclesTolerance.toNat)
    (running : supervision.running = true) (active : supervision.elementary.status ≠ .expired) :
    Supervises configuration (supervise supervision).2 := by
  rw [supervise_running supervision running active]
  refine ⟨⟨exact.min, exact.max⟩, tolerance, fun still => ?_, fun _ => rfl, of_decide_eq_true⟩
  have unexpired : supervision.verdict ≠ .expired := of_decide_eq_true still
  unfold verdict at unexpired
  change supervision.failures.toNat < _
  unfold failures
  by_cases within : supervision.Within
  · rw [if_pos within]
    have lowered := toNat_lower supervision.aliveCounter
    omega
  · rw [if_neg within] at unexpired ⊢
    split_ifs at unexpired with tolerated
    · rw [← tolerance]
      exact tolerated
    · exact absurd rfl unexpired

theorem cycle_supervises (supervises : Supervises configuration supervision)
    {output : Option (SupervisionStatus × Option SupervisionStatus)} {after : AliveSupervision}
    (taken : supervision.cycle indications = .ok (output, after)) : Supervises configuration after := by
  obtain ⟨aliveIndications, counted, -⟩ := iterate_reportAliveness supervision indications
  have result : supervise { supervision with aliveIndications } = (output, after) := by
    rw [← counted]
    exact Except.ok.inj taken
  have exact : Exact configuration { supervision with aliveIndications } :=
    ⟨supervises.exact.min, supervises.exact.max⟩
  by_cases running : supervision.running = true
  · have kept := supervise_supervises { supervision with aliveIndications } exact supervises.tolerance
      (supervises.counter running) running (supervises.status running)
    rw [result] at kept
    exact kept
  · have ended : supervision.running = false := Bool.eq_false_of_not_eq_true running
    rw [supervise_ended { supervision with aliveIndications } ended] at result
    cases result
    exact ⟨exact, supervises.tolerance, fun here => absurd here running, fun here => absurd here running,
      fun here => absurd here running⟩

/-! ## Every cycle -/

/-- What the constructor accepts. -/
structure Accepted (configuration : AliveConfiguration) (aliveReferenceCycle : ℤ) : Prop where
  minMargin : 0 < configuration.minMargin ∧ configuration.minMargin < configuration.expectedAliveIndications
  maxMargin : 0 < configuration.maxMargin
  tolerance : 0 < configuration.failedReferenceCyclesTolerance
  cycle : 0 < aliveReferenceCycle

/-- What the constructor makes of it. -/
def initial (configuration : AliveConfiguration) (aliveReferenceCycle : ℤ) : AliveSupervision :=
  ⟨.make .aliveSupervision, configuration.expectedAliveIndications - configuration.minMargin,
    configuration.expectedAliveIndications + configuration.maxMargin, configuration.failedReferenceCyclesTolerance,
    aliveReferenceCycle, 0, true, 0⟩

theorem make_ok {aliveReferenceCycle : ℤ} (made : configuration.make aliveReferenceCycle = .ok supervision) :
    Accepted configuration aliveReferenceCycle ∧ supervision = initial configuration aliveReferenceCycle := by
  unfold AliveConfiguration.make make at made
  by_cases minMargin : 0 < configuration.minMargin ∧ configuration.minMargin < configuration.expectedAliveIndications
  · rw [if_neg (not_not_intro minMargin)] at made
    by_cases maxMargin : 0 < configuration.maxMargin
    · rw [if_neg (not_not_intro maxMargin)] at made
      by_cases tolerance : 0 < configuration.failedReferenceCyclesTolerance
      · rw [if_neg (not_not_intro tolerance)] at made
        by_cases cycle : 0 < aliveReferenceCycle
        · rw [if_neg (not_not_intro cycle)] at made
          exact ⟨⟨minMargin, maxMargin, tolerance, cycle⟩, (Except.ok.inj made).symm⟩
        · rw [if_pos cycle] at made
          cases made
      · rw [if_pos tolerance] at made
        cases made
    · rw [if_pos maxMargin] at made
      cases made
  · rw [if_pos minMargin] at made
    cases made

/-- The lower bound is the difference always, the upper bound the sum only when it fits. -/
theorem initial_exact_iff {aliveReferenceCycle : ℤ} (accepted : Accepted configuration aliveReferenceCycle) :
    Exact configuration (initial configuration aliveReferenceCycle) ↔
      configuration.expectedAliveIndications.toNat + configuration.maxMargin.toNat ≤ 65535 := by
  have below : configuration.minMargin.toNat < configuration.expectedAliveIndications.toNat := accepted.minMargin.2
  have min : (configuration.expectedAliveIndications - configuration.minMargin).toNat =
      configuration.expectedAliveIndications.toNat - configuration.minMargin.toNat :=
    UInt16.toNat_sub_of_le _ _ (UInt16.le_iff_toNat_le.mpr below.le)
  have max : (configuration.expectedAliveIndications + configuration.maxMargin).toNat =
      (configuration.expectedAliveIndications.toNat + configuration.maxMargin.toNat) % 2 ^ 16 := UInt16.toNat_add _ _
  constructor
  · intro exact
    have upper : ((configuration.expectedAliveIndications + configuration.maxMargin).toNat : ℤ) = _ := exact.max
    omega
  · intro fits
    constructor
    · change ((configuration.expectedAliveIndications - configuration.minMargin).toNat : ℤ) = _
      omega
    · change ((configuration.expectedAliveIndications + configuration.maxMargin).toNat : ℤ) = _
      omega

theorem initial_supervises {aliveReferenceCycle : ℤ} (accepted : Accepted configuration aliveReferenceCycle)
    (exact : Exact configuration (initial configuration aliveReferenceCycle)) :
    Supervises configuration (initial configuration aliveReferenceCycle) where
  exact := exact
  tolerance := rfl
  counter := fun _ => accepted.tolerance
  indications := fun _ => rfl
  status := fun _ => SupervisionStatus.noConfusion

/-- A sum that does not fit wraps below the expected number, and a cycle with that number of calls is bad. -/
theorem wrapped_not_ok {aliveReferenceCycle : ℤ} (wraps :
      65535 < configuration.expectedAliveIndications.toNat + configuration.maxMargin.toNat)
    {output : Option (SupervisionStatus × Option SupervisionStatus)} {after : AliveSupervision}
    (taken : (initial configuration aliveReferenceCycle).cycle configuration.expectedAliveIndications.toNat =
      .ok (output, after)) :
    output.map Prod.fst = some .failed ∨ output.map Prod.fst = some .expired := by
  obtain ⟨aliveIndications, counted, count⟩ := iterate_reportAliveness (initial configuration aliveReferenceCycle)
    configuration.expectedAliveIndications.toNat
  have result : supervise { initial configuration aliveReferenceCycle with aliveIndications } = (output, after) := by
    rw [← counted]
    exact Except.ok.inj taken
  have zero : (initial configuration aliveReferenceCycle).aliveIndications.toNat = 0 := rfl
  have expected := configuration.expectedAliveIndications.toNat_lt
  have margin := configuration.maxMargin.toNat_lt
  have max : (configuration.expectedAliveIndications + configuration.maxMargin).toNat =
      (configuration.expectedAliveIndications.toNat + configuration.maxMargin.toNat) % 2 ^ 16 := UInt16.toNat_add _ _
  have outside :
      ¬ ({ initial configuration aliveReferenceCycle with aliveIndications } : AliveSupervision).Within := by
    rintro ⟨-, within⟩
    have upper : aliveIndications.toNat ≤
        (configuration.expectedAliveIndications + configuration.maxMargin).toNat := within
    omega
  have active : (initial configuration aliveReferenceCycle).elementary.status ≠ .expired :=
    SupervisionStatus.noConfusion
  rw [supervise_running { initial configuration aliveReferenceCycle with aliveIndications } rfl active] at result
  cases result
  change some (verdict _) = _ ∨ some (verdict _) = _
  unfold verdict
  rw [if_neg outside]
  split_ifs
  · exact .inl rfl
  · exact .inr rfl

/-- For every configuration that the constructor accepts and every sequence of cycles: the bounds are those of the
integers and every cycle is evaluated by them, exactly when the upper bound fits into its sixteen bits and no cycle
has more calls than are counted, when the bound is the largest number. -/
theorem cycles_evaluated_iff {aliveReferenceCycle : ℤ} {made : AliveSupervision}
    (accepted : configuration.make aliveReferenceCycle = .ok made)
    {trace : List (Taken AliveSupervision ℕ (Option (SupervisionStatus × Option SupervisionStatus)))}
    (run : Run cycle made trace supervision) :
    (Exact configuration made ∧ ∀ taken ∈ trace, ∀ after,
        taken.before.cycle taken.input = .ok (taken.output, after) →
          Evaluates configuration taken.before taken.input taken.output after) ↔
      configuration.expectedAliveIndications.toNat + configuration.maxMargin.toNat ≤ 65535 ∧
        Run.Every (fun before indications => before.running = true → configuration.Distinguishes indications)
          trace := by
  obtain ⟨valid, rfl⟩ := make_ok accepted
  rw [initial_exact_iff valid]
  apply and_congr_right
  intro fits
  have supervises := initial_supervises valid ((initial_exact_iff valid).mpr fits)
  apply Run.all_iff_every supervises (fun _ _ _ _ holds taken => cycle_supervises holds taken) ?_ run
  intro before indications output after holds taken
  rw [Run.forall_after_iff taken]
  exact cycle_evaluates_iff holds taken

/-- A good cycle, a bad one that is tolerated and two more, the last of which comes too late. -/
theorem cycles_evaluated_iff_fourCycles : ∃ made trace supervision,
    AliveConfiguration.make ⟨3, 1, 1, 2⟩ 10 = .ok made ∧
      Run.play cycle [] made [2, 5, 1, 3] = .ok (trace, supervision) ∧
      trace.map (fun taken => taken.output.map Prod.fst) = [none, some .expired, some .failed, some .ok] ∧
      Exact ⟨3, 1, 1, 2⟩ made ∧ ∀ taken ∈ trace, ∀ after,
        taken.before.cycle taken.input = .ok (taken.output, after) →
          Evaluates ⟨3, 1, 1, 2⟩ taken.before taken.input taken.output after := by
  obtain ⟨made, trace, supervision, accepted, played, outputs, every⟩ : ∃ made trace supervision,
      AliveConfiguration.make ⟨3, 1, 1, 2⟩ 10 = .ok made ∧
        Run.play cycle [] made [2, 5, 1, 3] = .ok (trace, supervision) ∧
        trace.map (fun taken => taken.output.map Prod.fst) = [none, some .expired, some .failed, some .ok] ∧
        Run.Every (fun before indications => before.running = true →
          AliveConfiguration.Distinguishes ⟨3, 1, 1, 2⟩ indications) trace :=
    ⟨_, _, _, rfl, rfl, by decide, by decide⟩
  have evaluated := (cycles_evaluated_iff accepted (Run.of_play .start played)).mpr ⟨by decide, every⟩
  exact ⟨made, trace, supervision, accepted, played, outputs, evaluated⟩

/-- The upper bound `2 + 65534` wraps to zero, and a cycle with the two expected calls ends the supervision. -/
theorem not_always_evaluated : ∃ made after,
    AliveConfiguration.make ⟨2, 1, 65534, 1⟩ 10 = .ok made ∧ AliveConfiguration.Good ⟨2, 1, 65534, 1⟩ 2 ∧
      made.cycle 2 = .ok (some (.expired, some .expired), after) ∧ after.running = false ∧
      made.expectedAliveIndicationsMax = 0 ∧
      ¬ Evaluates ⟨2, 1, 65534, 1⟩ made 2 (some (.expired, some .expired)) after := by
  refine ⟨_, _, rfl, by decide, rfl, rfl, rfl, ?_⟩
  intro evaluates
  have reported := (evaluates.evaluated rfl).reported
  revert reported
  decide

end AliveSupervision
end AdaptiveAutosar.Phm
