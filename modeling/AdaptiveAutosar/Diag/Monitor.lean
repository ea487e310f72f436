import Mathlib.Data.BitVec
import AdaptiveAutosar.Diag.Debouncing
import AdaptiveAutosar.Foundations.Cursor
import AdaptiveAutosar.Foundations.Transition

/-! # Monitors and their events

`ara::diag::Monitor` with counter-based debouncing, and the status byte and fault detection counter of
`ara::diag::Event`. The debouncer, the status bits and the counter each hold the verdict; the callback of
the debouncer brings it to the event, and only when the status of the debouncer changes.
-/

namespace AdaptiveAutosar.Diag
open Foundations
set_option autoImplicit false

/-! ## Event -/

inductive EventStatusBit where
  | testFailed
  | testFailedThisOperationCycle
  | testNotCompletedThisOperationCycle
  deriving DecidableEq, Repr

/-- The bit's `_position` in the status byte. -/
def EventStatusBit.position : EventStatusBit → ℕ
  | .testFailed => 7
  | .testFailedThisOperationCycle => 6
  | .testNotCompletedThisOperationCycle => 1

theorem EventStatusBit.position_lt (bit : EventStatusBit) : bit.position < 8 := by
  cases bit <;> decide

theorem EventStatusBit.position_inj {bit other : EventStatusBit} :
    bit.position = other.position ↔ bit = other := by
  cases bit <;> cases other <;> decide

/-- `std::bitset::set`. -/
def setBit (bits : BitVec 8) (position : ℕ) (value : Bool) : BitVec 8 :=
  if value then bits ||| BitVec.twoPow 8 position else bits &&& ~~~BitVec.twoPow 8 position

theorem getLsbD_setBit (bits : BitVec 8) (position : ℕ) (value : Bool) (k : ℕ) (inside : k < 8) :
    (setBit bits position value).getLsbD k = if k = position then value else bits.getLsbD k := by
  unfold setBit
  cases value with
  | false =>
    by_cases here : k = position
    · subst here
      simp [inside]
    · simp [inside, here]
  | true =>
    by_cases here : k = position
    · subst here
      simp [inside]
    · simp [BitVec.getLsbD_twoPow, here, Ne.symm here]

/-- `mEventStatus.encodedBits` and `mFdc`. -/
structure Event where
  encodedBits : UInt8
  fdc : Int8
  deriving DecidableEq, Repr

namespace Event

def cDefaultEventStatus : UInt8 := 0x02

/-- The constructor. -/
def make : Event := ⟨cDefaultEventStatus, 0⟩

def hasBit (event : Event) (bit : EventStatusBit) : Bool :=
  event.encodedBits.toBitVec.getLsbD bit.position

def setFaultDetectionCounter (event : Event) (fdc : Int8) : Event := { event with fdc }

/-- The entries of `statusBits` in their order. The notifier is called with a byte that is new. -/
def setEventStatusBits (event : Event) (statusBits : List (EventStatusBit × Bool)) :
    Event × Option UInt8 :=
  let bits := statusBits.foldl (fun bits entry => setBit bits entry.1.position entry.2)
    event.encodedBits.toBitVec
  let newEncodedBits := UInt8.ofBitVec bits
  if newEncodedBits ≠ event.encodedBits then ({ event with encodedBits := newEncodedBits }, some newEncodedBits)
  else (event, none)

theorem setEventStatusBits_fst (event : Event) (statusBits : List (EventStatusBit × Bool)) :
    (event.setEventStatusBits statusBits).1 =
      ⟨UInt8.ofBitVec (statusBits.foldl (fun bits entry => setBit bits entry.1.position entry.2)
        event.encodedBits.toBitVec), event.fdc⟩ := by
  unfold setEventStatusBits
  dsimp only
  split_ifs with same
  · rfl
  · rw [not_not.mp same]

/-- What is set last under a bit is read there; bits that are not named keep their values. -/
theorem hasBit_setEventStatusBits (event : Event) (statusBits : List (EventStatusBit × Bool))
    (bit : EventStatusBit) :
    (event.setEventStatusBits statusBits).1.hasBit bit =
      statusBits.foldl (fun value entry => if bit = entry.1 then entry.2 else value) (event.hasBit bit) := by
  rw [setEventStatusBits_fst]
  unfold hasBit
  dsimp only
  generalize event.encodedBits.toBitVec = bits
  induction statusBits generalizing bits with
  | nil => rfl
  | cons entry rest ih =>
    rw [List.foldl_cons, List.foldl_cons, ih, getLsbD_setBit _ _ _ _ bit.position_lt]
    simp only [EventStatusBit.position_inj]

end Event

/-! ## Monitor -/

inductive InitMonitorReason where
  | clear
  | restart
  | reenabled
  | disabled
  deriving DecidableEq, Repr

inductive MonitorAction where
  | passed
  | failed
  | prepassed
  | prefailed
  | fdcThresholdReached
  | resetTestFailed
  | freezeDebouncing
  | resetDebouncing
  deriving DecidableEq, Repr

structure Monitor where
  offered : Bool
  debouncer : CounterBasedDebouncer
  event : Option Event
  deriving DecidableEq, Repr

namespace Monitor

/-- The constructor with a counter-based debouncing. -/
def make : Monitor := ⟨false, .make, none⟩

def attachEvent (monitor : Monitor) (event : Event) : Monitor := { monitor with event := some event }

/-- What `mInitMonitor` is called with, or nothing when the monitor has been offered already. -/
def offer (monitor : Monitor) : Option (InitMonitorReason × Monitor) :=
  if monitor.offered then none else some (.reenabled, { monitor with offered := true })

def cFailedFdc : Int8 := 127
def cPassedFdc : Int8 := -128

/-- On an event, and with what it calls its notifier. -/
def onEventStatusChanged (event : Event) (passed : Bool) : Event × Option UInt8 :=
  (event.setFaultDetectionCounter (if passed then cPassedFdc else cFailedFdc)).setEventStatusBits
    [(.testFailed, !passed), (.testNotCompletedThisOperationCycle, false)]

/-- The debouncer after a report, which may have called `onEventStatusChanged`. -/
def debounced (monitor : Monitor) (report : CounterBasedDebouncer × Option Bool) :
    Monitor × Option UInt8 :=
  match monitor.event, report.2 with
  | some event, some passed =>
    let changed := onEventStatusChanged event passed
    ({ monitor with debouncer := report.1, event := some changed.1 }, changed.2)
  | _, _ => ({ monitor with debouncer := report.1 }, none)

/-- The monitor and its event, and what the notifier of the event is called with. -/
def reportMonitorAction (values : CounterBased) (monitor : Monitor) (action : MonitorAction) :
    Outcome (Monitor × Option UInt8) :=
  if monitor.offered then
    match action with
    | .passed => .ok (monitor.debounced (monitor.debouncer.reportPassed values))
    | .failed => .ok (monitor.debounced (monitor.debouncer.reportFailed values))
    | .prepassed => .ok (monitor.debounced (monitor.debouncer.reportPrepassed values))
    | .prefailed => .ok (monitor.debounced (monitor.debouncer.reportPrefailed values))
    | .freezeDebouncing => .ok (monitor.debounced monitor.debouncer.freeze)
    | .resetDebouncing => .ok (monitor.debounced monitor.debouncer.reset)
    | .resetTestFailed =>
      match monitor.event with
      | some event =>
        let changed := event.setEventStatusBits [(.testFailed, false)]
        .ok ({ monitor with event := some changed.1 }, changed.2)
      | none => .ok (monitor, none)
    | .fdcThresholdReached =>
      .error (.thrown (.invalidArgument "Reported monitor action is not supported."))
  else .ok (monitor, none)

/-! ## What a report leaves in the event -/

theorem onEventStatusChanged_fdc (event : Event) (passed : Bool) :
    (onEventStatusChanged event passed).1.fdc = if passed then cPassedFdc else cFailedFdc := by
  unfold onEventStatusChanged
  rw [Event.setEventStatusBits_fst]
  rfl

theorem onEventStatusChanged_testFailed (event : Event) (passed : Bool) :
    (onEventStatusChanged event passed).1.hasBit .testFailed = !passed := by
  unfold onEventStatusChanged
  rw [Event.hasBit_setEventStatusBits]
  simp

theorem resetTestFailed_testFailed (event : Event) :
    (event.setEventStatusBits [(.testFailed, false)]).1.hasBit .testFailed = false := by
  rw [Event.hasBit_setEventStatusBits]
  simp

/-- The event shows a verdict with its counter, and that it passed with its bit. -/
def Agrees (status : EventStatus) (event : Event) : Prop :=
  (status = .failed → event.fdc = cFailedFdc) ∧
    (status = .passed → event.fdc = cPassedFdc ∧ event.hasBit .testFailed = false)

/-- An offered monitor with an event that agrees with its debouncer. -/
structure Sound (monitor : Monitor) (event : Event) : Prop where
  offered : monitor.offered = true
  attached : monitor.event = some event
  agrees : Agrees monitor.debouncer.eventStatus event

variable {monitor : Monitor} {event : Event}

/-- A verdict that is new reaches the event, any other report leaves it. -/
theorem Sound.debounced (sound : monitor.Sound event) {report : CounterBasedDebouncer × Option Bool}
    (calls : CounterBasedDebouncer.Calls monitor.debouncer.eventStatus report.1.eventStatus report.2) :
    (monitor.debounced report).1.Sound
      (report.2.elim event fun passed => (onEventStatusChanged event passed).1) := by
  obtain ⟨offered, attached, agrees⟩ := sound
  obtain ⟨debouncer, called⟩ := report
  dsimp only at calls ⊢
  unfold Monitor.debounced
  rw [attached]
  rcases calls with ⟨same, rfl⟩ | ⟨_, passed, rfl⟩ | ⟨_, failed, rfl⟩ | ⟨pending, rfl⟩
  · exact ⟨offered, rfl, same ▸ agrees⟩
  · refine ⟨offered, rfl, fun other => ?_, fun _ => ⟨onEventStatusChanged_fdc event true, ?_⟩⟩
    · cases passed.symm.trans other
    · exact onEventStatusChanged_testFailed event true
  · refine ⟨offered, rfl, fun _ => onEventStatusChanged_fdc event false, fun other => ?_⟩
    cases failed.symm.trans other
  · refine ⟨offered, rfl, fun other => ?_, fun other => ?_⟩
    · cases pending.symm.trans other
    · cases pending.symm.trans other

/-! ## Runs -/

/-- An offered monitor with an event. -/
def start (event : Event) : Monitor := ⟨true, .make, some event⟩

example (event : Event) : (make.attachEvent event).offer = some (.reenabled, start event) := rfl

theorem start_sound (event : Event) : (start event).Sound event :=
  ⟨rfl, rfl, fun other => (by cases other), fun other => (by cases other)⟩

/-- The event after the report, and what its notifier is called with. -/
structure Reported where
  event : Option Event
  notified : Option UInt8
  deriving DecidableEq, Repr

def step (values : CounterBased) (monitor : Monitor) (action : MonitorAction) :
    Outcome (Reported × Monitor) := do
  let (monitor', notified) ← monitor.reportMonitorAction values action
  pure (⟨monitor'.event, notified⟩, monitor')

/-- A verdict that was reported is seen in the event right after it. -/
def VerdictSeen (taken : Taken Monitor MonitorAction Reported) : Prop :=
  ∃ event, taken.output.event = some event ∧
    (taken.input = .failed → event.hasBit .testFailed = true ∧ event.fdc = cFailedFdc) ∧
    (taken.input = .passed → event.hasBit .testFailed = false ∧ event.fdc = cPassedFdc)

/-- A failure is reported to a debouncer that is failed already, and the bit of the event was reset
since. -/
def Repeats (monitor : Monitor) (action : MonitorAction) : Prop :=
  action = .failed ∧ monitor.debouncer.eventStatus = .failed ∧
    ∃ event ∈ monitor.event, event.hasBit .testFailed = false

instance (monitor : Monitor) (action : MonitorAction) : Decidable (monitor.Repeats action) :=
  @instDecidableAnd _ _ _ (@instDecidableAnd _ _ _ (Option.decidableExistsMem monitor.event))

theorem debounced_debouncer (monitor : Monitor) (report : CounterBasedDebouncer × Option Bool) :
    (monitor.debounced report).1.debouncer = report.1 := by
  unfold debounced
  split <;> rfl

theorem step_debounced {values : CounterBased} {action : MonitorAction} {reported : Reported}
    {monitor' : Monitor} (report : CounterBasedDebouncer × Option Bool) (sound : monitor.Sound event)
    (taken : step values monitor action = .ok (reported, monitor'))
    (reports : monitor.reportMonitorAction values action = .ok (monitor.debounced report))
    (calls : CounterBasedDebouncer.Calls monitor.debouncer.eventStatus report.1.eventStatus report.2) :
    monitor'.Sound (report.2.elim event fun passed => (onEventStatusChanged event passed).1) ∧
      reported.event = some (report.2.elim event fun passed => (onEventStatusChanged event passed).1) ∧
      monitor'.debouncer = report.1 := by
  have after := sound.debounced calls
  unfold step at taken
  rw [reports] at taken
  cases taken
  exact ⟨after, after.attached, debounced_debouncer monitor report⟩

/-- A failure is seen right after it unless it repeats one. -/
theorem failed_seen_iff (values : CounterBased) (sound : monitor.Sound event) :
    ((monitor.debouncer.reportFailed values).2.elim event fun passed =>
        (onEventStatusChanged event passed).1).hasBit .testFailed = true ↔ ¬ monitor.Repeats .failed := by
  have calls := CounterBasedDebouncer.settle_calls monitor.debouncer values.failedThreshold .failed
  rw [CounterBasedDebouncer.settle_fst] at calls
  unfold CounterBasedDebouncer.reportFailed
  generalize (monitor.debouncer.settle values.failedThreshold .failed).2 = called at calls ⊢
  rcases calls with ⟨same, rfl⟩ | ⟨_, passed, _⟩ | ⟨other, _, rfl⟩ | ⟨pending, _⟩
  · constructor
    · intro seen repeats
      obtain ⟨_, _, event', attached, cleared⟩ := repeats
      cases sound.attached.symm.trans attached
      rw [Option.elim_none, cleared] at seen
      cases seen
    · intro fresh
      by_contra cleared
      exact fresh ⟨rfl, same, event, sound.attached, Bool.eq_false_of_not_eq_true cleared⟩
  · cases passed
  · refine iff_of_true (onEventStatusChanged_testFailed event false) ?_
    intro repeats
    exact other repeats.2.1
  · cases pending

/-- What an action leaves of a sound monitor. A verdict is seen in the event unless it repeats one. -/
theorem step_sound (values : CounterBased) (sound : monitor.Sound event) {action : MonitorAction}
    {reported : Reported} {monitor' : Monitor}
    (taken : step values monitor action = .ok (reported, monitor')) :
    (∃ event', monitor'.Sound event') ∧
      (VerdictSeen ⟨monitor, action, reported⟩ ↔ ¬ monitor.Repeats action) := by
  have silent : ∀ event', monitor'.Sound event' → reported.event = some event' → action ≠ .passed →
      action ≠ .failed → (∃ event', monitor'.Sound event') ∧
        (VerdictSeen ⟨monitor, action, reported⟩ ↔ ¬ monitor.Repeats action) := by
    intro event' after shown notPassed notFailed
    refine ⟨⟨event', after⟩, iff_of_true ⟨event', shown, ?_, ?_⟩ fun repeats => notFailed repeats.1⟩
    · exact fun same => absurd same notFailed
    · exact fun same => absurd same notPassed
  have offered := sound.offered
  cases action with
  | passed =>
    obtain ⟨after, shown, left⟩ := step_debounced (monitor.debouncer.reportPassed values) sound taken
      (if_pos offered) (CounterBasedDebouncer.settle_calls _ _ _)
    have status : monitor'.debouncer.eventStatus = .passed := by
      rw [left]
      exact congrArg CounterBasedDebouncer.eventStatus (CounterBasedDebouncer.settle_fst _ _ _)
    obtain ⟨counter, cleared⟩ := after.agrees.2 status
    refine ⟨⟨_, after⟩, iff_of_true ⟨_, shown, fun other => (by cases other), fun _ => ⟨cleared, counter⟩⟩ ?_⟩
    intro repeats
    cases repeats.1
  | failed =>
    obtain ⟨after, shown, left⟩ := step_debounced (monitor.debouncer.reportFailed values) sound taken
      (if_pos offered) (CounterBasedDebouncer.settle_calls _ _ _)
    have status : monitor'.debouncer.eventStatus = .failed := by
      rw [left]
      exact congrArg CounterBasedDebouncer.eventStatus (CounterBasedDebouncer.settle_fst _ _ _)
    refine ⟨⟨_, after⟩, ?_⟩
    rw [← failed_seen_iff values sound]
    constructor
    · intro seen
      obtain ⟨event', shown', failed, -⟩ := seen
      cases shown.symm.trans shown'
      exact (failed rfl).1
    · intro bit
      exact ⟨_, shown, fun _ => ⟨bit, after.agrees.1 status⟩, fun other => (by cases other)⟩
  | prepassed =>
    obtain ⟨after, shown, -⟩ := step_debounced (monitor.debouncer.reportPrepassed values) sound taken
      (if_pos offered) (CounterBasedDebouncer.reportPrepassed_calls _ _)
    exact silent _ after shown (by decide) (by decide)
  | prefailed =>
    obtain ⟨after, shown, -⟩ := step_debounced (monitor.debouncer.reportPrefailed values) sound taken
      (if_pos offered) (CounterBasedDebouncer.reportPrefailed_calls _ _)
    exact silent _ after shown (by decide) (by decide)
  | freezeDebouncing =>
    obtain ⟨after, shown, -⟩ := step_debounced monitor.debouncer.freeze sound taken
      (if_pos offered) (CounterBasedDebouncer.settle_calls _ _ _)
    exact silent _ after shown (by decide) (by decide)
  | resetDebouncing =>
    obtain ⟨after, shown, -⟩ := step_debounced monitor.debouncer.reset sound taken
      (if_pos offered) (CounterBasedDebouncer.settle_calls _ _ _)
    exact silent _ after shown (by decide) (by decide)
  | resetTestFailed =>
    obtain ⟨-, attached, agrees⟩ := sound
    have after : Monitor.Sound ⟨monitor.offered, monitor.debouncer,
        some (event.setEventStatusBits [(.testFailed, false)]).1⟩
        (event.setEventStatusBits [(.testFailed, false)]).1 := by
      have counter : (event.setEventStatusBits [(.testFailed, false)]).1.fdc = event.fdc := by
        rw [Event.setEventStatusBits_fst]
      refine ⟨offered, rfl, fun failed => counter.trans (agrees.1 failed), fun passed => ?_⟩
      exact ⟨counter.trans (agrees.2 passed).1, resetTestFailed_testFailed event⟩
    unfold step reportMonitorAction at taken
    rw [if_pos offered, attached] at taken
    cases taken
    exact silent _ after rfl (by decide) (by decide)
  | fdcThresholdReached =>
    unfold step reportMonitorAction at taken
    rw [if_pos offered] at taken
    cases taken

/-- Every verdict that is reported is seen in the event right after it exactly when no failure repeats
one whose bit was reset. -/
theorem verdictsSeen_iff (values : CounterBased) (event : Event)
    {trace : List (Taken Monitor MonitorAction Reported)} {monitor : Monitor}
    (run : Run (step values) (start event) trace monitor) :
    (∀ taken ∈ trace, VerdictSeen taken) ↔
      Run.Every (fun monitor action => ¬ monitor.Repeats action) trace := by
  let inv (monitor : Monitor) : Prop := ∃ event, monitor.Sound event
  have starts : inv (start event) := ⟨event, start_sound event⟩
  refine Run.all_iff_every starts ?_ ?_ run
  · intro state input output state' sound taken
    obtain ⟨event', sound⟩ := sound
    exact (step_sound values sound taken).1
  · intro state input output state' sound taken
    obtain ⟨event', sound⟩ := sound
    exact (step_sound values sound taken).2

/-- Steps of one between thresholds at the ends of a byte. -/
def sampleValues : CounterBased := ⟨127, -128, 1, 1, 0, 0, false, false⟩

theorem verdictsSeen_sample : ∃ trace monitor,
    Run.play (step sampleValues) [] (start .make) [.failed, .resetTestFailed, .prefailed, .passed, .failed] =
        .ok (trace, monitor) ∧
      ∀ taken ∈ trace, VerdictSeen taken := by
  obtain ⟨trace, monitor, played, every⟩ : ∃ trace monitor,
      Run.play (step sampleValues) [] (start .make)
          [.failed, .resetTestFailed, .prefailed, .passed, .failed] = .ok (trace, monitor) ∧
        Run.Every (fun monitor action => ¬ monitor.Repeats action) trace :=
    ⟨_, _, rfl, by decide⟩
  exact ⟨trace, monitor, played,
    (verdictsSeen_iff sampleValues .make (Run.of_play .start played)).mpr every⟩

/-- A failure is reported, the bit is reset, and the failure is reported again. -/
theorem not_always_verdictSeen : ∃ trace monitor,
    Run.play (step sampleValues) [] (start .make) [.failed, .resetTestFailed, .failed] =
        .ok (trace, monitor) ∧
      ¬ ∀ taken ∈ trace, VerdictSeen taken := by
  refine ⟨_, _, rfl, ?_⟩
  intro all
  obtain ⟨event, shown, failed, -⟩ := all _ List.mem_cons_self
  cases shown
  cases (failed rfl).1

end Monitor
end AdaptiveAutosar.Diag
