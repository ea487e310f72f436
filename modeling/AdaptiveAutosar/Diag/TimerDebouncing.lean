import AdaptiveAutosar.Diag.Debouncing

/-! # Timer-based debouncing

`ara::diag::debouncing::TimerBasedDebouncer`, with the time in milliseconds as an input. A worker waits on
the condition variable for what is left to the threshold; it is woken by `Freeze` or ends with the verdict.
The worker is at the wait as soon as it is started, and wakes only then.
-/

namespace AdaptiveAutosar.Diag
set_option autoImplicit false

structure TimeBased where
  passedMs : UInt32
  failedMs : UInt32
  deriving DecidableEq, Repr

/-- The wait of `tick`: its arguments and how long it has lasted. -/
structure TimerWait where
  duration : UInt32
  passing : Bool
  waited : ℕ
  deriving DecidableEq, Repr

/-- `mLock` is owned exactly while there is a wait. -/
structure TimerBasedDebouncer where
  eventStatus : EventStatus
  elapsedMs : UInt32
  isPassing : Bool
  wait : Option TimerWait
  deriving DecidableEq, Repr

namespace TimerBasedDebouncer

/-- The constructor leaves `mIsPassing` as it finds it. -/
def make (isPassing : Bool) : TimerBasedDebouncer := ⟨.pending, 0, isPassing, none⟩

def thresholdOf (values : TimeBased) (passing : Bool) : UInt32 :=
  if passing then values.passedMs else values.failedMs

def verdictOf (passing : Bool) : EventStatus := if passing then .passed else .failed

def start (debouncer : TimerBasedDebouncer) (threshold : UInt32) : TimerBasedDebouncer :=
  let duration := threshold - debouncer.elapsedMs
  if debouncer.wait = none ∧ 0 < duration.toNat then
    { debouncer with wait := some ⟨duration, debouncer.isPassing, 0⟩ }
  else debouncer

/-- `Freeze`: the worker leaves the wait and sets the milliseconds that it has lasted. -/
def freeze (debouncer : TimerBasedDebouncer) : TimerBasedDebouncer :=
  match debouncer.wait with
  -- in place of what earlier waits have lasted
  | some wait => { debouncer with elapsedMs := UInt32.ofNat wait.waited, wait := none }
  | none => debouncer

/-- Time passes. The callback is called when the wait is over, with the time until then. -/
def elapse (values : TimeBased) (debouncer : TimerBasedDebouncer) (ms : ℕ) :
    TimerBasedDebouncer × Option (ℕ × Bool) :=
  match debouncer.wait with
  | some wait =>
    if wait.duration.toNat ≤ wait.waited + ms then
      let set := setEventStatus debouncer.eventStatus (verdictOf wait.passing)
      ({ debouncer with eventStatus := set.1, elapsedMs := thresholdOf values wait.passing, wait := none },
        set.2.map fun passed => (wait.duration.toNat - wait.waited, passed))
    else ({ debouncer with wait := some { wait with waited := wait.waited + ms } }, none)
  | none => (debouncer, none)

/-- `ReportPrepassed` and `ReportPrefailed`. -/
def reportPre (values : TimeBased) (passing : Bool) (debouncer : TimerBasedDebouncer) :
    TimerBasedDebouncer :=
  let turned := if debouncer.isPassing ≠ passing then
      { debouncer.freeze with elapsedMs := 0, isPassing := passing }
    else debouncer
  turned.start (thresholdOf values passing)

def reportPrepassed (values : TimeBased) (debouncer : TimerBasedDebouncer) : TimerBasedDebouncer :=
  debouncer.reportPre values true

def reportPrefailed (values : TimeBased) (debouncer : TimerBasedDebouncer) : TimerBasedDebouncer :=
  debouncer.reportPre values false

/-- `ReportPassed` and `ReportFailed`. -/
def reportFinal (values : TimeBased) (passing : Bool) (debouncer : TimerBasedDebouncer) :
    TimerBasedDebouncer × Option Bool :=
  let set := setEventStatus debouncer.eventStatus (verdictOf passing)
  ({ debouncer.freeze with eventStatus := set.1, elapsedMs := thresholdOf values passing, isPassing := passing },
    set.2)

def reportPassed (values : TimeBased) (debouncer : TimerBasedDebouncer) :
    TimerBasedDebouncer × Option Bool :=
  debouncer.reportFinal values true

def reportFailed (values : TimeBased) (debouncer : TimerBasedDebouncer) :
    TimerBasedDebouncer × Option Bool :=
  debouncer.reportFinal values false

def reset (debouncer : TimerBasedDebouncer) : TimerBasedDebouncer × Option Bool :=
  let set := setEventStatus debouncer.eventStatus .pending
  ({ debouncer.freeze with eventStatus := set.1, elapsedMs := 0 }, set.2)

end TimerBasedDebouncer
end AdaptiveAutosar.Diag
