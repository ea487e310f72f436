import AdaptiveAutosar.Application.PlatformHealthManagement
import AdaptiveAutosar.Phm.GlobalSupervision

/-! # From an expired supervision to the recovery action

`application::platform::PlatformHealthManagement` behind its configuration, with its global supervision and
`application::helper::LogRecoveryAction`. The threads of the supervisions and of the checkpoint communicator are
taken one after the other.
-/

namespace AdaptiveAutosar.Application
open Foundations Phm
set_option autoImplicit false

structure ExecutionErrorEvent where
  executionError : UInt32
  functionGroup : String
  deriving DecidableEq, Repr

structure LogRecoveryAction where
  offered : Bool
  deriving DecidableEq, Repr

namespace LogRecoveryAction

def make : LogRecoveryAction := ⟨false⟩

def offer (_ : LogRecoveryAction) : LogRecoveryAction := ⟨true⟩

/-- With the message that it logs. -/
def recoveryHandler (action : LogRecoveryAction) (executionError : ExecutionErrorEvent)
    (supervision : TypeOfSupervision) : Option String :=
  if action.offered ∧ executionError.executionError = 0 then
    match supervision with
    | .aliveSupervision => some ("Alive supervision is expired on " ++ executionError.functionGroup)
    | .deadlineSupervision => some ("Deadline supervision is expired on " ++ executionError.functionGroup)
    | _ => none
  else none

end LogRecoveryAction

/-- `status` is that of the global supervision. -/
structure HealthMonitoring where
  aliveSupervision : AliveSupervision
  deadlineSupervision : DeadlineSupervision
  reportDelegates : OrderedMap UInt32 ReportDelegate
  status : SupervisionStatus
  recoveryAction : LogRecoveryAction
  functionGroup : String

/-- A checkpoint arrives, the alive supervision is behind one more cycle, or time passes. -/
inductive HealthEvent where
  | checkpoint (checkpoint : UInt32)
  | aliveCycle
  | elapse (nanoseconds : ℕ)
  deriving DecidableEq, Repr

/-- What a supervision has reported, and what is logged. -/
structure HealthReport where
  verdict : Option SupervisionUpdate
  log : Option String
  deriving DecidableEq, Repr

namespace HealthMonitoring

/-- The global supervision is constructed from the alive and the deadline supervision. -/
def globalSupervision (monitoring : HealthMonitoring) : GlobalSupervision :=
  ⟨fun supervisor => if supervisor = 0 then monitoring.aliveSupervision.elementary
    else monitoring.deadlineSupervision.elementary, [0, 1], monitoring.status⟩

/-- `Main` behind its configuration. -/
def start (management : PlatformHealthManagement) (functionGroup : String) : Outcome HealthMonitoring :=
  match management.aliveSupervision, management.deadlineSupervision with
  | some aliveSupervision, some deadlineSupervision => do
    let monitoring : HealthMonitoring := ⟨aliveSupervision, deadlineSupervision, management.reportDelegates,
      .deactivated, LogRecoveryAction.make.offer, functionGroup⟩
    let global ← GlobalSupervision.make monitoring.globalSupervision.elementary [0, 1]
    .ok { monitoring with status := global.status }
  | _, _ => .error .undefined

def onGlobalStatusChanged (monitoring : HealthMonitoring) (update : SupervisionUpdate) : Option String :=
  if update.status = .expired then
    monitoring.recoveryAction.recoveryHandler ⟨0, monitoring.functionGroup⟩ update.type
  else none

/-- Behind the report of a supervision, which has called its callback or not. -/
def notified (monitoring : HealthMonitoring) (called : Bool) : Outcome (Option String × HealthMonitoring) :=
  if called then do
    let (update, global) ← monitoring.globalSupervision.onElementaryStatusChanged
    .ok (update.bind monitoring.onGlobalStatusChanged, { monitoring with status := global.status })
  else .ok (none, monitoring)

/-- The deadline supervision behind something, with the verdict that it has reported, if any. -/
def deadline (monitoring : HealthMonitoring) (reported : DeadlineSupervision × Option SupervisionStatus) :
    Outcome (HealthReport × HealthMonitoring) := do
  let elementary := monitoring.deadlineSupervision.elementary
  let called := (reported.2.bind fun status => (elementary.report status).2).isSome
  let (log, monitoring) ← { monitoring with deadlineSupervision := reported.1 }.notified called
  .ok (⟨reported.2.map (⟨·, elementary.supervisionType⟩), log⟩, monitoring)

/-- The alive supervision behind a cycle. -/
def alive (monitoring : HealthMonitoring)
    (reported : Option (SupervisionStatus × Option SupervisionStatus) × AliveSupervision) :
    Outcome (HealthReport × HealthMonitoring) := do
  let elementary := monitoring.aliveSupervision.elementary
  let called := (reported.1.bind Prod.snd).isSome
  let (log, monitoring) ← { monitoring with aliveSupervision := reported.2 }.notified called
  .ok (⟨reported.1.map fun status => ⟨status.1, elementary.supervisionType⟩, log⟩, monitoring)

def step (monitoring : HealthMonitoring) : HealthEvent → Outcome (HealthReport × HealthMonitoring)
  | .checkpoint checkpoint =>
    match monitoring.reportDelegates.find? checkpoint with
    | none => .ok (⟨none, none⟩, monitoring)
    | some .reportAliveness =>
      .ok (⟨none, none⟩, { monitoring with aliveSupervision := monitoring.aliveSupervision.reportAliveness })
    | some .reportSourceCheckpoint => monitoring.deadline monitoring.deadlineSupervision.reportSourceCheckpoint
    | some .reportTargetCheckpoint => monitoring.deadline monitoring.deadlineSupervision.reportTargetCheckpoint
  | .aliveCycle => monitoring.alive monitoring.aliveSupervision.supervise
  | .elapse nanoseconds => monitoring.deadline (monitoring.deadlineSupervision.elapse nanoseconds)

/-! ## What the supervisions report -/

/-- The elementary supervision behind a verdict, if there is one; no supervision reports that it is deactivated. -/
structure Accounts (before after : ElementarySupervision) (verdict : Option SupervisionStatus) : Prop where
  reported : after = (verdict.map fun status => (before.report status).1).getD before
  active : verdict ≠ some .deactivated

theorem deadlineWorker_accounts (supervision : DeadlineSupervision) (timeout : Bool) :
    Accounts supervision.elementary (supervision.deadlineWorker timeout).1.elementary
      (supervision.deadlineWorker timeout).2 := by
  refine ⟨rfl, ?_⟩
  unfold DeadlineSupervision.deadlineWorker DeadlineSupervision.verdict
  dsimp only
  split_ifs <;> nofun

theorem notifyOne_accounts (supervision : DeadlineSupervision) :
    Accounts supervision.elementary supervision.notifyOne.1.elementary supervision.notifyOne.2 := by
  unfold DeadlineSupervision.notifyOne
  split
  · exact deadlineWorker_accounts supervision false
  · exact ⟨rfl, nofun⟩

theorem reportSourceCheckpoint_accounts (supervision : DeadlineSupervision) :
    Accounts supervision.elementary supervision.reportSourceCheckpoint.1.elementary
      supervision.reportSourceCheckpoint.2 := by
  unfold DeadlineSupervision.reportSourceCheckpoint
  dsimp only
  split_ifs
  · exact notifyOne_accounts { supervision with timeReference := supervision.now, targetIsReached := false }
  · exact ⟨rfl, nofun⟩

theorem elapse_accounts (supervision : DeadlineSupervision) (nanoseconds : ℕ) :
    Accounts supervision.elementary (supervision.elapse nanoseconds).1.elementary
      (supervision.elapse nanoseconds).2 := by
  unfold DeadlineSupervision.elapse
  split
  · rename_i start _
    split_ifs
    · have accounts := deadlineWorker_accounts { supervision with now := start + supervision.patience } true
      dsimp only at accounts
      -- what the worker does with the nanoseconds is not unfolded
      generalize DeadlineSupervision.deadlineWorker _ true = worked at accounts ⊢
      obtain ⟨expired, status⟩ := worked
      exact accounts
    · exact ⟨rfl, nofun⟩
  · exact ⟨rfl, nofun⟩

theorem supervise_accounts (supervision : AliveSupervision) :
    Accounts supervision.elementary supervision.supervise.2.elementary (supervision.supervise.1.map Prod.fst) ∧
      supervision.supervise.1.bind Prod.snd =
        (supervision.supervise.1.map Prod.fst).bind fun status => (supervision.elementary.report status).2 := by
  unfold AliveSupervision.supervise
  split
  · exact ⟨⟨rfl, nofun⟩, rfl⟩
  · split
    · exact ⟨⟨rfl, nofun⟩, rfl⟩
    · dsimp only
      split <;> exact ⟨⟨rfl, nofun⟩, rfl⟩

/-! ## The global status -/

/-- The global status is the greater one of the two supervisions, and both are what they are called. -/
structure Sound (monitoring : HealthMonitoring) : Prop where
  status : monitoring.status =
    max monitoring.aliveSupervision.elementary.status monitoring.deadlineSupervision.elementary.status
  alive : monitoring.aliveSupervision.elementary.supervisionType = .aliveSupervision
  deadline : monitoring.deadlineSupervision.elementary.supervisionType = .deadlineSupervision
  offered : monitoring.recoveryAction.offered = true

def expiryMessage (functionGroup : String) : TypeOfSupervision → String
  | .aliveSupervision => "Alive supervision is expired on " ++ functionGroup
  | _ => "Deadline supervision is expired on " ++ functionGroup

/-- A step changes neither the function group nor the delegates, and keeps the global status in line; a
supervision that expires is logged unless one has expired before, and nothing else is. -/
structure Reports (monitoring : HealthMonitoring) (report : HealthReport) (monitoring' : HealthMonitoring) : Prop where
  sound : monitoring'.Sound
  group : monitoring'.functionGroup = monitoring.functionGroup
  delegates : monitoring'.reportDelegates = monitoring.reportDelegates
  expired : monitoring'.status = .expired ↔
    monitoring.status = .expired ∨ ∃ type, report.verdict = some ⟨.expired, type⟩
  logged : ∀ message, report.log = some message ↔ monitoring.status ≠ .expired ∧
    ∃ type, report.verdict = some ⟨.expired, type⟩ ∧ message = expiryMessage monitoring.functionGroup type

theorem onElementaryStatusChanged_pair (monitoring : HealthMonitoring) :
    let alive := monitoring.aliveSupervision.elementary
    let deadline := monitoring.deadlineSupervision.elementary
    let update := if alive.status < deadline.status then deadline.update else alive.update
    monitoring.globalSupervision.onElementaryStatusChanged =
      .ok (if update.status ≠ monitoring.status then some update else none,
        { monitoring.globalSupervision with status := update.status }) := by
  intro alive deadline update
  have updates : GlobalSupervision.getGlobalUpdate monitoring.globalSupervision.supervised = .ok update := rfl
  rw [GlobalSupervision.onElementaryStatusChanged, updates]
  show (if update.status ≠ monitoring.status then _ else _) = _
  by_cases same : update.status = monitoring.status
  · rw [if_neg (not_not.mpr same), if_neg (not_not.mpr same), same]
    rfl
  · rw [if_pos same, if_pos same]

theorem expired_max (status other : SupervisionStatus) :
    max status other = .expired ↔ status = .expired ∨ other = .expired := by
  cases status <;> cases other <;> decide

theorem reported_expired (before : SupervisionStatus) {status : SupervisionStatus} (active : status ≠ .deactivated) :
    ElementarySupervision.reported before status = .expired ↔ before = .expired ∨ status = .expired := by
  unfold ElementarySupervision.reported
  by_cases stays : before = .expired
  · rw [if_pos ⟨stays, active⟩]
    exact iff_of_true rfl (.inl stays)
  · rw [if_neg fun kept => stays kept.1]
    exact (or_iff_right stays).symm

/-- A supervision is expired behind a verdict when it was before or the verdict says so. -/
theorem Accounts.expired {before after : ElementarySupervision} {verdict : Option SupervisionStatus}
    (accounts : Accounts before after verdict) :
    after.status = .expired ↔ before.status = .expired ∨ verdict = some .expired := by
  rw [accounts.reported]
  cases verdict with
  | none => simp
  | some status =>
    have active : status ≠ .deactivated := fun reset => accounts.active (congrArg some reset)
    rw [Option.map_some, Option.getD_some, ElementarySupervision.report_eq, reported_expired _ active,
      Option.some.injEq]

theorem Accounts.type {before after : ElementarySupervision} {verdict : Option SupervisionStatus}
    (accounts : Accounts before after verdict) : after.supervisionType = before.supervisionType := by
  rw [accounts.reported]
  cases verdict with
  | none => rfl
  | some status => rw [Option.map_some, Option.getD_some, ElementarySupervision.report_eq]

/-- Without a call of its callback the supervision is as it was. -/
theorem Accounts.uncalled {before after : ElementarySupervision} {verdict : Option SupervisionStatus}
    (accounts : Accounts before after verdict)
    (uncalled : (verdict.bind fun status => (before.report status).2) = none) : after = before := by
  rw [accounts.reported]
  cases verdict with
  | none => rfl
  | some status =>
    rw [Option.bind_some, ElementarySupervision.report_eq] at uncalled
    dsimp only at uncalled
    split_ifs at uncalled with same
    rw [Option.map_some, Option.getD_some, ElementarySupervision.report_eq, same]

/-- The elementary supervision that decides the global status: the first of the greatest. -/
def dominant (monitoring : HealthMonitoring) : ElementarySupervision :=
  if monitoring.aliveSupervision.elementary.status < monitoring.deadlineSupervision.elementary.status then
    monitoring.deadlineSupervision.elementary
  else monitoring.aliveSupervision.elementary

theorem dominant_status (monitoring : HealthMonitoring) : monitoring.dominant.status =
    max monitoring.aliveSupervision.elementary.status monitoring.deadlineSupervision.elementary.status := by
  unfold dominant
  split_ifs with less
  · exact (max_eq_right less.le).symm
  · exact (max_eq_left (not_lt.mp less)).symm

/-- Whether the callback is called or not, the global status is brought to the maximum. -/
theorem notified_eq (monitoring : HealthMonitoring) {called : Bool}
    (quiet : called = false → monitoring.dominant.status = monitoring.status) :
    monitoring.notified called = .ok (if monitoring.dominant.status ≠ monitoring.status then
        monitoring.onGlobalStatusChanged monitoring.dominant.update else none,
      { monitoring with status := monitoring.dominant.status }) := by
  cases called with
  | false =>
    have same := quiet rfl
    rw [if_neg (not_not.mpr same), same]
    rfl
  | true =>
    have update : (if monitoring.aliveSupervision.elementary.status <
          monitoring.deadlineSupervision.elementary.status then
        monitoring.deadlineSupervision.elementary.update else monitoring.aliveSupervision.elementary.update) =
        monitoring.dominant.update := (apply_ite ElementarySupervision.update _ _ _).symm
    have changed := onElementaryStatusChanged_pair monitoring
    dsimp only at changed
    rw [update] at changed
    simp only [notified, if_true, changed, bind, Except.bind]
    show Except.ok ((if monitoring.dominant.status ≠ monitoring.status then _ else none : Option _).bind _, _) = _
    split_ifs <;> rfl

/-! ## Every step -/

theorem recoveryHandler_offered {action : LogRecoveryAction} (offered : action.offered = true)
    (functionGroup : String) {type : TypeOfSupervision} (known : type ≠ .logicalSupervision) :
    action.recoveryHandler ⟨0, functionGroup⟩ type = some (expiryMessage functionGroup type) := by
  cases type with
  | aliveSupervision => exact if_pos ⟨offered, rfl⟩
  | deadlineSupervision => exact if_pos ⟨offered, rfl⟩
  | logicalSupervision => exact absurd rfl known

variable {monitoring changed : HealthMonitoring}

/-- What a supervision brings about that leaves all else as it is. -/
structure Changes (monitoring changed : HealthMonitoring) (verdict : Option SupervisionStatus)
    (type : TypeOfSupervision) : Prop where
  status : changed.status = monitoring.status
  group : changed.functionGroup = monitoring.functionGroup
  delegates : changed.reportDelegates = monitoring.reportDelegates
  offered : changed.recoveryAction.offered = true
  alive : changed.aliveSupervision.elementary.supervisionType = .aliveSupervision
  deadline : changed.deadlineSupervision.elementary.supervisionType = .deadlineSupervision
  expired : changed.dominant.status = .expired ↔ monitoring.status = .expired ∨ verdict = some .expired
  reporter : monitoring.status ≠ .expired → verdict = some .expired → changed.dominant.supervisionType = type

theorem Changes.known {verdict : Option SupervisionStatus} {type : TypeOfSupervision}
    (changes : Changes monitoring changed verdict type) : changed.dominant.supervisionType ≠ .logicalSupervision := by
  unfold dominant
  split_ifs
  · rw [changes.deadline]
    nofun
  · rw [changes.alive]
    nofun

theorem Changes.reports {verdict : Option SupervisionStatus} {type : TypeOfSupervision}
    (changes : Changes monitoring changed verdict type) :
    Reports monitoring ⟨verdict.map (⟨·, type⟩), if changed.dominant.status ≠ changed.status then
      changed.onGlobalStatusChanged changed.dominant.update else none⟩
      { changed with status := changed.dominant.status } := by
  have verdict_iff : ∀ type', verdict.map (fun status => (⟨status, type⟩ : SupervisionUpdate)) =
      some ⟨.expired, type'⟩ ↔ verdict = some .expired ∧ type' = type := by
    intro type'
    rw [Option.map_eq_some_iff]
    constructor
    · rintro ⟨_, there, same⟩
      cases same
      exact ⟨there, rfl⟩
    · rintro ⟨there, rfl⟩
      exact ⟨_, there, rfl⟩
  refine ⟨⟨dominant_status changed, changes.alive, changes.deadline, changes.offered⟩, changes.group,
    changes.delegates, ?_, ?_⟩
  · dsimp only
    rw [changes.expired]
    refine or_congr_right ⟨fun there => ⟨type, (verdict_iff type).mpr ⟨there, rfl⟩⟩, ?_⟩
    rintro ⟨type', there⟩
    exact ((verdict_iff type').mp there).1
  · intro message
    dsimp only
    have handled := recoveryHandler_offered changes.offered changed.functionGroup changes.known
    constructor
    · intro logged
      split_ifs at logged with moved
      rw [onGlobalStatusChanged] at logged
      split_ifs at logged with expired
      replace expired : changed.dominant.status = .expired := expired
      have fresh : monitoring.status ≠ .expired := by
        rw [← changes.status, ← expired]
        exact moved.symm
      have judged := (changes.expired.mp expired).resolve_left fresh
      refine ⟨fresh, type, (verdict_iff type).mpr ⟨judged, rfl⟩, ?_⟩
      have message' := Option.some.inj (logged.symm.trans handled)
      rw [message', changes.group, changes.reporter fresh judged]
    · rintro ⟨fresh, type', there, rfl⟩
      obtain ⟨judged, rfl⟩ := (verdict_iff type').mp there
      have expired := changes.expired.mpr (.inr judged)
      have moved : changed.dominant.status ≠ changed.status := by
        rw [expired, changes.status]
        exact fresh.symm
      rw [if_pos moved, onGlobalStatusChanged, if_pos (by exact expired)]
      refine handled.trans ?_
      rw [changes.group, changes.reporter fresh judged]

/-- A verdict of the deadline supervision. -/
theorem Sound.deadline_reports (sound : monitoring.Sound)
    {reported : DeadlineSupervision × Option SupervisionStatus}
    (accounts : Accounts monitoring.deadlineSupervision.elementary reported.1.elementary reported.2) :
    ∃ report monitoring', monitoring.deadline reported = .ok (report, monitoring') ∧
      Reports monitoring report monitoring' := by
  let changed : HealthMonitoring := { monitoring with deadlineSupervision := reported.1 }
  have changes : Changes monitoring changed reported.2 .deadlineSupervision := by
    refine ⟨rfl, rfl, rfl, sound.offered, sound.alive, accounts.type.trans sound.deadline, ?_, ?_⟩
    · rw [dominant_status, expired_max, accounts.expired, sound.status, expired_max, or_assoc]
    · intro fresh judged
      have alive : monitoring.aliveSupervision.elementary.status ≠ .expired := fun expired =>
        fresh (by rw [sound.status, expired_max]; exact .inl expired)
      have less : monitoring.aliveSupervision.elementary.status < reported.1.elementary.status := by
        rw [accounts.expired.mpr (.inr judged)]
        revert alive
        cases monitoring.aliveSupervision.elementary.status <;> decide
      have dominates : changed.dominant = reported.1.elementary := if_pos less
      rw [dominates, accounts.type, sound.deadline]
  have quiet : (reported.2.bind fun status => (monitoring.deadlineSupervision.elementary.report status).2).isSome =
      false → changed.dominant.status = changed.status := by
    intro uncalled
    have same := accounts.uncalled (Option.isSome_eq_false_iff.mp uncalled |> Option.isNone_iff_eq_none.mp)
    rw [dominant_status, changes.status, sound.status, same]
  refine ⟨_, _, ?_, changes.reports⟩
  rw [HealthMonitoring.deadline, notified_eq changed quiet, sound.deadline]
  rfl

theorem Sound.alive_reports (sound : monitoring.Sound)
    {reported : Option (SupervisionStatus × Option SupervisionStatus) × AliveSupervision}
    (accounts : Accounts monitoring.aliveSupervision.elementary reported.2.elementary (reported.1.map Prod.fst))
    (calls : reported.1.bind Prod.snd = (reported.1.map Prod.fst).bind fun status =>
      (monitoring.aliveSupervision.elementary.report status).2) :
    ∃ report monitoring', monitoring.alive reported = .ok (report, monitoring') ∧
      Reports monitoring report monitoring' := by
  let changed : HealthMonitoring := { monitoring with aliveSupervision := reported.2 }
  have changes : Changes monitoring changed (reported.1.map Prod.fst) .aliveSupervision := by
    refine ⟨rfl, rfl, rfl, sound.offered, accounts.type.trans sound.alive, sound.deadline, ?_, ?_⟩
    · rw [dominant_status, expired_max, accounts.expired, sound.status, expired_max]
      exact or_right_comm
    · intro fresh judged
      have greatest : ¬ reported.2.elementary.status < monitoring.deadlineSupervision.elementary.status := by
        rw [accounts.expired.mpr (.inr judged)]
        cases monitoring.deadlineSupervision.elementary.status <;> decide
      have dominates : changed.dominant = reported.2.elementary := if_neg greatest
      rw [dominates, accounts.type, sound.alive]
  have quiet : (reported.1.bind Prod.snd).isSome = false → changed.dominant.status = changed.status := by
    intro uncalled
    rw [calls] at uncalled
    have same := accounts.uncalled (Option.isSome_eq_false_iff.mp uncalled |> Option.isNone_iff_eq_none.mp)
    rw [dominant_status, changes.status, sound.status, same]
  refine ⟨_, _, ?_, changes.reports⟩
  rw [HealthMonitoring.alive, notified_eq changed quiet, sound.alive, Option.map_map]
  rfl

theorem Sound.quiet (sound : monitoring.Sound) : Reports monitoring ⟨none, none⟩ monitoring :=
  ⟨sound, rfl, rfl, by simp, fun _ => iff_of_false nofun fun ⟨_, _, judged, _⟩ => by cases judged⟩

theorem Sound.stepped (sound : monitoring.Sound) (event : HealthEvent) :
    ∃ report monitoring', monitoring.step event = .ok (report, monitoring') ∧
      Reports monitoring report monitoring' := by
  cases event with
  | checkpoint checkpoint =>
    unfold step
    dsimp only
    split
    · exact ⟨_, _, rfl, sound.quiet⟩
    · have same : monitoring.aliveSupervision.reportAliveness.elementary = monitoring.aliveSupervision.elementary := by
        unfold AliveSupervision.reportAliveness
        split_ifs <;> rfl
      refine ⟨_, _, rfl, ⟨?_, by rw [same]; exact sound.alive, sound.deadline, sound.offered⟩, rfl, rfl, by simp,
        fun _ => iff_of_false nofun fun ⟨_, _, judged, _⟩ => by cases judged⟩
      rw [same]
      exact sound.status
    · exact sound.deadline_reports (reportSourceCheckpoint_accounts _)
    · exact sound.deadline_reports (notifyOne_accounts { monitoring.deadlineSupervision with targetIsReached := true })
  | aliveCycle =>
    obtain ⟨accounts, calls⟩ := supervise_accounts monitoring.aliveSupervision
    exact sound.alive_reports accounts calls
  | elapse nanoseconds => exact sound.deadline_reports (elapse_accounts _ nanoseconds)

/-! ## Whole runs -/

abbrev Trace := List (Taken HealthMonitoring HealthEvent HealthReport)

/-- A supervision expires in the step. -/
def Expires (type : TypeOfSupervision) (taken : Taken HealthMonitoring HealthEvent HealthReport) : Prop :=
  taken.output.verdict = some ⟨.expired, type⟩

theorem addReference_keeps {management management' : PlatformHealthManagement} {reference : Reference}
    {checkpoints : List UInt32} {delegate : ReportDelegate} {invalid corrupted : String}
    (added : management.addReference reference checkpoints delegate invalid corrupted = .ok management') :
    management'.aliveSupervision = management.aliveSupervision ∧
      management'.deadlineSupervision = management.deadlineSupervision := by
  unfold PlatformHealthManagement.addReference at added
  split at added
  · obtain ⟨⟨successful, after⟩, tried, added⟩ := bind_eq_ok.mp added
    obtain ⟨number, -, found⟩ := bind_eq_ok.mp tried
    split_ifs at found <;> cases found <;> cases added
    exact ⟨rfl, rfl⟩
  · cases added

/-- A configuration leaves both supervisions as they are constructed. -/
theorem configured_supervisions {manifest : HealthMonitoringManifest} {targetIsReached : Bool}
    {management : PlatformHealthManagement}
    (configured : PlatformHealthManagement.configure manifest targetIsReached = .ok management) :
    (∃ alive, management.aliveSupervision = some alive ∧ alive.elementary = .make .aliveSupervision) ∧
      ∃ deadline, management.deadlineSupervision = some deadline ∧
        deadline.elementary = .make .deadlineSupervision := by
  obtain ⟨middle, first, second⟩ := bind_eq_ok.mp configured
  unfold PlatformHealthManagement.configureAliveSupervision at first
  unfold PlatformHealthManagement.configureDeadlineSupervision at second
  split at first
  · cases first
  split at second
  · cases second
  obtain ⟨alive, madeAlive, first⟩ := bind_eq_ok.mp first
  obtain ⟨deadline, madeDeadline, second⟩ := bind_eq_ok.mp second
  obtain ⟨between, source, target⟩ := bind_eq_ok.mp second
  obtain ⟨alive_first, -⟩ := addReference_keeps first
  obtain ⟨alive_source, deadline_source⟩ := addReference_keeps source
  obtain ⟨alive_target, deadline_target⟩ := addReference_keeps target
  refine ⟨⟨alive, alive_target.trans (alive_source.trans alive_first), ?_⟩,
    deadline, deadline_target.trans deadline_source, ?_⟩
  · unfold AliveSupervision.make at madeAlive
    split_ifs at madeAlive
    cases madeAlive
    rfl
  · unfold DeadlineSupervision.make at madeDeadline
    split_ifs at madeDeadline
    cases madeDeadline
    rfl

/-- A configured management starts with both supervisions deactivated. -/
theorem start_sound {manifest : HealthMonitoringManifest} {targetIsReached : Bool}
    {management : PlatformHealthManagement} {functionGroup : String}
    (configured : PlatformHealthManagement.configure manifest targetIsReached = .ok management)
    (started : start management functionGroup = .ok monitoring) :
    monitoring.Sound ∧ monitoring.status ≠ .expired ∧ monitoring.functionGroup = functionGroup := by
  obtain ⟨⟨alive, isAlive, aliveMade⟩, deadline, isDeadline, deadlineMade⟩ := configured_supervisions configured
  simp only [start, isAlive, isDeadline] at started
  obtain ⟨global, made, started⟩ := bind_eq_ok.mp started
  cases started
  have status : global.status = .deactivated := by
    simp only [globalSupervision, GlobalSupervision.make] at made
    cases made
    simp [aliveMade, deadlineMade, ElementarySupervision.make]
    rfl
  refine ⟨⟨?_, ?_, ?_, rfl⟩, ?_, rfl⟩
  · dsimp only
    rw [status, aliveMade, deadlineMade]
    exact (max_self _).symm
  · exact congrArg ElementarySupervision.supervisionType aliveMade
  · exact congrArg ElementarySupervision.supervisionType deadlineMade
  · dsimp only
    rw [status]
    nofun

/-- What the steps of a run have reported so far decides the global status and the log. -/
structure Recovers (functionGroup : String) (trace : Trace) (monitoring : HealthMonitoring) : Prop where
  sound : monitoring.Sound
  group : monitoring.functionGroup = functionGroup
  expired : monitoring.status = .expired ↔ ∃ taken ∈ trace, ∃ type, Expires type taken

theorem Recovers.next {functionGroup : String} {trace : Trace} {monitoring' : HealthMonitoring}
    {event : HealthEvent} {report : HealthReport} (recovers : Recovers functionGroup trace monitoring)
    (reports : Reports monitoring report monitoring') :
    Recovers functionGroup (⟨monitoring, event, report⟩ :: trace) monitoring' := by
  refine ⟨reports.sound, reports.group.trans recovers.group, ?_⟩
  rw [reports.expired, recovers.expired, List.exists_mem_cons_iff, or_comm]
  rfl

theorem recovers_of_run {functionGroup : String} {trace : Trace} {init : HealthMonitoring}
    (recovers : Recovers functionGroup [] init) (run : Run step init trace monitoring) :
    Recovers functionGroup trace monitoring := by
  induction run with
  | start => exact recovers
  | next _ taken ih =>
    obtain ⟨report, monitoring', taken', reports⟩ := ih.sound.stepped _
    cases taken.symm.trans taken'
    exact ih.next reports

/-- In every run of a configured health management, a step logs a recovery exactly when a supervision expires in
it and none has before; the message names that supervision. So no run has two of them. Every event is taken, and
the global status is expired from the first expiry on. -/
theorem recovery_exact {manifest : HealthMonitoringManifest} {targetIsReached : Bool}
    {management : PlatformHealthManagement} {functionGroup : String} {init : HealthMonitoring}
    (configured : PlatformHealthManagement.configure manifest targetIsReached = .ok management)
    (started : start management functionGroup = .ok init) {trace : Trace} (run : Run step init trace monitoring) :
    (∀ newer taken older message, trace = newer ++ taken :: older → (taken.output.log = some message ↔
        (∀ earlier ∈ older, ∀ type, ¬ Expires type earlier) ∧
          ∃ type, Expires type taken ∧ message = expiryMessage functionGroup type)) ∧
      (monitoring.status = .expired ↔ ∃ taken ∈ trace, ∃ type, Expires type taken) ∧
      ∀ event, ∃ result, monitoring.step event = .ok result := by
  obtain ⟨sound, fresh, group⟩ := start_sound configured started
  have begin : Recovers functionGroup [] init := by
    refine ⟨sound, group, iff_of_false fresh ?_⟩
    rintro ⟨_, there, -⟩
    cases there
  have recovers := recovers_of_run begin run
  refine ⟨?_, recovers.expired, fun event => ?_⟩
  · rintro newer ⟨before, event, report⟩ older message rfl
    have earlier := recovers_of_run begin run.before
    obtain ⟨after, taken⟩ := run.taken_step (List.mem_append_right newer List.mem_cons_self)
    obtain ⟨report', after', taken', reports⟩ := earlier.sound.stepped event
    cases taken.symm.trans taken'
    have quiet : before.status ≠ .expired ↔ ∀ earlier ∈ older, ∀ type, ¬ Expires type earlier := by
      rw [Ne, earlier.expired]
      simp only [not_exists, not_and]
    rw [reports.logged, quiet, earlier.group]
    rfl
  · obtain ⟨report, monitoring', taken, -⟩ := recovers.sound.stepped event
    exact ⟨_, taken⟩

/-- The target does not arrive in time, and behind that the alive supervision expires, too. -/
def sampleEvents : List HealthEvent := [.checkpoint 2, .elapse 20000000, .aliveCycle, .aliveCycle]

theorem recovery_exact_sample : ∃ management init trace monitoring,
    PlatformHealthManagement.configure (PlatformHealthManagement.sampleManifest "2" "3") false = .ok management ∧
      start management "MachineFG" = .ok init ∧ Run.play step [] init sampleEvents = .ok (trace, monitoring) ∧
      trace.map (fun taken => taken.output.log) =
        [none, none, some "Deadline supervision is expired on MachineFG", none] ∧
      (∃ taken ∈ trace, ∃ type, Expires type taken) := by
  obtain ⟨management, init, trace, monitoring, configured, started, played, logs, status⟩ :
      ∃ management init trace monitoring,
        PlatformHealthManagement.configure (PlatformHealthManagement.sampleManifest "2" "3") false = .ok management ∧
          start management "MachineFG" = .ok init ∧ Run.play step [] init sampleEvents = .ok (trace, monitoring) ∧
          trace.map (fun taken => taken.output.log) =
            [none, none, some "Deadline supervision is expired on MachineFG", none] ∧
          monitoring.status = .expired :=
    ⟨_, _, _, _, rfl, rfl, rfl, by decide, rfl⟩
  exact ⟨management, init, trace, monitoring, configured, started, played, logs,
    (recovery_exact configured started (Run.of_play .start played)).2.1.mp status⟩

end HealthMonitoring
end AdaptiveAutosar.Application
