import AdaptiveAutosar.Foundations.DecimalText
import AdaptiveAutosar.Foundations.OrderedMap
import AdaptiveAutosar.Phm.AliveSupervision
import AdaptiveAutosar.Phm.DeadlineSupervision

/-! # The platform health management and its checkpoints

`application::platform::PlatformHealthManagement`: a delegate for each checkpoint that a supervision refers
to. What the ARXML reader finds is given.
-/

namespace AdaptiveAutosar.Application
open Foundations Phm
set_option autoImplicit false

/-- The `DEST` attribute and the text of a reference. -/
structure Reference where
  dest : String
  text : String
  deriving DecidableEq, Repr

structure AliveSupervisionNode where
  expectedAliveIndications : UInt32
  minMargin : UInt32
  maxMargin : UInt32
  aliveReferenceCycle : UInt32
  failedReferenceCyclesTolerance : UInt32
  checkpointRef : Reference
  deriving DecidableEq, Repr

structure DeadlineSupervisionNode where
  minDeadline : UInt32
  maxDeadline : UInt32
  sourceRef : Reference
  targetRef : Reference
  deriving DecidableEq, Repr

/-- The `CHECKPOINT-ID`s and the nodes of the two supervisions, if there are any. -/
structure HealthMonitoringManifest where
  checkpoints : List UInt32
  aliveSupervision : Option AliveSupervisionNode
  deadlineSupervision : Option DeadlineSupervisionNode
  deriving DecidableEq, Repr

inductive ReportDelegate where
  | reportAliveness
  | reportSourceCheckpoint
  | reportTargetCheckpoint
  deriving DecidableEq, Repr

structure PlatformHealthManagement where
  aliveSupervision : Option AliveSupervision
  deadlineSupervision : Option DeadlineSupervision
  reportDelegates : OrderedMap UInt32 ReportDelegate

/-- `TryGetReference`. -/
def Reference.tryGetReference (reference : Reference) (destinationType : String) : Option String :=
  if destinationType = reference.dest then some reference.text else none

namespace PlatformHealthManagement

def make : PlatformHealthManagement := ⟨none, none, .empty⟩

def tryAddReportDelegate (management : PlatformHealthManagement) (checkpointIdStr : String)
    (checkpoints : List UInt32) (delegate : ReportDelegate) : Outcome (Bool × PlatformHealthManagement) := do
  let checkpointId ← DecimalText.stoul checkpointIdStr
  if checkpointId.toUInt32 ∈ checkpoints then
    -- `insert` keeps a delegate that is there
    .ok (true, { management with
      reportDelegates := management.reportDelegates.insertNew checkpointId.toUInt32 delegate })
  else .ok (false, management)

/-- A reference of a supervision is read and its delegate is added, or there is one of two errors. -/
def addReference (management : PlatformHealthManagement) (reference : Reference) (checkpoints : List UInt32)
    (delegate : ReportDelegate) (invalid corrupted : String) : Outcome PlatformHealthManagement :=
  match reference.tryGetReference "SUPERVISION-CHECKPOINT" with
  | some checkpointIdStr => do
    let (successful, management) ← management.tryAddReportDelegate checkpointIdStr checkpoints delegate
    if successful then .ok management else .error (.thrown (.runtimeError invalid))
  | none => .error (.thrown (.runtimeError corrupted))

/-- The content of a node that is not there is no document. -/
def invalidContent : Exn := .invalidArgument "Invalid ARXML file content!"

def configureAliveSupervision (management : PlatformHealthManagement) (manifest : HealthMonitoringManifest) :
    Outcome PlatformHealthManagement :=
  match manifest.aliveSupervision with
  | none => .error (.thrown invalidContent)
  | some node => do
    let aliveSupervision ← AliveSupervision.make node.expectedAliveIndications.toUInt16 node.minMargin.toUInt16
      node.maxMargin.toUInt16 node.aliveReferenceCycle.toNat node.failedReferenceCyclesTolerance.toUInt8
    { management with aliveSupervision := some aliveSupervision }.addReference node.checkpointRef
      manifest.checkpoints .reportAliveness "Alive supervision refers to an inavlid checkpoint!"
      "Alive supervision checkpoint reference is corrupted!"

/-- `targetIsReached` is what `mTargetIsReached` is found as. -/
def configureDeadlineSupervision (management : PlatformHealthManagement) (manifest : HealthMonitoringManifest)
    (targetIsReached : Bool) : Outcome PlatformHealthManagement :=
  match manifest.deadlineSupervision with
  | none => .error (.thrown invalidContent)
  | some node => do
    let deadlineSupervision ← DeadlineSupervision.make node.minDeadline.toNat node.maxDeadline.toNat targetIsReached
    let management ← { management with deadlineSupervision := some deadlineSupervision }.addReference
      node.sourceRef manifest.checkpoints .reportSourceCheckpoint
      "Deadline supervision refers to an inavlid source checkpoint!"
      "Deadline supervision source checkpoint reference is corrupted!"
    management.addReference node.targetRef manifest.checkpoints .reportTargetCheckpoint
      "Deadline supervision refers to an inavlid target checkpoint!"
      "Deadline supervision target checkpoint reference is corrupted!"

/-- The configuration in `Main`. -/
def configure (manifest : HealthMonitoringManifest) (targetIsReached : Bool) :
    Outcome PlatformHealthManagement := do
  let management ← make.configureAliveSupervision manifest
  management.configureDeadlineSupervision manifest targetIsReached

/-- The supervision function that the delegate is bound to. -/
def call (management : PlatformHealthManagement) : ReportDelegate → PlatformHealthManagement
  | .reportAliveness =>
    { management with aliveSupervision := management.aliveSupervision.map AliveSupervision.reportAliveness }
  | .reportSourceCheckpoint =>
    { management with
      deadlineSupervision := management.deadlineSupervision.map fun supervision =>
        supervision.reportSourceCheckpoint.1 }
  | .reportTargetCheckpoint =>
    { management with
      deadlineSupervision := management.deadlineSupervision.map fun supervision =>
        supervision.reportTargetCheckpoint.1 }

/-- With the delegates that it calls. -/
def onReportCheckpoint (management : PlatformHealthManagement) (checkpoint : UInt32) :
    List ReportDelegate × PlatformHealthManagement :=
  match management.reportDelegates.find? checkpoint with
  | some delegate => ([delegate], management.call delegate)
  | none => ([], management)

/-- A checkpoint is reported over the communicator. -/
def step (management : PlatformHealthManagement) (checkpoint : UInt32) :
    Except Unit (List ReportDelegate × PlatformHealthManagement) :=
  .ok (management.onReportCheckpoint checkpoint)

/-! ## Who should be notified -/

/-- The checkpoint that a reference means. -/
def checkpointId (reference : Reference) : Option UInt32 :=
  match DecimalText.stoul reference.text with
  | .ok checkpointId => some checkpointId.toUInt32
  | .error _ => none

/-- The checkpoint that a delegate is configured on. -/
def checkpointOf (manifest : HealthMonitoringManifest) : ReportDelegate → Option UInt32
  | .reportAliveness => manifest.aliveSupervision.bind fun node => checkpointId node.checkpointRef
  | .reportSourceCheckpoint => manifest.deadlineSupervision.bind fun node => checkpointId node.sourceRef
  | .reportTargetCheckpoint => manifest.deadlineSupervision.bind fun node => checkpointId node.targetRef

/-- The supervision that a delegate notifies. -/
def supervisionOf : ReportDelegate → TypeOfSupervision
  | .reportAliveness => .aliveSupervision
  | .reportSourceCheckpoint | .reportTargetCheckpoint => .deadlineSupervision

/-- Of every kind that is configured on the checkpoint, exactly one delegate is called. -/
def OnceEach {κ : Type} [DecidableEq κ] (kind : ReportDelegate → κ) (manifest : HealthMonitoringManifest)
    (taken : Taken PlatformHealthManagement UInt32 (List ReportDelegate)) : Prop :=
  ∀ delegate, checkpointOf manifest delegate = some taken.input →
    taken.output.countP (fun called => kind called = kind delegate) = 1

/-- Every supervision that is configured on the checkpoint is notified exactly once. -/
def NotifiedStep (manifest : HealthMonitoringManifest)
    (taken : Taken PlatformHealthManagement UInt32 (List ReportDelegate)) : Prop :=
  OnceEach supervisionOf manifest taken

/-! ## What a configuration leaves -/

variable {manifest : HealthMonitoringManifest} {targetIsReached : Bool}
  {management management' : PlatformHealthManagement}

theorem addReference_ok {reference : Reference} {checkpoints : List UInt32} {delegate : ReportDelegate}
    {invalid corrupted : String}
    (added : management.addReference reference checkpoints delegate invalid corrupted = .ok management') :
    ∃ checkpoint, checkpointId reference = some checkpoint ∧
      management'.reportDelegates = management.reportDelegates.insertNew checkpoint delegate := by
  unfold addReference Reference.tryGetReference at added
  split_ifs at added with destination
  obtain ⟨result, tried, done⟩ := bind_eq_ok.mp added
  obtain ⟨number, read, found⟩ := bind_eq_ok.mp tried
  refine ⟨number.toUInt32, ?_, ?_⟩
  · unfold checkpointId
    rw [read]
  · split_ifs at found with known
    · cases found
      cases done
      rfl
    · cases found
      cases done

/-- Every reference means a checkpoint, and of the delegates that are configured on a checkpoint one is there. -/
structure Registered (manifest : HealthMonitoringManifest) (management : PlatformHealthManagement) : Prop where
  every : ∀ delegate, (checkpointOf manifest delegate).isSome
  only : ∀ checkpoint delegate, management.reportDelegates.find? checkpoint = some delegate →
    checkpointOf manifest delegate = some checkpoint
  some_there : ∀ checkpoint delegate, checkpointOf manifest delegate = some checkpoint →
    (management.reportDelegates.find? checkpoint).isSome

theorem configure_registered (configured : configure manifest targetIsReached = .ok management) :
    Registered manifest management := by
  obtain ⟨checkpoints, aliveSupervision, deadlineSupervision⟩ := manifest
  obtain ⟨middle, first, second⟩ := bind_eq_ok.mp configured
  unfold configureAliveSupervision at first
  unfold configureDeadlineSupervision at second
  cases aliveSupervision with
  | none => cases first
  | some aliveNode =>
    cases deadlineSupervision with
    | none => cases second
    | some deadlineNode =>
      obtain ⟨aliveSupervision, -, added⟩ := bind_eq_ok.mp first
      obtain ⟨deadlineSupervision, -, rest⟩ := bind_eq_ok.mp second
      obtain ⟨half, added', added''⟩ := bind_eq_ok.mp rest
      obtain ⟨alive, isAlive, delegates⟩ := addReference_ok added
      obtain ⟨source, isSource, delegates'⟩ := addReference_ok added'
      obtain ⟨target, isTarget, delegates''⟩ := addReference_ok added''
      have found : ∀ checkpoint, management.reportDelegates.find? checkpoint =
          if checkpoint = alive then some .reportAliveness
          else if checkpoint = source then some .reportSourceCheckpoint
          else if checkpoint = target then some .reportTargetCheckpoint else none := by
        intro checkpoint
        have none_yet : make.reportDelegates.find? checkpoint = none := rfl
        rw [delegates'', delegates', OrderedMap.find?_insertNew, OrderedMap.find?_insertNew, delegates,
          OrderedMap.find?_insertNew, none_yet]
        split_ifs <;> rfl
      refine ⟨?_, ?_, ?_⟩
      · intro delegate
        cases delegate with
        | reportAliveness => exact Option.isSome_of_eq_some isAlive
        | reportSourceCheckpoint => exact Option.isSome_of_eq_some isSource
        | reportTargetCheckpoint => exact Option.isSome_of_eq_some isTarget
      · intro checkpoint delegate there
        rw [found] at there
        split_ifs at there with here here here
        · cases there
          rw [here]
          exact isAlive
        · cases there
          rw [here]
          exact isSource
        · cases there
          rw [here]
          exact isTarget
      · intro checkpoint delegate configured_on
        rw [found]
        cases delegate with
        | reportAliveness =>
          rw [if_pos (Option.some.inj (configured_on.symm.trans isAlive))]
          rfl
        | reportSourceCheckpoint =>
          have here : checkpoint = source := Option.some.inj (configured_on.symm.trans isSource)
          split_ifs <;> rfl
        | reportTargetCheckpoint =>
          have here : checkpoint = target := Option.some.inj (configured_on.symm.trans isTarget)
          split_ifs <;> rfl

/-! ## The reports -/

theorem call_reportDelegates (management : PlatformHealthManagement) (delegate : ReportDelegate) :
    (management.call delegate).reportDelegates = management.reportDelegates := by
  cases delegate with
  | reportAliveness => rfl
  | reportSourceCheckpoint => rfl
  | reportTargetCheckpoint => rfl

theorem onReportCheckpoint_eq (management : PlatformHealthManagement) (checkpoint : UInt32) :
    (management.onReportCheckpoint checkpoint).1 = (management.reportDelegates.find? checkpoint).toList ∧
      (management.onReportCheckpoint checkpoint).2.reportDelegates = management.reportDelegates := by
  unfold onReportCheckpoint
  split
  · rename_i delegate found
    rw [found]
    exact ⟨rfl, call_reportDelegates management delegate⟩
  · rename_i missing
    rw [missing]
    exact ⟨rfl, rfl⟩

/-- Every report calls the delegate that the configuration left for it. -/
theorem run_calls {init last : PlatformHealthManagement}
    {trace : List (Taken PlatformHealthManagement UInt32 (List ReportDelegate))} (run : Run step init trace last) :
    last.reportDelegates = init.reportDelegates ∧
      ∀ taken ∈ trace, taken.output = (init.reportDelegates.find? taken.input).toList := by
  let kept (management : PlatformHealthManagement) : Prop := management.reportDelegates = init.reportDelegates
  have first : kept init := rfl
  apply Run.reached_all first ?_ run
  intro before checkpoint output after same taken
  obtain ⟨calls, keeps⟩ := onReportCheckpoint_eq before checkpoint
  have result : before.onReportCheckpoint checkpoint = (output, after) := Except.ok.inj taken
  rw [result] at calls keeps
  refine ⟨keeps.trans same, ?_⟩
  rw [← same]
  exact calls

/-- One delegate of each kind is called exactly when all delegates on the checkpoint are of one kind. -/
theorem onceEach_iff {κ : Type} [DecidableEq κ] (kind : ReportDelegate → κ)
    (registered : Registered manifest management)
    {taken : Taken PlatformHealthManagement UInt32 (List ReportDelegate)}
    (calls : taken.output = (management.reportDelegates.find? taken.input).toList) :
    OnceEach kind manifest taken ↔ ∀ delegate other, checkpointOf manifest delegate = some taken.input →
      checkpointOf manifest other = some taken.input → kind delegate = kind other := by
  unfold OnceEach
  rw [calls]
  cases found : management.reportDelegates.find? taken.input with
  | none =>
    have nobody : ∀ delegate, checkpointOf manifest delegate ≠ some taken.input := by
      intro delegate here
      have there := registered.some_there taken.input delegate here
      rw [found] at there
      cases there
    exact iff_of_true (fun delegate here => absurd here (nobody delegate))
      (fun delegate _ here => absurd here (nobody delegate))
  | some called =>
    have isCalled := registered.only taken.input called found
    have one : ∀ delegate, [called].countP (fun called => decide (kind called = kind delegate)) = 1 ↔
        kind called = kind delegate := by
      intro delegate
      by_cases same : kind called = kind delegate
      · simp [same]
      · simp [same]
    constructor
    · intro once delegate other here there
      exact ((one delegate).mp (once delegate here)).symm.trans ((one other).mp (once other there))
    · intro same delegate here
      exact (one delegate).mpr (same called delegate isCalled here)

/-- In all runs one delegate of each kind is called, exactly when all delegates on any checkpoint are of one
kind. -/
theorem onceEach_always_iff {κ : Type} [DecidableEq κ] (kind : ReportDelegate → κ)
    (registered : Registered manifest management) :
    (∀ trace last, Run step management trace last → ∀ taken ∈ trace, OnceEach kind manifest taken) ↔
      ∀ delegate other, checkpointOf manifest delegate = checkpointOf manifest other →
        kind delegate = kind other := by
  constructor
  · intro always delegate other shared
    obtain ⟨checkpoint, here⟩ := Option.isSome_iff_exists.mp (registered.every delegate)
    have report : Run step management [⟨management, checkpoint, (management.onReportCheckpoint checkpoint).1⟩]
        (management.onReportCheckpoint checkpoint).2 := Run.next .start rfl
    have once := always _ _ report _ List.mem_cons_self
    exact (onceEach_iff kind registered (onReportCheckpoint_eq management checkpoint).1).mp once delegate other here
      (shared.symm.trans here)
  · intro separate trace last run taken there
    apply (onceEach_iff kind registered ((run_calls run).2 taken there)).mpr
    intro delegate other here here'
    exact separate delegate other (here.trans here'.symm)

/-- For every configuration that completes: in all runs every supervision on a reported checkpoint is notified
exactly once, exactly when no two supervisions are configured on one checkpoint; and every delegate on it is
called exactly once, exactly when no two delegates are. -/
theorem notified_iff (configured : configure manifest targetIsReached = .ok management) :
    ((∀ trace last, Run step management trace last → ∀ taken ∈ trace, NotifiedStep manifest taken) ↔
      ∀ delegate other, checkpointOf manifest delegate = checkpointOf manifest other →
        supervisionOf delegate = supervisionOf other) ∧
    ((∀ trace last, Run step management trace last → ∀ taken ∈ trace, OnceEach id manifest taken) ↔
      Function.Injective (checkpointOf manifest)) := by
  have registered := configure_registered configured
  exact ⟨onceEach_always_iff supervisionOf registered, onceEach_always_iff id registered⟩

/-- The alive supervision is on the checkpoint 1, the deadline supervision on two others. -/
def sampleManifest (source target : String) : HealthMonitoringManifest :=
  ⟨[1, 2, 3], some ⟨5, 1, 1, 100, 2, ⟨"SUPERVISION-CHECKPOINT", "1"⟩⟩,
    some ⟨10, 20, ⟨"SUPERVISION-CHECKPOINT", source⟩, ⟨"SUPERVISION-CHECKPOINT", target⟩⟩⟩

theorem notified_iff_sample : ∃ management,
    configure (sampleManifest "2" "3") false = .ok management ∧
      ∀ trace last, Run step management trace last → ∀ taken ∈ trace, NotifiedStep (sampleManifest "2" "3") taken := by
  obtain ⟨management, configured⟩ : ∃ management, configure (sampleManifest "2" "3") false = .ok management :=
    ⟨_, rfl⟩
  refine ⟨management, configured, (notified_iff configured).1.mpr ?_⟩
  intro delegate other
  cases delegate <;> cases other <;> decide

/-- The alive supervision and the source of the deadline supervision share a checkpoint: the deadline
supervision never hears of it. -/
theorem not_always_notified : ∃ management trace last,
    configure (sampleManifest "1" "3") false = .ok management ∧
      Run.play step [] management [1] = .ok (trace, last) ∧
      trace.map Taken.output = [[.reportAliveness]] ∧
      ¬ ∀ taken ∈ trace, NotifiedStep (sampleManifest "1" "3") taken := by
  refine ⟨_, _, _, rfl, rfl, rfl, fun all => ?_⟩
  have notified := all _ List.mem_cons_self .reportSourceCheckpoint (by decide)
  revert notified
  decide

end PlatformHealthManagement
end AdaptiveAutosar.Application
