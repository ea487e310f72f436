import Mathlib.Data.List.Nodup
import AdaptiveAutosar.Application.ProcessManager
import AdaptiveAutosar.Exec.StateProtocol

/-! # The execution management

`application::platform::ExecutionManagement`: the processes that `Main` and the changes of the machine state
spawn. The process descriptors and the declared states are those of the manifest.
-/

namespace AdaptiveAutosar.Application
open Foundations Exec
set_option autoImplicit false

structure ProcessDescriptor where
  shortName : Bytes
  executablePath : Bytes
  arguments : List Bytes
  fifoPath : Bytes
  isBootstrap : Bool
  activatingStates : List (Bytes × Bytes)
  deriving DecidableEq, Repr

/-- `bootstrapped`: `Main` has spawned the bootstrap processes. -/
structure ExecutionManagement where
  processDescriptors : List ProcessDescriptor
  stateServer : StateServer
  processManager : ProcessManager
  bootstrapped : Bool

/-- With what the calls of `fork` give. -/
inductive ExecutionManagementEvent where
  | bootstrap (forks : List (Option ℕ))
  /-- A `SetState` request. `locks`: the lock of the states is free when its callback reads them. -/
  | setState (rpcRequestPayload : Bytes) (locks : Bool) (forks : List (Option ℕ))
  | exit (pid : ℕ) (exitStatus : Option UInt8)
  | reapFinished

namespace ExecutionManagement

/-- `"MachineFG"`. -/
def cMachineFunctionGroup : Bytes := [77, 97, 99, 104, 105, 110, 101, 70, 71]

/-- The callback `onStateChange` of the state server. -/
def onStateChangeCallback : ℕ := 0

/-- `Main` up to the loop over the bootstrap processes. -/
def start (processDescriptors : List ProcessDescriptor) (functionGroupStates : List (Bytes × Bytes))
    (initialStates : OrderedMap Bytes Bytes) : Outcome ExecutionManagement := do
  let stateServer ← StateServer.make functionGroupStates initialStates
  let stateServer ← stateServer.setNotifier cMachineFunctionGroup onStateChangeCallback
  .ok ⟨processDescriptors, stateServer, .make, false⟩

def argvOf (descriptor : ProcessDescriptor) : List Bytes :=
  descriptor.executablePath :: descriptor.arguments ++
    if descriptor.fifoPath = [] then [] else [descriptor.fifoPath]

/-- The loops over the process descriptors, behind their conditions. -/
def spawnAll : List (ProcessDescriptor × ℕ) → List (Option ℕ) → ProcessManager → Except Unit ProcessManager
  | [], [], manager => .ok manager
  | (descriptor, index) :: rest, fork :: forks, manager =>
    match manager.spawn index descriptor.executablePath (argvOf descriptor) fork with
    | .ok manager' => spawnAll rest forks manager'
    | .error e => .error e
  | _, _, _ => .error ()

/-- The descriptors, with their indices, that `Main` spawns. -/
def bootstraps (management : ExecutionManagement) : List (ProcessDescriptor × ℕ) :=
  management.processDescriptors.zipIdx.filter fun entry => entry.1.isBootstrap

/-- The descriptors that are activated by a state of the machine. -/
def activated (management : ExecutionManagement) (currentState : Bytes) : List (ProcessDescriptor × ℕ) :=
  management.processDescriptors.zipIdx.filter fun entry =>
    !entry.1.isBootstrap && entry.1.activatingStates.contains (cMachineFunctionGroup, currentState)

/-- What `onStateChange` spawns. -/
def onStateChange (management : ExecutionManagement) (locks : Bool) : List (ProcessDescriptor × ℕ) :=
  match management.stateServer.tryGetState locks cMachineFunctionGroup with
  -- whether one of them is running is not looked at
  | some currentState => management.activated currentState
  | none => []

/-- The execution management behind a `SetState` request, before its callback. -/
def answered (management : ExecutionManagement) (rpcRequestPayload : Bytes) : ExecutionManagement :=
  { management with
    stateServer := (StateServer.handleSetState true rpcRequestPayload management.stateServer).2 }

/-- What a `SetState` request spawns: the callback is called when the state of the machine has changed. -/
def spawnedBy (management : ExecutionManagement) (rpcRequestPayload : Bytes) (locks : Bool) :
    List (ProcessDescriptor × ℕ) :=
  let answered := management.answered rpcRequestPayload
  if onStateChangeCallback ∈ answered.stateServer.fired.drop management.stateServer.fired.length then
    answered.onStateChange locks
  else []

/-- An event gives nothing; a step is only taken where `fork` gives process ids that are free. -/
def step (management : ExecutionManagement) :
    ExecutionManagementEvent → Except Unit (Unit × ExecutionManagement)
  | .bootstrap forks =>
    if management.bootstrapped then .error ()
    else do
      let processManager ← spawnAll management.bootstraps forks management.processManager
      .ok ((), { management with processManager, bootstrapped := true })
  | .setState rpcRequestPayload locks forks => do
    let processManager ← spawnAll (management.spawnedBy rpcRequestPayload locks) forks management.processManager
    .ok ((), { management.answered rpcRequestPayload with processManager })
  | .exit pid exitStatus => do
    let processManager ← management.processManager.exit pid exitStatus
    .ok ((), { management with processManager })
  | .reapFinished => .ok ((), { management with processManager := management.processManager.reapFinished.2 })

/-! ## What should hold -/

/-- No two live children are of one process descriptor, and all are in the table. -/
def OneInstance (management : ExecutionManagement) : Prop :=
  (management.processManager.live.map Child.descriptor).Nodup ∧ management.processManager.Listed

/-- The descriptors whose call of `fork` gives a child. -/
def forked : List (ProcessDescriptor × ℕ) → List (Option ℕ) → List ℕ
  | (_, index) :: rest, fork :: forks => (fork.map fun _ => index).toList ++ forked rest forks
  | _, _ => []

/-- A request that changes the state of the machine spawns no process that is running. -/
def SpawnsIdle (management : ExecutionManagement) (event : ExecutionManagementEvent) : Prop :=
  match event with
  | .setState rpcRequestPayload locks forks =>
    ∀ index ∈ forked (management.spawnedBy rpcRequestPayload locks) forks,
      index ∉ management.processManager.live.map Child.descriptor
  | _ => True

instance (management : ExecutionManagement) (event : ExecutionManagementEvent) :
    Decidable (management.SpawnsIdle event) :=
  match event with
  | .setState _ _ _ => List.decidableBAll _ _
  | .bootstrap _ => .isTrue trivial
  | .exit _ _ => .isTrue trivial
  | .reapFinished => .isTrue trivial

/-! ## The loops -/

variable {management management' : ExecutionManagement} {manager manager' : ProcessManager}
  {entries : List (ProcessDescriptor × ℕ)} {forks : List (Option ℕ)}

theorem forked_sublist (entries : List (ProcessDescriptor × ℕ)) (forks : List (Option ℕ)) :
    (forked entries forks).Sublist (entries.map Prod.snd) := by
  induction entries generalizing forks with
  | nil => exact List.Sublist.refl _
  | cons entry rest ih =>
    cases forks with
    | nil => exact List.nil_sublist _
    | cons fork forks =>
      cases fork with
      | none => exact (ih forks).cons _
      | some pid => exact (ih forks).cons_cons _

/-- Every fork adds a child of its descriptor. -/
theorem spawnAll_ok (sound : manager.Sound) (spawned : spawnAll entries forks manager = .ok manager') :
    manager'.Sound ∧ manager'.live.map Child.descriptor =
      (forked entries forks).reverse ++ manager.live.map Child.descriptor := by
  induction entries generalizing forks manager with
  | nil =>
    cases forks with
    | nil =>
      cases spawned
      exact ⟨sound, rfl⟩
    | cons fork forks => cases spawned
  | cons entry rest ih =>
    cases forks with
    | nil => cases spawned
    | cons fork forks =>
      unfold spawnAll at spawned
      split at spawned
      · rename_i next first
        obtain ⟨kept, live⟩ := sound.spawn first
        obtain ⟨sound', all⟩ := ih kept spawned
        refine ⟨sound', ?_⟩
        rw [all, live, forked]
        cases fork with
        | none => simp
        | some pid => simp
      · cases spawned

/-- The loop leaves one child of each descriptor exactly when it spawns none that is running. -/
theorem nodup_spawnAll (sound : manager.Sound) (spawned : spawnAll entries forks manager = .ok manager')
    (one : (manager.live.map Child.descriptor).Nodup) (distinct : (entries.map Prod.snd).Nodup) :
    (manager'.live.map Child.descriptor).Nodup ↔
      ∀ index ∈ forked entries forks, index ∉ manager.live.map Child.descriptor := by
  rw [(spawnAll_ok sound spawned).2, List.nodup_append]
  constructor
  · intro apart index there running
    exact apart.2.2 index (List.mem_reverse.mpr there) index running rfl
  · intro idle
    refine ⟨List.nodup_reverse.mpr (distinct.sublist (forked_sublist entries forks)), one, ?_⟩
    intro index there other running same
    exact idle index (List.mem_reverse.mp there) (same ▸ running)

theorem selected_nodup (descriptors : List ProcessDescriptor) (selects : ProcessDescriptor × ℕ → Bool) :
    ((descriptors.zipIdx.filter selects).map Prod.snd).Nodup := by
  apply List.Nodup.sublist ((List.filter_sublist).map Prod.snd)
  rw [List.zipIdx_map_snd]
  exact List.nodup_range'

theorem mem_selected {descriptors : List ProcessDescriptor} {selects : ProcessDescriptor × ℕ → Bool} {index : ℕ}
    (there : index ∈ forked (descriptors.zipIdx.filter selects) forks) :
    ∃ descriptor, descriptors[index]? = some descriptor ∧ selects (descriptor, index) = true := by
  obtain ⟨entry, isEntry, rfl⟩ := List.mem_map.mp ((forked_sublist _ _).subset there)
  obtain ⟨isIndex, selected⟩ := List.mem_filter.mp isEntry
  exact ⟨entry.1, List.mem_zipIdx_iff_getElem?.mp isIndex, selected⟩

/-- A request spawns a selection of the descriptors that are no bootstrap processes. -/
theorem spawnedBy_eq (management : ExecutionManagement) (rpcRequestPayload : Bytes) (locks : Bool) :
    ∃ selects, management.spawnedBy rpcRequestPayload locks =
        management.processDescriptors.zipIdx.filter selects ∧
      ∀ entry, selects entry = true → entry.1.isBootstrap = false := by
  have nothing : ∃ selects : ProcessDescriptor × ℕ → Bool,
      [] = management.processDescriptors.zipIdx.filter selects ∧
        ∀ entry, selects entry = true → entry.1.isBootstrap = false :=
    ⟨fun _ => false, (List.filter_false _).symm, fun _ selected => by cases selected⟩
  unfold spawnedBy onStateChange
  dsimp only
  split_ifs
  · split
    · refine ⟨_, rfl, fun entry selected => ?_⟩
      rw [Bool.and_eq_true, Bool.not_eq_true'] at selected
      exact selected.1
    · exact nothing
  · exact nothing

/-! ## What holds before every step -/

/-- As long as no request spawns a process that is running. -/
structure Sound (management : ExecutionManagement) : Prop where
  manager : management.processManager.Sound
  one : (management.processManager.live.map Child.descriptor).Nodup
  waiting : management.bootstrapped = false →
    ∀ index ∈ management.processManager.live.map Child.descriptor, ∀ descriptor,
      management.processDescriptors[index]? = some descriptor → descriptor.isBootstrap = false

theorem Sound.oneInstance (sound : management.Sound) : management.OneInstance := ⟨sound.one, sound.manager.listed⟩

theorem start_sound {processDescriptors : List ProcessDescriptor} {functionGroupStates : List (Bytes × Bytes)}
    {initialStates : OrderedMap Bytes Bytes}
    (started : start processDescriptors functionGroupStates initialStates = .ok management) : management.Sound := by
  obtain ⟨made, -, rest⟩ := bind_eq_ok.mp started
  obtain ⟨attached, -, done⟩ := bind_eq_ok.mp rest
  cases done
  exact ⟨ProcessManager.make_sound, List.nodup_nil, fun _ _ there => by cases there⟩

/-- The bootstrap processes are spawned once, beside processes that are none. -/
theorem Sound.bootstrap (sound : management.Sound)
    (taken : management.step (.bootstrap forks) = .ok ((), management')) : management'.Sound := by
  unfold step at taken
  dsimp only at taken
  split_ifs at taken with already
  obtain ⟨processManager, spawned, done⟩ := bind_eq_ok.mp taken
  cases done
  have idle : ∀ index ∈ forked management.bootstraps forks,
      index ∉ management.processManager.live.map Child.descriptor := by
    intro index there running
    obtain ⟨descriptor, isDescriptor, isBootstrap⟩ := mem_selected there
    have other := sound.waiting (Bool.eq_false_iff.mpr already) index running descriptor isDescriptor
    cases isBootstrap.symm.trans other
  exact ⟨(spawnAll_ok sound.manager spawned).1,
    (nodup_spawnAll sound.manager spawned sound.one (selected_nodup _ _)).mpr idle,
    fun unstarted => by cases unstarted⟩

theorem Sound.setState (sound : management.Sound) {rpcRequestPayload : Bytes} {locks : Bool}
    (taken : management.step (.setState rpcRequestPayload locks forks) = .ok ((), management')) :
    (management.SpawnsIdle (.setState rpcRequestPayload locks forks) → management'.Sound) ∧
      (management'.OneInstance → management.SpawnsIdle (.setState rpcRequestPayload locks forks)) := by
  unfold step at taken
  obtain ⟨processManager, spawned, done⟩ := bind_eq_ok.mp taken
  cases done
  obtain ⟨selects, selected, applications⟩ := spawnedBy_eq management rpcRequestPayload locks
  have distinct : ((management.spawnedBy rpcRequestPayload locks).map Prod.snd).Nodup := by
    rw [selected]
    exact selected_nodup _ _
  have one := nodup_spawnAll sound.manager spawned sound.one distinct
  obtain ⟨kept, live⟩ := spawnAll_ok sound.manager spawned
  refine ⟨fun idle => ⟨kept, one.mpr idle, ?_⟩, fun instances => one.mp instances.1⟩
  intro unstarted index running descriptor isDescriptor
  dsimp only at running
  rw [live, List.mem_append] at running
  rcases running with new | old
  · rw [selected] at new
    obtain ⟨descriptor', isDescriptor', application⟩ := mem_selected (List.mem_reverse.mp new)
    cases isDescriptor.symm.trans isDescriptor'
    exact applications _ application
  · exact sound.waiting unstarted index old descriptor isDescriptor

theorem Sound.exit (sound : management.Sound) {pid : ℕ} {exitStatus : Option UInt8}
    (taken : management.step (.exit pid exitStatus) = .ok ((), management')) : management'.Sound := by
  unfold step at taken
  obtain ⟨processManager, exits, done⟩ := bind_eq_ok.mp taken
  cases done
  obtain ⟨kept, live⟩ := sound.manager.exit exits
  have fewer : (processManager.live.map Child.descriptor).Sublist
      (management.processManager.live.map Child.descriptor) := by
    rw [live]
    exact List.filter_sublist.map Child.descriptor
  exact ⟨kept, sound.one.sublist fewer,
    fun unstarted index running => sound.waiting unstarted index (fewer.subset running)⟩

theorem Sound.stepped (sound : management.Sound) {event : ExecutionManagementEvent}
    (taken : management.step event = .ok ((), management')) :
    (management.SpawnsIdle event → management'.Sound) ∧
      (¬ management.SpawnsIdle event → ¬ management'.OneInstance) := by
  cases event with
  | bootstrap forks => exact ⟨fun _ => sound.bootstrap taken, fun other => absurd trivial other⟩
  | setState rpcRequestPayload locks forks =>
    obtain ⟨keeps, breaks⟩ := sound.setState taken
    exact ⟨keeps, fun other instances => other (breaks instances)⟩
  | exit pid exitStatus => exact ⟨fun _ => sound.exit taken, fun other => absurd trivial other⟩
  | reapFinished =>
    cases taken
    exact ⟨fun _ => ⟨sound.manager.reapFinished, sound.one, sound.waiting⟩, fun other => absurd trivial other⟩

theorem manager_stepped (sound : management.processManager.Sound) {event : ExecutionManagementEvent}
    (taken : management.step event = .ok ((), management')) : management'.processManager.Sound := by
  unfold step at taken
  cases event with
  | bootstrap forks =>
    dsimp only at taken
    split_ifs at taken
    obtain ⟨processManager, spawned, done⟩ := bind_eq_ok.mp taken
    cases done
    exact (spawnAll_ok sound spawned).1
  | setState rpcRequestPayload locks forks =>
    obtain ⟨processManager, spawned, done⟩ := bind_eq_ok.mp taken
    cases done
    exact (spawnAll_ok sound spawned).1
  | exit pid exitStatus =>
    obtain ⟨processManager, exits, done⟩ := bind_eq_ok.mp taken
    cases done
    exact (sound.exit exits).1
  | reapFinished =>
    cases taken
    exact sound.reapFinished

/-- For every manifest and every run of requests, exits and reaping: the table has every live child; and there
is one of each process descriptor at most, exactly when no change of the machine state spawns a process that is
running. -/
theorem oneInstance_iff {processDescriptors : List ProcessDescriptor} {functionGroupStates : List (Bytes × Bytes)}
    {initialStates : OrderedMap Bytes Bytes} {init : ExecutionManagement}
    (started : start processDescriptors functionGroupStates initialStates = .ok init)
    {trace : List (Taken ExecutionManagement ExecutionManagementEvent Unit)}
    (run : Run step init trace management) :
    management.processManager.Listed ∧
      (Run.Throughout OneInstance trace management ↔ Run.Every SpawnsIdle trace) := by
  have sound := start_sound started
  constructor
  · let tracked (management : ExecutionManagement) : Prop := management.processManager.Sound
    have first : tracked init := sound.manager
    have last : tracked management := by
      apply Run.reached first ?_ run
      intro management event output management' kept taken
      exact manager_stepped kept taken
    exact last.listed
  · have implies : ∀ management : ExecutionManagement, management.Sound → management.OneInstance :=
      fun _ sound => sound.oneInstance
    apply Run.throughout_iff_every implies sound ?_ ?_ run
    · intro management event output management' sound idle taken
      exact (sound.stepped taken).1 idle
    · intro management event output management' sound other taken
      exact (sound.stepped taken).2 other

/-! ## Samples -/

/-- The machine starts up, drives or is off; one process is for the start-up and for driving. -/
def sampleStates : List (Bytes × Bytes) :=
  [(cMachineFunctionGroup, [79]), (cMachineFunctionGroup, [83]), (cMachineFunctionGroup, [68])]

def sampleDescriptors : List ProcessDescriptor :=
  [⟨[98], [47, 98], [], [], true, []⟩,
    ⟨[97], [47, 97], [[45]], [47, 102], false, [(cMachineFunctionGroup, [83]), (cMachineFunctionGroup, [68])]⟩]

/-- The machine goes to a state, with what the calls of `fork` give. -/
def goes (state : Bytes) (forks : List (Option ℕ)) : ExecutionManagementEvent :=
  .setState (FunctionGroupState.serialize ⟨cMachineFunctionGroup, state⟩ []) true forks

/-- The process is spawned again after it has ended. -/
theorem oneInstance_iff_sample : ∃ init trace management,
    start sampleDescriptors sampleStates (.ofList [(cMachineFunctionGroup, [79])]) = .ok init ∧
      Run.play step [] init [.bootstrap [some 10], goes [83] [some 11], .exit 11 (some 0), .reapFinished,
        goes [68] [some 12]] = .ok (trace, management) ∧
      Run.Throughout OneInstance trace management ∧
      management.processManager.live.map Child.pid = [12, 10] := by
  obtain ⟨init, trace, management, started, played, every, live⟩ : ∃ init trace management,
      start sampleDescriptors sampleStates (.ofList [(cMachineFunctionGroup, [79])]) = .ok init ∧
        Run.play step [] init [.bootstrap [some 10], goes [83] [some 11], .exit 11 (some 0), .reapFinished,
          goes [68] [some 12]] = .ok (trace, management) ∧
        Run.Every SpawnsIdle trace ∧ management.processManager.live.map Child.pid = [12, 10] :=
    ⟨_, _, _, rfl, rfl, by decide, by decide⟩
  exact ⟨init, trace, management, started, played,
    (oneInstance_iff started (Run.of_play .start played)).2.mpr every, live⟩

/-- The machine goes from one activating state to another: a second instance is spawned beside the first. -/
theorem not_always_oneInstance : ∃ init trace management,
    start sampleDescriptors sampleStates (.ofList [(cMachineFunctionGroup, [79])]) = .ok init ∧
      Run.play step [] init [.bootstrap [some 10], goes [83] [some 11], goes [68] [some 12]] =
        .ok (trace, management) ∧
      management.processManager.live.map Child.descriptor = [1, 1, 0] ∧
      ¬ Run.Throughout OneInstance trace management := by
  refine ⟨_, _, _, rfl, rfl, by decide, fun always => ?_⟩
  have one := always.1.1
  revert one
  decide

end ExecutionManagement
end AdaptiveAutosar.Application
