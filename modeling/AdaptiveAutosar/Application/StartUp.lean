import AdaptiveAutosar.Application.StateManagement

/-! # The start-up of the machine

The execution management and the state management read one manifest in two processes. The request that the state
management sends is one that the execution management serves, in whatever state it has come to.
-/

namespace AdaptiveAutosar.Application
open Foundations Exec Arxml AdaptiveAutosar.Per AdaptiveAutosar.Ucm
set_option autoImplicit false

namespace ExecutionManagement

/-- The state server of a booted execution management after any steps. -/
structure Serving (functionGroupStates : List (Bytes × Bytes)) (processDescriptors : List ProcessDescriptor)
    (management : ExecutionManagement) : Prop where
  server : management.stateServer.Sound functionGroupStates
  descriptors : management.processDescriptors = processDescriptors
  notifies : management.stateServer.notifiers.find? cMachineFunctionGroup =
    some ⟨cMachineFunctionGroup, onStateChangeCallback⟩

variable {library : Pugixml} {configFilepath : Bytes} {files : Files} {growth : Growth}
  {functionGroupStates : List (Bytes × Bytes)} {processDescriptors : List ProcessDescriptor}
  {management management' init : ExecutionManagement}

/-- What `start` accepts is served from the first step on. -/
theorem start_serving {initialStates : OrderedMap Bytes Bytes}
    (started : start processDescriptors functionGroupStates initialStates = .ok init) :
    init.Serving functionGroupStates processDescriptors := by
  obtain ⟨made, makes, rest⟩ := bind_eq_ok.mp started
  obtain ⟨attached, attaches, done⟩ := bind_eq_ok.mp rest
  cases done
  obtain ⟨sound, -⟩ := StateServer.make_sound makes
  have stepped : made.step (.setNotifier cMachineFunctionGroup onStateChangeCallback) = .ok (.attached, attached) := by
    unfold StateServer.step
    dsimp only
    rw [attaches]
  obtain ⟨kept, attached_eq⟩ := sound.setNotifier stepped
  have isAttached : attached = _ := attached_eq
  refine ⟨kept, rfl, ?_⟩
  rw [isAttached]
  exact (OrderedMap.find?_insert _ _ _ _).trans (if_pos rfl)

/-- A request leaves the notifiers as they are. -/
theorem handleSetState_notifiers {server : StateServer} (sound : server.Sound functionGroupStates)
    (rpcRequestPayload : Bytes) :
    (StateServer.handleSetState true rpcRequestPayload server).2.notifiers = server.notifiers := by
  by_cases asked : ∃ functionGroup state, server.Changes rpcRequestPayload functionGroup state
  · obtain ⟨functionGroup, state, change⟩ := asked
    rw [sound.setState_changes change]
  · obtain ⟨errorCode, refused⟩ := StateServer.setState_refused asked
    rw [refused]
    rfl

theorem Serving.answers (serving : management.Serving functionGroupStates processDescriptors)
    (rpcRequestPayload : Bytes) :
    (management.answered rpcRequestPayload).Serving functionGroupStates processDescriptors := by
  have stepped : management.stateServer.step (.setState rpcRequestPayload) =
      .ok (.answered (StateServer.handleSetState true rpcRequestPayload management.stateServer).1,
        (management.answered rpcRequestPayload).stateServer) := rfl
  refine ⟨(serving.server.setState stepped).1, serving.descriptors, ?_⟩
  rw [← serving.notifies]
  exact congrArg (fun notifiers => notifiers.find? cMachineFunctionGroup)
    (handleSetState_notifiers serving.server rpcRequestPayload)

theorem Serving.stepped (serving : management.Serving functionGroupStates processDescriptors)
    {event : ExecutionManagementEvent} (taken : management.step event = .ok ((), management')) :
    management'.Serving functionGroupStates processDescriptors := by
  unfold step at taken
  cases event with
  | bootstrap forks =>
    dsimp only at taken
    split_ifs at taken
    obtain ⟨processManager, -, done⟩ := bind_eq_ok.mp taken
    cases done
    exact ⟨serving.server, serving.descriptors, serving.notifies⟩
  | setState rpcRequestPayload locks forks =>
    obtain ⟨processManager, -, done⟩ := bind_eq_ok.mp taken
    cases done
    have kept := serving.answers rpcRequestPayload
    exact ⟨kept.server, kept.descriptors, kept.notifies⟩
  | exit pid exitStatus =>
    obtain ⟨processManager, -, done⟩ := bind_eq_ok.mp taken
    cases done
    exact ⟨serving.server, serving.descriptors, serving.notifies⟩
  | reapFinished =>
    cases taken
    exact ⟨serving.server, serving.descriptors, serving.notifies⟩

theorem Serving.reached (serving : init.Serving functionGroupStates processDescriptors)
    {trace : List (Taken ExecutionManagement ExecutionManagementEvent Unit)} (run : Run step init trace management) :
    management.Serving functionGroupStates processDescriptors := by
  let tracked (management : ExecutionManagement) := management.Serving functionGroupStates processDescriptors
  have first : tracked init := serving
  have last : tracked management := by
    apply Run.reached first ?_ run
    intro management event output management' kept taken
    exact kept.stepped taken
  exact last

/-! ## One request -/

/-- The machine is in the state already: the request is refused and nothing is spawned. -/
def StaysIn (management : ExecutionManagement) (request : FunctionGroupState) : Prop :=
  StateServer.handleSetState true (request.serialize []) management.stateServer =
      StateServer.refuse .alreadyInState management.stateServer ∧
    management.spawnedBy (request.serialize []) true = []

/-- The request is granted: the machine is in the state, every other function group where it was, and the
processes of the state are spawned. -/
structure Enters (management : ExecutionManagement) (request : FunctionGroupState) : Prop where
  granted : (StateServer.handleSetState true (request.serialize []) management.stateServer).1 = .ok (true, [])
  sets : ∀ other, (management.answered (request.serialize [])).stateServer.currentStates.find? other =
    if other = cMachineFunctionGroup then some request.stateMetaModel
    else management.stateServer.currentStates.find? other
  spawns : management.spawnedBy (request.serialize []) true =
    management.processDescriptors.zipIdx.filter fun entry =>
      !entry.1.isBootstrap && entry.1.activatingStates.contains (cMachineFunctionGroup, request.stateMetaModel)

theorem decodes {state : Bytes} (fits : state.length < 2 ^ 32) :
    StateServer.extractNames (FunctionGroupState.serialize ⟨cMachineFunctionGroup, state⟩ []) =
      .ok (some (cMachineFunctionGroup, state)) := by
  have short : cMachineFunctionGroup.length < 2 ^ 32 := by decide
  exact (StateServer.extractNames_serialize_iff ⟨cMachineFunctionGroup, state⟩).mpr ⟨short, fits⟩

/-- A request for a declared state of the machine. -/
theorem Serving.enters (serving : management.Serving functionGroupStates processDescriptors) {state : Bytes}
    (fits : state.length < 2 ^ 32) (declared : (cMachineFunctionGroup, state) ∈ functionGroupStates)
    (elsewhere : management.stateServer.currentStates.find? cMachineFunctionGroup ≠ some state) :
    management.Enters ⟨cMachineFunctionGroup, state⟩ := by
  have decoded := decodes fits
  have change : management.stateServer.Changes (FunctionGroupState.serialize ⟨cMachineFunctionGroup, state⟩ [])
      cMachineFunctionGroup state := ⟨decoded, serving.server.same ▸ declared, elsewhere⟩
  have answer := serving.server.setState_changes change
  have fires : (management.answered (FunctionGroupState.serialize ⟨cMachineFunctionGroup, state⟩ [])).stateServer =
      { management.stateServer with
        currentStates := management.stateServer.currentStates.insert cMachineFunctionGroup state
        fired := management.stateServer.fired ++ [onStateChangeCallback] } := by
    unfold answered
    rw [answer, serving.notifies]
    rfl
  refine ⟨by rw [answer], fun other => ?_, ?_⟩
  · rw [fires]
    dsimp only
    rw [OrderedMap.find?_insert]
    split_ifs <;> rfl
  · unfold spawnedBy onStateChange StateServer.tryGetState
    dsimp only
    rw [fires]
    dsimp only
    rw [List.drop_left, if_pos List.mem_cons_self, if_pos rfl, OrderedMap.find?_insert, if_pos rfl]
    rfl

theorem Serving.staysIn (serving : management.Serving functionGroupStates processDescriptors) {state : Bytes}
    (fits : state.length < 2 ^ 32) (declared : (cMachineFunctionGroup, state) ∈ functionGroupStates)
    (here : management.stateServer.currentStates.find? cMachineFunctionGroup = some state) :
    management.StaysIn ⟨cMachineFunctionGroup, state⟩ := by
  have decoded := decodes fits
  have refused : StateServer.handleSetState true (FunctionGroupState.serialize ⟨cMachineFunctionGroup, state⟩ [])
      management.stateServer = StateServer.refuse .alreadyInState management.stateServer := by
    unfold StateServer.handleSetState
    rw [decoded]
    dsimp only
    rw [if_neg (not_not.mpr (serving.server.same ▸ declared)), if_neg (by decide), here]
    exact if_pos rfl
  refine ⟨refused, ?_⟩
  unfold spawnedBy answered
  dsimp only
  rw [refused]
  unfold StateServer.refuse
  dsimp only
  rw [List.drop_length, if_neg List.not_mem_nil]

/-- A request for a state that is not declared. -/
theorem Serving.refuses (serving : management.Serving functionGroupStates processDescriptors) {state : Bytes}
    (fits : state.length < 2 ^ 32) (undeclared : (cMachineFunctionGroup, state) ∉ functionGroupStates) :
    StateServer.handleSetState true (FunctionGroupState.serialize ⟨cMachineFunctionGroup, state⟩ [])
      management.stateServer = StateServer.refuse .invalidTransition management.stateServer := by
  have decoded := decodes fits
  unfold StateServer.handleSetState
  rw [decoded]
  dsimp only
  rw [if_pos (serving.server.same ▸ undeclared)]

/-! ## Both processes -/

/-- What comes of the request that the state management has found, or has not found. -/
def StartUpServed (management : ExecutionManagement) : Outcome FunctionGroupState → Prop
  | .ok request => request = StateManagement.startUp ∧
      if management.stateServer.currentStates.find? cMachineFunctionGroup = some StateManagement.cState then
        management.StaysIn request
      else management.Enters request
  | .error fault => fault = .thrown (.runtimeError StateManagement.cErrorMessage) ∧
      StateServer.handleSetState true (StateManagement.startUp.serialize []) management.stateServer =
        StateServer.refuse .invalidTransition management.stateServer

theorem boot_serving (booted : boot library configFilepath files = .ok init) :
    ∃ functionGroupStates processDescriptors groups,
      parseProcessDescriptors library configFilepath files = .ok processDescriptors ∧
      functionGroups library configFilepath files = .ok groups ∧
      (∀ pair, pair ∈ functionGroupStates ↔ pair ∈ pairsOf groups) ∧
      init.Serving functionGroupStates processDescriptors := by
  obtain ⟨processDescriptors, parses, rest⟩ := bind_eq_ok.mp booted
  obtain ⟨states, fills, started⟩ := bind_eq_ok.mp rest
  obtain ⟨groups, reads, same⟩ := fillStates_ok fills
  exact ⟨states.1, processDescriptors, groups, parses, reads, same, start_serving started⟩

theorem Serving.startUpServed (serving : management.Serving functionGroupStates processDescriptors)
    {groups : List (Bytes × List Bytes)} (same : ∀ pair, pair ∈ functionGroupStates ↔ pair ∈ pairsOf groups)
    (kept : ¬ StateManagement.Outgrown growth groups) :
    management.StartUpServed (StateManagement.configured growth groups).transitToStartUpState := by
  have machine : StateManagement.startUp = ⟨cMachineFunctionGroup, StateManagement.cState⟩ := by decide
  have group : StateManagement.cFunctionGroup = cMachineFunctionGroup := by decide
  rw [StateManagement.transitToStartUpState_eq, if_neg kept, group]
  by_cases declared : (cMachineFunctionGroup, StateManagement.cState) ∈ pairsOf groups
  · rw [if_pos declared]
    refine ⟨rfl, ?_⟩
    rw [machine]
    split_ifs with here
    · exact serving.staysIn (by decide) ((same _).mpr declared) here
    · exact serving.enters (by decide) ((same _).mpr declared) here
  · rw [if_neg declared]
    refine ⟨rfl, ?_⟩
    rw [machine]
    exact serving.refuses (by decide) fun there => declared ((same _).mp there)

/-- When the execution management boots from a manifest, the state management configures itself from it; and
unless its pointers are dangling, the request for the start-up is one the execution management serves, after
every run of requests, exits and reaping. -/
theorem startUp_served (booted : boot library configFilepath files = .ok init) :
    ∃ groups stateManagement, functionGroups library configFilepath files = .ok groups ∧
      StateManagement.configureFunctionGroups growth library configFilepath files = .ok stateManagement ∧
      (stateManagement.transitToStartUpState = .error .undefined ↔ StateManagement.Outgrown growth groups) ∧
      (¬ StateManagement.Outgrown growth groups →
        ∀ trace management, Run step init trace management →
          parseProcessDescriptors library configFilepath files = .ok management.processDescriptors ∧
            management.StartUpServed stateManagement.transitToStartUpState) := by
  obtain ⟨functionGroupStates, processDescriptors, groups, parses, reads, same, serving⟩ := boot_serving booted
  refine ⟨groups, StateManagement.configured growth groups, reads, ?_, ?_, ?_⟩
  · rw [StateManagement.configureFunctionGroups_eq, reads]
    rfl
  · rw [StateManagement.transitToStartUpState_eq]
    split_ifs <;> simp_all
  · intro kept trace management run
    have reached := serving.reached run
    exact ⟨by rw [reached.descriptors, parses], reached.startUpServed same kept⟩

/-! ## Samples -/

mutual

/-- Elements one to a line, behind their tabs. -/
def samplePrint (depth : ℕ) : XmlNode → Bytes
  | .text value => value
  | .element name attributes children =>
    let tabs := List.replicate depth 9
    let opened := tabs ++ text "<" ++ name ++
      attributes.flatMap (fun entry => text " " ++ entry.1 ++ text "=\"" ++ entry.2 ++ text "\"")
    match children with
    | [] => opened ++ text " />\n"
    | [.text value] => opened ++ text ">" ++ value ++ text "</" ++ name ++ text ">\n"
    | _ => opened ++ text ">\n" ++ samplePrintAll (depth + 1) children ++ tabs ++ text "</" ++ name ++ text ">\n"

def samplePrintAll (depth : ℕ) : List XmlNode → Bytes
  | [] => []
  | node :: rest => samplePrint depth node ++ samplePrintAll depth rest

end

def leaf (name value : String) : XmlNode := .element (text name) [] [.text (text value)]

def branch (name : String) (children : List XmlNode) : XmlNode := .element (text name) [] children

/-- A function group that is off or starts up. -/
def sampleGroup (name : String) : XmlNode :=
  branch "FUNCTION-GROUP" [leaf "SHORT-NAME" name, branch "MODE-DECLARATION-GROUP"
    [.element (text "INITIAL-MODE-REF") [(text "DEST", text "MODE-DECLARATION")] [.text (text "Off")],
      branch "MODE-DECLARATIONS"
        [branch "MODE-DECLARATION" [leaf "SHORT-NAME" "Off"],
          branch "MODE-DECLARATION" [leaf "SHORT-NAME" "StartUp"]]]]

def sampleIref : XmlNode :=
  branch "FUNCTION-GROUP-STATE-IREF"
    [leaf "FUNCTION-GROUP-REF" "MachineFG", leaf "FUNCTION-GROUP-STATE-REF" "StartUp"]

def sampleBootstrap : XmlNode :=
  branch "PROCESS" [leaf "SHORT-NAME" "SM", leaf "EXECUTABLE-PATH" "/sm", leaf "BOOTSTRAP" "true"]

def sampleProcess : XmlNode :=
  branch "PROCESS" [leaf "SHORT-NAME" "PHM", leaf "EXECUTABLE-PATH" "/phm", leaf "BOOTSTRAP" "false",
    branch "FUNCTION-GROUP-STATE-IREFS" [sampleIref]]

def sampleManifest (functionGroups : List String) (processes : List XmlNode) : XmlNode :=
  branch "AUTOSAR" [branch "AR-PACKAGES" [branch "AR-PACKAGE" [branch "ELEMENTS"
    [branch "FUNCTION-GROUPS" (functionGroups.map sampleGroup), branch "PROCESSES" processes]]]]

def declaration : Bytes := text "<?xml version=\"1.0\"?>\n"

/-- A library that parses the printed elements of a list, also behind a declaration. -/
def sampleLibrary (elements : List XmlNode) : Pugixml where
  load content :=
    match elements.findIdx? fun node => samplePrint 0 node == content with
    | some index => ⟨true, true, none, elements[index]?.toList⟩
    | none =>
      match elements.findIdx? fun node => declaration ++ samplePrint 0 node == content with
      | some index => ⟨true, true, some true, elements[index]?.toList⟩
      | none => ⟨false, true, none, []⟩
  print := samplePrint 0

def startUpLibrary : Pugixml :=
  sampleLibrary [sampleManifest ["MachineFG"] [sampleBootstrap, sampleProcess],
    sampleManifest ["MachineFG", "DrivingFG"] [sampleBootstrap, sampleProcess], sampleGroup "MachineFG",
    sampleGroup "DrivingFG", sampleBootstrap, sampleProcess, sampleIref]

def sampleFiles (functionGroups : List String) : Files := fun path =>
  if path = text "/m" then some (samplePrint 0 (sampleManifest functionGroups [sampleBootstrap, sampleProcess]))
  else none

/-- Every buffer is twice as large as the one before. -/
def doubling : Growth := ⟨fun size => size + max size 1, fun size => by omega⟩

/-- The processes that run when the state management asks, and the request. -/
def sampleSeen : Option (List ℕ × Outcome FunctionGroupState) := do
  let init ← (boot startUpLibrary (text "/m") (sampleFiles ["MachineFG"])).toOption
  let stateManagement ← (StateManagement.configureFunctionGroups doubling startUpLibrary (text "/m")
    (sampleFiles ["MachineFG"])).toOption
  let (_, management) ← (Run.play step [] init [.bootstrap [some 10]]).toOption
  some (management.processManager.live.map Child.descriptor, stateManagement.transitToStartUpState)

/-- The state management is a bootstrap process, and its request is served. -/
theorem startUp_served_sample : ∃ init trace management,
    boot startUpLibrary (text "/m") (sampleFiles ["MachineFG"]) = .ok init ∧
      Run.play step [] init [.bootstrap [some 10]] = .ok (trace, management) ∧
      management.processManager.live.map Child.descriptor = [0] ∧
      management.StartUpServed (.ok StateManagement.startUp) := by
  have seen : sampleSeen = some ([0], .ok StateManagement.startUp) := by decide +kernel
  have kept : (functionGroups startUpLibrary (text "/m") (sampleFiles ["MachineFG"])).toOption.all
      (fun groups => decide (¬ StateManagement.Outgrown doubling groups)) = true := by decide +kernel
  unfold sampleSeen at seen
  cases booted : boot startUpLibrary (text "/m") (sampleFiles ["MachineFG"]) with
  | error fault =>
    rw [booted] at seen
    cases seen
  | ok init =>
    obtain ⟨groups, stateManagement, reads, configures, -, served⟩ := startUp_served booted
    rw [booted, configures] at seen
    dsimp only [Except.toOption, bind, Option.bind] at seen
    cases played : Run.play step [] init [.bootstrap [some 10]] with
    | error nothing =>
      rw [played] at seen
      cases seen
    | ok result =>
      obtain ⟨trace, management⟩ := result
      rw [played] at seen
      obtain ⟨live, request⟩ := Prod.mk.inj (Option.some.inj seen)
      rw [reads] at kept
      obtain ⟨-, start⟩ := served (of_decide_eq_true kept) trace management (Run.of_play .start played)
      rw [request] at start
      exact ⟨init, trace, management, rfl, played, live, start⟩

/-- With a second function group in the manifest the pointer to the first one is dangling. -/
example : (do
    let stateManagement ← StateManagement.configureFunctionGroups doubling startUpLibrary (text "/m")
      (sampleFiles ["MachineFG", "DrivingFG"])
    stateManagement.transitToStartUpState) = .error .undefined := by
  decide +kernel

end ExecutionManagement
end AdaptiveAutosar.Application
