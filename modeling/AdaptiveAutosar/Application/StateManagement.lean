import AdaptiveAutosar.Application.ExecutionManifest
import AdaptiveAutosar.Foundations.Reallocation

/-! # The state management

`application::platform::StateManagement` reads the function groups from the same manifest and asks the execution
management for the start-up of the machine. Its function group states point to the function groups in a vector
that moves them when it grows.
-/

namespace AdaptiveAutosar.Application
open Foundations Exec Arxml AdaptiveAutosar.Per AdaptiveAutosar.Ucm
set_option autoImplicit false

/-- A function group is its name; a function group state points to its function group. -/
structure StateManagement where
  mFunctionGroups : MovingVector Bytes
  mFunctionGroupStates : List (Pointer × Bytes)

namespace StateManagement

def configureStates (library : Pugixml) (functionGroup : Pointer) (functionGroupContent : Bytes)
    (management : StateManagement) : Outcome StateManagement := do
  let cArxmlReader ← ArxmlReader.ofContent library functionGroupContent
  let cFunctionGroupStateNodes := cArxmlReader.getNodes
    [text "FUNCTION-GROUP", text "MODE-DECLARATION-GROUP", text "MODE-DECLARATIONS"]
  .ok { management with
    mFunctionGroupStates := management.mFunctionGroupStates ++
      cFunctionGroupStateNodes.map fun node => (functionGroup, ArxmlNode.getShortName (some node)) }

/-- One round of the loop over the `FUNCTION-GROUPS`. -/
def configureFunctionGroup (growth : Growth) (library : Pugixml) (management : StateManagement)
    (cFunctionGroupNode : XmlNode) : Outcome StateManagement :=
  let shortName := ArxmlNode.getShortName (some cFunctionGroupNode)
  let mFunctionGroups := management.mFunctionGroups.push growth shortName
  configureStates library mFunctionGroups.back (library.print cFunctionGroupNode)
    { management with mFunctionGroups }

def configureFunctionGroups (growth : Growth) (library : Pugixml) (configFilepath : Bytes) (files : Files) :
    Outcome StateManagement := do
  let cArxmlReader ← ArxmlReader.ofFile library configFilepath files
  (cArxmlReader.getNodes
    [text "AUTOSAR", text "AR-PACKAGES", text "AR-PACKAGE", text "ELEMENTS", text "FUNCTION-GROUPS"]).foldlM
    (configureFunctionGroup growth library) ⟨.empty, []⟩

def cFunctionGroup : Bytes := text "MachineFG"
def cState : Bytes := text "StartUp"

/-- The request for the start-up. -/
def startUp : FunctionGroupState := ⟨cFunctionGroup, cState⟩

def cErrorMessage : String :=
  "State: " ++ textOf cState ++ " for function group " ++ textOf cFunctionGroup ++ " cannot be found."

/-- The loop of `transitToStartUpState`: the function group is read before the state is compared. -/
def transitLoop (groups : MovingVector Bytes) : List (Pointer × Bytes) → Outcome FunctionGroupState
  | [] => .error (.thrown (.runtimeError cErrorMessage))
  | (functionGroup, state) :: rest => do
    let instance' ← groups.deref functionGroup
    if instance' = cFunctionGroup ∧ state = cState then .ok ⟨instance', state⟩ else transitLoop groups rest

/-- `transitToStartUpState`, up to the call of `SetState` with the state it has found. -/
def transitToStartUpState (management : StateManagement) : Outcome FunctionGroupState :=
  transitLoop management.mFunctionGroups management.mFunctionGroupStates

/-! ## What the loop over the function groups leaves -/

variable {growth : Growth} {library : Pugixml} {configFilepath : Bytes} {files : Files}

/-- A loop whose rounds read one node each. -/
theorem foldlM_eq_map_mapM {α β σ : Type} {f : σ → α → Outcome σ} {reads : α → Outcome β} {h : σ → β → σ}
    (rounds : ∀ s x, f s x = (reads x).map (h s)) (xs : List α) (s : σ) :
    xs.foldlM f s = (xs.mapM reads).map fun ys => ys.foldl h s := by
  induction xs generalizing s with
  | nil => rfl
  | cons x xs ih =>
    rw [List.foldlM_cons, List.mapM_cons, rounds]
    cases reads x with
    | error fault => rfl
    | ok y =>
      show xs.foldlM f (h s y) = _
      rw [ih]
      cases xs.mapM reads with
      | error fault => rfl
      | ok ys => rfl

/-- The states of function groups that are pushed to a vector. -/
def statesFrom (growth : Growth) : MovingVector Bytes → List (Bytes × List Bytes) → List (Pointer × Bytes)
  | _, [] => []
  | vector, group :: rest =>
    group.2.map (fun state => ((vector.push growth group.1).back, state)) ++
      statesFrom growth (vector.push growth group.1) rest

/-- One function group and its states. -/
def withGroup (growth : Growth) (management : StateManagement) (group : Bytes × List Bytes) : StateManagement :=
  let mFunctionGroups := management.mFunctionGroups.push growth group.1
  ⟨mFunctionGroups,
    management.mFunctionGroupStates ++ group.2.map fun state => (mFunctionGroups.back, state)⟩

theorem foldl_withGroup (groups : List (Bytes × List Bytes)) (management : StateManagement) :
    groups.foldl (withGroup growth) management =
      ⟨management.mFunctionGroups.pushAll growth (groups.map Prod.fst),
        management.mFunctionGroupStates ++ statesFrom growth management.mFunctionGroups groups⟩ := by
  induction groups generalizing management with
  | nil =>
    rw [statesFrom, List.append_nil]
    rfl
  | cons group rest ih =>
    rw [List.foldl_cons, ih, statesFrom, ← List.append_assoc]
    rfl

/-- The state management behind the loop. -/
def configured (growth : Growth) (groups : List (Bytes × List Bytes)) : StateManagement where
  mFunctionGroups := MovingVector.empty.pushAll growth (groups.map Prod.fst)
  mFunctionGroupStates := statesFrom growth .empty groups

theorem configureFunctionGroup_eq (management : StateManagement) (node : XmlNode) :
    configureFunctionGroup growth library management node =
      (ExecutionManagement.functionGroup library node).map (withGroup growth management) := by
  unfold configureFunctionGroup configureStates ExecutionManagement.functionGroup
    ExecutionManagement.modeDeclarations reread
  cases ArxmlReader.ofContent library (library.print node) with
  | error fault => rfl
  | ok reader =>
    show Except.ok _ = Except.ok _
    unfold withGroup
    dsimp only
    rw [List.map_map]
    rfl

theorem configureFunctionGroups_eq :
    configureFunctionGroups growth library configFilepath files =
      (ExecutionManagement.functionGroups library configFilepath files).map (configured growth) := by
  have built (groups : List (Bytes × List Bytes)) :
      groups.foldl (withGroup growth) ⟨.empty, []⟩ = configured growth groups := foldl_withGroup groups _
  unfold configureFunctionGroups ExecutionManagement.functionGroups
  cases ArxmlReader.ofFile library configFilepath files with
  | error fault => rfl
  | ok reader =>
    rw [← funext built]
    exact foldlM_eq_map_mapM configureFunctionGroup_eq _ _

/-! ## What the pointers point to -/

/-- The function groups ahead of the first one that has states. -/
def stateless (groups : List (Bytes × List Bytes)) : List (Bytes × List Bytes) :=
  groups.takeWhile fun group => group.2.isEmpty

/-- The buffer that the first function group with states is put in does not hold all function groups. -/
def Outgrown (growth : Growth) (groups : List (Bytes × List Bytes)) : Prop :=
  stateless groups ≠ groups ∧
    MovingVector.capacityAfter growth ((stateless groups).length + 1) < groups.length

instance (growth : Growth) (groups : List (Bytes × List Bytes)) : Decidable (Outgrown growth groups) :=
  inferInstanceAs (Decidable (_ ∧ _))

theorem statesFrom_append (vector : MovingVector Bytes) (groups more : List (Bytes × List Bytes)) :
    statesFrom growth vector (groups ++ more) =
      statesFrom growth vector groups ++ statesFrom growth (vector.pushAll growth (groups.map Prod.fst)) more := by
  induction groups generalizing vector with
  | nil => rfl
  | cons group rest ih =>
    rw [List.cons_append, statesFrom, ih, statesFrom, List.append_assoc]
    rfl

theorem statesFrom_of_stateless {groups : List (Bytes × List Bytes)} (stateless : ∀ group ∈ groups, group.2 = [])
    (vector : MovingVector Bytes) : statesFrom growth vector groups = [] := by
  induction groups generalizing vector with
  | nil => rfl
  | cons group rest ih =>
    obtain ⟨first, others⟩ := List.forall_mem_cons.mp stateless
    rw [statesFrom, first, ih others]
    rfl

/-- Over good pointers the loop finds what the function group declares. -/
theorem transitLoop_good {groups : MovingVector Bytes} {pointer : Pointer} {name : Bytes}
    (good : groups.deref pointer = .ok name) (states : List Bytes) (rest : List (Pointer × Bytes)) :
    transitLoop groups (states.map (fun state => (pointer, state)) ++ rest) =
      if startUp ∈ states.map (FunctionGroupState.mk name) then .ok startUp else transitLoop groups rest := by
  induction states with
  | nil => rfl
  | cons state others ih =>
    have first : transitLoop groups ((state :: others).map (fun state => (pointer, state)) ++ rest) =
        if name = cFunctionGroup ∧ state = cState then .ok ⟨name, state⟩
        else transitLoop groups (others.map (fun state => (pointer, state)) ++ rest) := by
      rw [List.map_cons, List.cons_append, transitLoop, good]
      rfl
    have here : startUp = ⟨name, state⟩ ↔ name = cFunctionGroup ∧ state = cState := by
      unfold startUp
      rw [FunctionGroupState.mk.injEq, eq_comm, @eq_comm _ cState]
    rw [first, ih]
    simp only [List.map_cons, List.mem_cons, here]
    by_cases found : name = cFunctionGroup ∧ state = cState
    · rw [if_pos found, if_pos (.inl found), ← here.mpr found]
    · simp only [found, if_false, false_or]

theorem mem_pairsOf_cons (group : Bytes × List Bytes) (rest : List (Bytes × List Bytes)) :
    (cFunctionGroup, cState) ∈ ExecutionManagement.pairsOf (group :: rest) ↔
      startUp ∈ group.2.map (FunctionGroupState.mk group.1) ∨
        (cFunctionGroup, cState) ∈ ExecutionManagement.pairsOf rest := by
  unfold ExecutionManagement.pairsOf startUp
  simp only [List.flatMap_cons, List.mem_append, List.mem_map, Prod.mk.injEq, FunctionGroupState.mk.injEq]

/-- While there is room for all function groups every pointer is good. -/
theorem transitLoop_room {vector : MovingVector Bytes} {groups : List (Bytes × List Bytes)}
    (room : ∀ group rest, groups = group :: rest →
      vector.elements.length + groups.length ≤ (vector.push growth group.1).capacity) :
    transitLoop (vector.pushAll growth (groups.map Prod.fst)) (statesFrom growth vector groups) =
      if (cFunctionGroup, cState) ∈ ExecutionManagement.pairsOf groups then .ok startUp
      else .error (.thrown (.runtimeError cErrorMessage)) := by
  induction groups generalizing vector with
  | nil => rfl
  | cons group rest ih =>
    have fits := room group rest rfl
    rw [List.length_cons] at fits
    have good : (vector.pushAll growth ((group :: rest).map Prod.fst)).deref (vector.push growth group.1).back =
        .ok group.1 := by
      rw [List.map_cons, MovingVector.pushAll_cons, MovingVector.deref_back, if_pos]
      rw [List.length_map]
      omega
    have later : ∀ next others, rest = next :: others →
        (vector.push growth group.1).elements.length + rest.length ≤
          ((vector.push growth group.1).push growth next.1).capacity := by
      rintro next others rfl
      rw [List.length_cons] at fits
      have length := MovingVector.push_elements growth vector group.1
      rw [(MovingVector.push_of_room growth (by rw [length, List.length_append, List.length_singleton]; omega)
        next.1).1, length, List.length_append, List.length_singleton, List.length_cons]
      omega
    rw [statesFrom, transitLoop_good good, List.map_cons, MovingVector.pushAll_cons, ih later]
    by_cases here : startUp ∈ group.2.map (FunctionGroupState.mk group.1)
    · rw [if_pos here, if_pos ((mem_pairsOf_cons group rest).mpr (.inl here))]
    · rw [if_neg here]
      simp only [mem_pairsOf_cons, here, false_or]

theorem pairsOf_of_stateless {groups : List (Bytes × List Bytes)} (all : ∀ group ∈ groups, group.2 = []) :
    ExecutionManagement.pairsOf groups = [] := by
  refine List.flatMap_eq_nil_iff.mpr fun group there => ?_
  rw [all group there]
  rfl

theorem states_of_mem_stateless {groups : List (Bytes × List Bytes)} {group : Bytes × List Bytes}
    (there : group ∈ stateless groups) : group.2 = [] := by
  unfold stateless at there
  have isEmpty := List.mem_takeWhile_imp there
  exact List.isEmpty_iff.mp isEmpty

/-- The function groups from the first one that has states. -/
theorem exists_first {groups : List (Bytes × List Bytes)} (some_there : stateless groups ≠ groups) :
    ∃ name state states later, groups = stateless groups ++ (name, state :: states) :: later ∧
      ∀ group ∈ stateless groups, group.2 = [] := by
  have split : stateless groups ++ groups.dropWhile (fun group => group.2.isEmpty) = groups :=
    List.takeWhile_append_dropWhile
  cases rest : groups.dropWhile fun group => group.2.isEmpty with
  | nil =>
    rw [rest, List.append_nil] at split
    exact absurd split some_there
  | cons group later =>
    have uses := List.head?_dropWhile_not (fun group : Bytes × List Bytes => group.2.isEmpty) groups
    rw [rest] at uses split
    obtain ⟨name, states⟩ := group
    cases states with
    | nil => cases uses
    | cons state states =>
      refine ⟨name, state, states, later, split.symm, fun group there => ?_⟩
      exact states_of_mem_stateless there

variable (growth) in
/-- The first function group that has states decides about all pointers. -/
theorem transit_first (later : List (Bytes × List Bytes)) (name state : Bytes) (states : List Bytes)
    {earlier : List (Bytes × List Bytes)} (before : ∀ group ∈ earlier, group.2 = []) :
    (configured growth (earlier ++ (name, state :: states) :: later)).transitToStartUpState =
      if MovingVector.capacityAfter growth (earlier.length + 1) <
          (earlier ++ (name, state :: states) :: later).length then .error .undefined
      else if (cFunctionGroup, cState) ∈
          ExecutionManagement.pairsOf (earlier ++ (name, state :: states) :: later) then .ok startUp
      else .error (.thrown (.runtimeError cErrorMessage)) := by
  have pairs : ExecutionManagement.pairsOf (earlier ++ (name, state :: states) :: later) =
      ExecutionManagement.pairsOf ((name, state :: states) :: later) := by
    unfold ExecutionManagement.pairsOf
    rw [List.flatMap_append]
    exact congrArg (· ++ _) (pairsOf_of_stateless before)
  let vector : MovingVector Bytes := MovingVector.empty.pushAll growth (earlier.map Prod.fst)
  have length : vector.elements.length = earlier.length := by
    rw [MovingVector.pushAll_elements, List.length_append, List.length_map]
    exact Nat.zero_add _
  have capacity : (vector.push growth name).capacity =
      MovingVector.capacityAfter growth (earlier.length + 1) := by
    have pushed := MovingVector.pushAll_empty_capacity growth (earlier.map Prod.fst ++ [name])
    rw [MovingVector.pushAll_append, List.length_append, List.length_map] at pushed
    exact pushed
  have unfolded : (configured growth (earlier ++ (name, state :: states) :: later)).transitToStartUpState =
      transitLoop (vector.pushAll growth (((name, state :: states) :: later).map Prod.fst))
        (statesFrom growth vector ((name, state :: states) :: later)) := by
    unfold transitToStartUpState configured
    rw [statesFrom_append, statesFrom_of_stateless before, List.map_append, MovingVector.pushAll_append]
    rfl
  rw [unfolded, pairs, List.length_append, List.length_cons, ← capacity, ← length]
  by_cases outgrown : (vector.push growth name).capacity < vector.elements.length + (later.length + 1)
  · have dangling : (vector.pushAll growth (((name, state :: states) :: later).map Prod.fst)).deref
        (vector.push growth name).back = .error .undefined := by
      rw [List.map_cons, MovingVector.pushAll_cons]
      dsimp only
      rw [MovingVector.deref_back, if_neg]
      rw [List.length_map]
      omega
    have first : statesFrom growth vector ((name, state :: states) :: later) =
        ((vector.push growth name).back, state) ::
          (states.map (fun state => ((vector.push growth name).back, state)) ++
            statesFrom growth (vector.push growth name) later) := rfl
    rw [if_pos outgrown, first, transitLoop, dangling]
    rfl
  · rw [if_neg outgrown]
    apply transitLoop_room
    intro group rest isFirst
    cases isFirst
    rw [List.length_cons]
    exact Nat.not_lt.mp outgrown

/-- The request for the start-up: the pointers are dangling, or what the manifest declares decides. -/
theorem transitToStartUpState_eq (groups : List (Bytes × List Bytes)) :
    (configured growth groups).transitToStartUpState =
      if Outgrown growth groups then .error .undefined
      else if (cFunctionGroup, cState) ∈ ExecutionManagement.pairsOf groups then .ok startUp
      else .error (.thrown (.runtimeError cErrorMessage)) := by
  by_cases all : stateless groups = groups
  · have kept : ¬ Outgrown growth groups := fun outgrown => outgrown.1 all
    have before : ∀ group ∈ groups, group.2 = [] := by
      intro group there
      exact states_of_mem_stateless (all.symm ▸ there)
    have undeclared : (cFunctionGroup, cState) ∉ ExecutionManagement.pairsOf groups := by
      rw [pairsOf_of_stateless before]
      exact List.not_mem_nil
    rw [if_neg kept, if_neg undeclared]
    unfold transitToStartUpState configured
    rw [statesFrom_of_stateless before, transitLoop]
  · obtain ⟨name, state, states, later, split, before⟩ := exists_first all
    have found := transit_first growth later name state states before
    have decides : Outgrown growth groups ↔
        MovingVector.capacityAfter growth ((stateless groups).length + 1) < groups.length :=
      and_iff_right all
    rw [← split] at found
    rw [found]
    simp only [decides]

end StateManagement
end AdaptiveAutosar.Application
