import Mathlib.Data.List.Sort
import Mathlib.Data.Prod.Lex
import AdaptiveAutosar.Application.ExecutionManagement
import AdaptiveAutosar.Arxml.Reader

/-! # Starting from the manifest

What `ExecutionManagement::Main` reads from the execution manifest before it spawns anything: the process
descriptors, the declared states of the function groups and their initial states.
-/

namespace AdaptiveAutosar.Application
open Foundations Exec Arxml AdaptiveAutosar.Per AdaptiveAutosar.Ucm
set_option autoImplicit false

/-- `std::set::emplace` of a pair of strings. -/
def emplace (pairs : List (Bytes × Bytes)) (pair : Bytes × Bytes) : List (Bytes × Bytes) :=
  if pairs.contains pair then pairs else pairs.orderedInsert (fun a b => toLex a ≤ toLex b) pair

theorem mem_emplace {pairs : List (Bytes × Bytes)} {pair other : Bytes × Bytes} :
    other ∈ emplace pairs pair ↔ other = pair ∨ other ∈ pairs := by
  unfold emplace
  split_ifs with there
  · constructor
    · exact .inr
    · rintro (rfl | earlier)
      · exact List.contains_iff_mem.mp there
      · exact earlier
  · exact List.mem_orderedInsert _

theorem mem_foldl_emplace {pairs : List (Bytes × Bytes)} {added : List (Bytes × Bytes)} {other : Bytes × Bytes} :
    other ∈ added.foldl emplace pairs ↔ other ∈ pairs ∨ other ∈ added := by
  induction added generalizing pairs with
  | nil => simp
  | cons pair rest ih =>
    rw [List.foldl_cons, ih, mem_emplace, List.mem_cons]
    tauto

namespace ExecutionManagement

/-! ## The process descriptors -/

def cProcessesPath : List Bytes :=
  [text "AUTOSAR", text "AR-PACKAGES", text "AR-PACKAGE", text "ELEMENTS", text "PROCESSES"]

/-- One `FUNCTION-GROUP-STATE-IREF`. -/
def parseActivatingState (library : Pugixml) (cIrefNode : XmlNode) : Outcome (Bytes × Bytes) := do
  let cIrefReader ← reread library cIrefNode
  let fg := (cIrefReader.getRootNode
    [text "FUNCTION-GROUP-STATE-IREF", text "FUNCTION-GROUP-REF"]).getValue []
  let state := (cIrefReader.getRootNode
    [text "FUNCTION-GROUP-STATE-IREF", text "FUNCTION-GROUP-STATE-REF"]).getValue []
  .ok (fg, state)

/-- One round of the loop over the `PROCESSES`. -/
def parseProcessDescriptor (library : Pugixml) (cProcessNode : XmlNode) : Outcome ProcessDescriptor := do
  let cProcessReader ← reread library cProcessNode
  let cBootstrapStr := (cProcessReader.getRootNode [text "PROCESS", text "BOOTSTRAP"]).getValue []
  let cArgNodes := cProcessReader.getNodes [text "PROCESS", text "PROCESS-ARGUMENTS"]
  let cIrefNodes := cProcessReader.getNodes [text "PROCESS", text "FUNCTION-GROUP-STATE-IREFS"]
  let activatingStates ← cIrefNodes.mapM (parseActivatingState library)
  .ok {
    shortName := ArxmlNode.getShortName (some cProcessNode)
    executablePath := (cProcessReader.getRootNode [text "PROCESS", text "EXECUTABLE-PATH"]).getValue []
    arguments := cArgNodes.map fun cArgNode => ArxmlNode.getValue (some cArgNode) []
    fifoPath := (cProcessReader.getRootNode [text "PROCESS", text "FIFO-PATH"]).getValue []
    isBootstrap := cBootstrapStr == text "true"
    activatingStates := activatingStates.foldl emplace [] }

def parseProcessDescriptors (library : Pugixml) (configFilepath : Bytes) (files : Files) :
    Outcome (List ProcessDescriptor) := do
  let cArxmlReader ← ArxmlReader.ofFile library configFilepath files
  (cArxmlReader.getNodes cProcessesPath).mapM (parseProcessDescriptor library)

/-! ## The states -/

def cFunctionGroupsPath : List Bytes :=
  [text "AUTOSAR", text "AR-PACKAGES", text "AR-PACKAGE", text "ELEMENTS", text "FUNCTION-GROUPS"]

def cModeDeclarationsPath : List Bytes :=
  [text "FUNCTION-GROUP", text "MODE-DECLARATION-GROUP", text "MODE-DECLARATIONS"]

def fillFunctionGroupStates (library : Pugixml) (functionGroupShortName functionGroupContent : Bytes)
    (functionGroupStates : List (Bytes × Bytes)) : Outcome (List (Bytes × Bytes)) := do
  let cArxmlReader ← ArxmlReader.ofContent library functionGroupContent
  .ok ((cArxmlReader.getNodes cModeDeclarationsPath).foldl (fun states cFunctionGroupStateNode =>
    emplace states (functionGroupShortName, ArxmlNode.getShortName (some cFunctionGroupStateNode)))
    functionGroupStates)

def fillInitialStates (library : Pugixml) (functionGroupShortName functionGroupContent : Bytes)
    (initialStates : OrderedMap Bytes Bytes) : Outcome (OrderedMap Bytes Bytes) := do
  let cArxmlReader ← ArxmlReader.ofContent library functionGroupContent
  let cModeDeclarationGroupNode :=
    cArxmlReader.getRootNode [text "FUNCTION-GROUP", text "MODE-DECLARATION-GROUP"]
  match cModeDeclarationGroupNode.tryGetReference (text "INITIAL-MODE-REF") (text "MODE-DECLARATION") with
  | some initialStateShortName => .ok (initialStates.insert functionGroupShortName initialStateShortName)
  | none => .error (.thrown (.runtimeError (textOf functionGroupShortName ++ " lacks an initial state.")))

/-- One round of the loop over the `FUNCTION-GROUPS`. -/
def fillFunctionGroup (library : Pugixml) (states : List (Bytes × Bytes) × OrderedMap Bytes Bytes)
    (cFunctionGroupNode : XmlNode) : Outcome (List (Bytes × Bytes) × OrderedMap Bytes Bytes) := do
  let cShortName := ArxmlNode.getShortName (some cFunctionGroupNode)
  let cNodeContent := library.print cFunctionGroupNode
  let initialStates ← fillInitialStates library cShortName cNodeContent states.2
  let functionGroupStates ← fillFunctionGroupStates library cShortName cNodeContent states.1
  .ok (functionGroupStates, initialStates)

def fillStates (library : Pugixml) (configFilepath : Bytes) (files : Files) :
    Outcome (List (Bytes × Bytes) × OrderedMap Bytes Bytes) := do
  let cArxmlReader ← ArxmlReader.ofFile library configFilepath files
  (cArxmlReader.getNodes cFunctionGroupsPath).foldlM (fillFunctionGroup library) ([], .empty)

/-- `Main` up to the loop over the bootstrap processes, from the manifest. -/
def boot (library : Pugixml) (configFilepath : Bytes) (files : Files) : Outcome ExecutionManagement := do
  let processDescriptors ← parseProcessDescriptors library configFilepath files
  let (functionGroupStates, initialStates) ← fillStates library configFilepath files
  start processDescriptors functionGroupStates initialStates

/-! ## What the states are -/

/-- The short names of the states that the content of a function group declares. -/
def modeDeclarations (library : Pugixml) (cFunctionGroupNode : XmlNode) : Outcome (List Bytes) := do
  let cArxmlReader ← reread library cFunctionGroupNode
  .ok ((cArxmlReader.getNodes cModeDeclarationsPath).map fun node => ArxmlNode.getShortName (some node))

def functionGroup (library : Pugixml) (cFunctionGroupNode : XmlNode) : Outcome (Bytes × List Bytes) := do
  let states ← modeDeclarations library cFunctionGroupNode
  .ok (ArxmlNode.getShortName (some cFunctionGroupNode), states)

/-- The function groups of a manifest, each with its declared states. -/
def functionGroups (library : Pugixml) (configFilepath : Bytes) (files : Files) :
    Outcome (List (Bytes × List Bytes)) := do
  let cArxmlReader ← ArxmlReader.ofFile library configFilepath files
  (cArxmlReader.getNodes cFunctionGroupsPath).mapM (functionGroup library)

/-- The pairs of a function group and one of its states. -/
def pairsOf (groups : List (Bytes × List Bytes)) : List (Bytes × Bytes) :=
  groups.flatMap fun group => group.2.map fun state => (group.1, state)

variable {library : Pugixml} {configFilepath : Bytes} {files : Files}

theorem fillFunctionGroupStates_eq {node : XmlNode} {declared : List Bytes}
    (declares : modeDeclarations library node = .ok declared) (name : Bytes)
    (functionGroupStates : List (Bytes × Bytes)) :
    fillFunctionGroupStates library name (library.print node) functionGroupStates =
      .ok ((declared.map fun state => (name, state)).foldl emplace functionGroupStates) := by
  obtain ⟨reader, reads, done⟩ := bind_eq_ok.mp declares
  cases done
  unfold reread at reads
  unfold fillFunctionGroupStates
  rw [reads]
  show Except.ok _ = Except.ok _
  rw [List.map_map, List.foldl_map]
  rfl

/-- A round of the loop that does not throw has read the states of its function group. -/
theorem fillFunctionGroup_ok {node : XmlNode} {before after : List (Bytes × Bytes) × OrderedMap Bytes Bytes}
    (filled : fillFunctionGroup library before node = .ok after) :
    ∃ declared, modeDeclarations library node = .ok declared ∧
      after.1 = (declared.map fun state => (ArxmlNode.getShortName (some node), state)).foldl emplace before.1 := by
  obtain ⟨initialStates, -, rest⟩ := bind_eq_ok.mp filled
  obtain ⟨functionGroupStates, fills, done⟩ := bind_eq_ok.mp rest
  cases done
  obtain ⟨reader, reads, -⟩ := bind_eq_ok.mp fills
  have declares : modeDeclarations library node =
      .ok ((reader.getNodes cModeDeclarationsPath).map fun node => ArxmlNode.getShortName (some node)) := by
    unfold modeDeclarations reread
    rw [reads]
    rfl
  refine ⟨_, declares, ?_⟩
  rw [fillFunctionGroupStates_eq declares] at fills
  cases fills
  rfl

theorem foldlM_fillFunctionGroup {nodes : List XmlNode}
    {before after : List (Bytes × Bytes) × OrderedMap Bytes Bytes}
    (filled : nodes.foldlM (fillFunctionGroup library) before = .ok after) :
    ∃ groups, nodes.mapM (functionGroup library) = .ok groups ∧
      after.1 = (pairsOf groups).foldl emplace before.1 := by
  induction nodes generalizing before with
  | nil =>
    cases filled
    exact ⟨[], rfl, rfl⟩
  | cons node rest ih =>
    rw [List.foldlM_cons] at filled
    obtain ⟨next, first, later⟩ := bind_eq_ok.mp filled
    obtain ⟨declared, declares, isNext⟩ := fillFunctionGroup_ok first
    obtain ⟨groups, reads, isAfter⟩ := ih later
    refine ⟨(ArxmlNode.getShortName (some node), declared) :: groups, ?_, ?_⟩
    · rw [List.mapM_cons, functionGroup, declares, reads]
      rfl
    · rw [isAfter, isNext, ← List.foldl_append]
      rfl

/-- The declared states are the pairs of the function groups, as a set. -/
theorem fillStates_ok {states : List (Bytes × Bytes) × OrderedMap Bytes Bytes}
    (filled : fillStates library configFilepath files = .ok states) :
    ∃ groups, functionGroups library configFilepath files = .ok groups ∧
      ∀ pair, pair ∈ states.1 ↔ pair ∈ pairsOf groups := by
  obtain ⟨reader, reads, loop⟩ := bind_eq_ok.mp filled
  obtain ⟨groups, isGroups, isStates⟩ := foldlM_fillFunctionGroup loop
  refine ⟨groups, ?_, fun pair => ?_⟩
  · unfold functionGroups
    rw [reads]
    exact isGroups
  · rw [isStates, mem_foldl_emplace]
    simp

end ExecutionManagement
end AdaptiveAutosar.Application
