import AdaptiveAutosar.Application.StartUp
import AdaptiveAutosar.Arxml.Path
import AdaptiveAutosar.Ucm.Provenance

/-! # Booting from an updated manifest

The package manager edits the first `PROCESSES` in document order; the execution management reads the `PROCESSES`
at the end of a path. After an activation the next boot has the new process exactly when the two are the same.
-/

namespace AdaptiveAutosar.Application
open Foundations Exec Arxml AdaptiveAutosar.Per AdaptiveAutosar.Ucm
set_option autoImplicit false

/-! ## The manifest behind an activation -/

theorem saveFile_elsewhere (answers : SaveAnswers) {path q : Bytes} (content : Bytes) (files : Files)
    (target : q ≠ cStr path) (temporary : q ≠ cStr (path ++ text ".tmp")) :
    (saveFile answers path content files).2 q = files q := by
  cases succeeds : answers.allSucceed with
  | true =>
    rw [saveFile_succeeded succeeds]
    dsimp only
    rw [FileStore.replaceVia_at, if_neg target, if_neg temporary]
  | false =>
    obtain ⟨e, failed⟩ := saveFile_failed succeeds path content files
    rw [failed]
    dsimp only
    split_ifs
    · rw [FileStore.remove_at, if_neg temporary]
    · rfl

/-- The execution manifest is none of the other files that an activation writes. -/
structure Apart (host : Host) (installRoot executionManifestPath : Bytes) : Prop where
  binary : cStr executionManifestPath ≠ cStr (host.dstBin installRoot)
  temporary : cStr executionManifestPath ≠ host.tmpPath installRoot
  registry : ∀ registry ∈ host.manager.registry, cStr executionManifestPath ≠ cStr registry.storagePath ∧
    cStr executionManifestPath ≠ cStr (registry.storagePath ++ text ".tmp")

variable {codecs : Codecs} {host host' : Host} {answers : ActivateAnswers}
  {installRoot executionManifestPath : Bytes}

theorem Apart.installed (apart : Apart host installRoot executionManifestPath) :
    host.installed installRoot (cStr executionManifestPath) = host.files (cStr executionManifestPath) := by
  unfold Host.installed
  rw [FileStore.replaceVia_at, if_neg apart.binary, if_neg apart.temporary]

theorem updateRegistry_elsewhere (codecs : Codecs) (answers : ActivateAnswers) (host : Host) {q : Bytes}
    (apart : ∀ registry ∈ host.manager.registry, q ≠ cStr registry.storagePath ∧
      q ≠ cStr (registry.storagePath ++ text ".tmp")) :
    (host.updateRegistry codecs answers).files q = host.files q := by
  unfold Host.updateRegistry
  split
  · rename_i registry id info isRegistry isFirst
    obtain ⟨target, temporary⟩ := apart registry isRegistry
    exact saveFile_elsewhere _ _ _ target temporary
  · rfl

theorem updateManifest_ok {extractDir : Bytes} {files files' : Files}
    (updated : updateManifest codecs answers extractDir executionManifestPath files = (true, files')) :
    ∃ procDoc manifestDoc document,
      codecs.xml.loadFile answers.loadsEntry (extractDir ++ text "/manifest/process_entry.xml") files = some procDoc ∧
      codecs.xml.loadFile answers.loadsManifest executionManifestPath files = some manifestDoc ∧
      injectProcess procDoc manifestDoc = some document ∧
      files' = files.put (cStr executionManifestPath) (codecs.xml.save document) := by
  unfold updateManifest at updated
  split at updated
  · cases updated
  · rename_i procDoc entry
    split at updated
    · cases updated
    · rename_i manifestDoc manifest
      split at updated
      · cases updated
      · rename_i document injects
        cases saves : answers.saves with
        | false =>
          rw [saves] at updated
          cases updated
        | true =>
          rw [saves] at updated
          cases updated
          exact ⟨procDoc, manifestDoc, document, entry, manifest, injects, rfl⟩

/-- What an activation that succeeds has read and written. -/
theorem activate_manifest (apart : Apart host installRoot executionManifestPath)
    (activated : host.activate codecs answers installRoot executionManifestPath = (.ok (), host')) :
    ∃ procDoc content manifestDoc document,
      codecs.xml.loadFile answers.loadsEntry (host.manager.extractDir ++ text "/manifest/process_entry.xml")
        (host.installed installRoot) = some procDoc ∧
      host.files (cStr executionManifestPath) = some content ∧ codecs.xml.load content = some manifestDoc ∧
      injectProcess procDoc manifestDoc = some document ∧
      host'.files (cStr executionManifestPath) = some (codecs.xml.save document) := by
  unfold Host.activate at activated
  by_cases unnamed : host.manager.stagedBinaryName = []
  · rw [if_pos unnamed] at activated
    cases activated
  rw [if_neg unnamed] at activated
  obtain ⟨-, install⟩ | ⟨-, -, install⟩ | ⟨-, -, install⟩ :=
    installBinary_cases answers host.srcBin (host.dstBin installRoot) host.files
  · rw [install] at activated
    cases activated
  · rw [install] at activated
    cases activated
  · rw [install] at activated
    dsimp only at activated
    split at activated
    · cases activated
    · rename_i files' updated
      cases activated
      obtain ⟨procDoc, manifestDoc, document, entry, manifest, injects, rfl⟩ := updateManifest_ok updated
      obtain ⟨content, there, loads⟩ := Option.bind_eq_some_iff.mp manifest
      split_ifs at there
      refine ⟨procDoc, content, manifestDoc, document, entry, ?_, loads, injects, ?_⟩
      · rw [← apart.installed]
        exact there
      · refine (updateRegistry_elsewhere codecs answers _ ?_).trans ?_
        · exact apart.registry
        · exact (FileStore.put_at _ _ _ _).trans (if_pos rfl)

/-! ## The next boot -/

/-- The parser gives that document. -/
def ReadsAs (library : Pugixml) (content : Bytes) (document : XmlDocument) : Prop :=
  ArxmlReader.validate (library.load content) = true ∧ (library.load content).document = document

theorem ReadsAs.ofFile {library : Pugixml} {content : Bytes} {document : XmlDocument}
    (reads : ReadsAs library content document) {files : Files} {path : Bytes}
    (there : files (cStr path) = some content) : ArxmlReader.ofFile library path files = .ok ⟨document⟩ := by
  unfold ArxmlReader.ofFile
  rw [there]
  dsimp only
  rw [if_pos reads.1, reads.2]

/-- A `PROCESS` of that short name is among the nodes. -/
def present (process : XmlNode) (processes : List XmlNode) : Bool :=
  (processes.filter (XmlNode.isNamed (text "PROCESS"))).any fun child => child.shortName == process.shortName

def addProcess (process : XmlNode) (processes : List XmlNode) : List XmlNode :=
  if present process processes then processes else processes ++ [process]

theorem injectProcess_eq {procDoc : XmlDocument} {process : XmlNode}
    (isProcess : documentElement procDoc = some process) (manifestDoc : XmlDocument) :
    injectProcess procDoc manifestDoc = editFirst (text "PROCESSES") (addProcess process) manifestDoc := by
  unfold injectProcess
  rw [isProcess]
  rfl

/-- The path to the `ELEMENTS`. -/
def cElementsPath : List Bytes := [text "AUTOSAR", text "AR-PACKAGES", text "AR-PACKAGE", text "ELEMENTS"]

namespace ExecutionManagement
variable {library : Pugixml} {files files' : Files} {configFilepath : Bytes} {document document' : XmlDocument}
  {process : XmlNode}

theorem parseProcessDescriptors_eq (reads : ArxmlReader.ofFile library configFilepath files = .ok ⟨document⟩) :
    parseProcessDescriptors library configFilepath files =
      (childrenAt cProcessesPath document).mapM (parseProcessDescriptor library) := by
  unfold parseProcessDescriptors
  rw [reads]
  show List.mapM _ (ArxmlReader.getNodes _ _) = _
  rw [getNodes_eq]

theorem fillStates_eq (reads : ArxmlReader.ofFile library configFilepath files = .ok ⟨document⟩) :
    fillStates library configFilepath files =
      (childrenAt cFunctionGroupsPath document).foldlM (fillFunctionGroup library) ([], .empty) := by
  unfold fillStates
  rw [reads]
  show List.foldlM _ _ (ArxmlReader.getNodes _ _) = _
  rw [getNodes_eq]

theorem start_processDescriptors {processDescriptors : List ProcessDescriptor}
    {functionGroupStates : List (Bytes × Bytes)} {initialStates : OrderedMap Bytes Bytes}
    {init : ExecutionManagement} (started : start processDescriptors functionGroupStates initialStates = .ok init)
    (others : List ProcessDescriptor) :
    init.processDescriptors = processDescriptors ∧
      start others functionGroupStates initialStates = .ok { init with processDescriptors := others } := by
  obtain ⟨made, makes, rest⟩ := bind_eq_ok.mp started
  obtain ⟨attached, attaches, done⟩ := bind_eq_ok.mp rest
  cases done
  refine ⟨rfl, ?_⟩
  unfold start
  rw [makes]
  show (made.setNotifier cMachineFunctionGroup onStateChangeCallback >>= _) = _
  rw [attaches]
  rfl

/-- What booting a document with one more process gives. -/
theorem boot_edited (before : ArxmlReader.ofFile library configFilepath files = .ok ⟨document⟩)
    (behind : ArxmlReader.ofFile library configFilepath files' = .ok ⟨document'⟩)
    (edited : editFirst (text "PROCESSES") (addProcess process) document = some document')
    {init : ExecutionManagement} (booted : boot library configFilepath files = .ok init) :
    (onWay (text "PROCESSES") cElementsPath document = true →
      boot library configFilepath files' =
        if present process (childrenAt cProcessesPath document) then .ok init
        else (parseProcessDescriptor library process).map fun descriptor =>
          { init with processDescriptors := init.processDescriptors ++ [descriptor] }) ∧
      (onWay (text "PROCESSES") cElementsPath document = false →
        parseProcessDescriptors library configFilepath files' = .ok init.processDescriptors) := by
  have clear : text "PROCESSES" ∉ cElementsPath := by decide
  have apart : text "FUNCTION-GROUPS" ≠ text "PROCESSES" := by decide
  have seen : childrenAt cProcessesPath document' =
      if onWay (text "PROCESSES") cElementsPath document then addProcess process (childrenAt cProcessesPath document)
      else childrenAt cProcessesPath document := childrenAt_edited clear edited
  obtain ⟨processDescriptors, parses, rest⟩ := bind_eq_ok.mp booted
  obtain ⟨states, fills, started⟩ := bind_eq_ok.mp rest
  obtain ⟨rfl, -⟩ := start_processDescriptors started []
  constructor
  · intro way
    have kept : childrenAt cFunctionGroupsPath document' = childrenAt cFunctionGroupsPath document :=
      childrenAt_sibling apart clear way edited
    have same : fillStates library configFilepath files' = .ok states := by
      rw [fillStates_eq behind, kept, ← fillStates_eq before, fills]
    rw [way, if_pos rfl] at seen
    rw [parseProcessDescriptors_eq before] at parses
    unfold boot
    rw [parseProcessDescriptors_eq behind, same, seen, addProcess]
    split_ifs with there
    · rw [parses]
      exact started
    · rw [List.mapM_append, parses, List.mapM_cons, List.mapM_nil]
      cases parseProcessDescriptor library process with
      | error fault => rfl
      | ok descriptor => exact (start_processDescriptors started (init.processDescriptors ++ [descriptor])).2
  · intro astray
    rw [astray] at seen
    rw [parseProcessDescriptors_eq behind, ← parses, parseProcessDescriptors_eq before]
    exact congrArg _ seen

/-- After an activation that succeeds the next boot has the new process behind the old ones, unless a process of
that name was there, exactly when the reader's path comes by the first `PROCESSES`; otherwise it has the old
ones only. -/
theorem activation_extends_boot {codecs : Codecs} {host host' : Host} {answers : ActivateAnswers}
    {installRoot executionManifestPath : Bytes} (apart : Apart host installRoot executionManifestPath)
    (activated : host.activate codecs answers installRoot executionManifestPath = (.ok (), host'))
    {procDoc manifestDoc : XmlDocument} {content : Bytes}
    (entry : codecs.xml.loadFile answers.loadsEntry
      (host.manager.extractDir ++ text "/manifest/process_entry.xml") (host.installed installRoot) = some procDoc)
    (isProcess : documentElement procDoc = some process)
    (there : host.files (cStr executionManifestPath) = some content)
    (loads : codecs.xml.load content = some manifestDoc) (reads : ReadsAs library content manifestDoc)
    (prints : ∀ document, injectProcess procDoc manifestDoc = some document →
      ReadsAs library (codecs.xml.save document) document)
    {init : ExecutionManagement} (booted : boot library executionManifestPath host.files = .ok init) :
    (onWay (text "PROCESSES") cElementsPath manifestDoc = true →
      boot library executionManifestPath host'.files =
        if present process (childrenAt cProcessesPath manifestDoc) then .ok init
        else (parseProcessDescriptor library process).map fun descriptor =>
          { init with processDescriptors := init.processDescriptors ++ [descriptor] }) ∧
      (onWay (text "PROCESSES") cElementsPath manifestDoc = false →
        parseProcessDescriptors library executionManifestPath host'.files = .ok init.processDescriptors) := by
  obtain ⟨procDoc', content', manifestDoc', document, entry', there', loads', injects, saved⟩ :=
    activate_manifest apart activated
  cases entry.symm.trans entry'
  cases there.symm.trans there'
  cases loads.symm.trans loads'
  have edited : editFirst (text "PROCESSES") (addProcess process) manifestDoc = some document := by
    rw [← injectProcess_eq isProcess]
    exact injects
  exact boot_edited (reads.ofFile there) ((prints document injects).ofFile saved) edited booted

/-! ## A package with a process -/

def sampleNew : XmlNode :=
  branch "PROCESS" [leaf "SHORT-NAME" "app", leaf "EXECUTABLE-PATH" "/i/app", leaf "BOOTSTRAP" "false",
    branch "FUNCTION-GROUP-STATE-IREFS" [sampleIref]]

def sampleBefore : XmlNode := sampleManifest ["MachineFG"] [sampleBootstrap, sampleProcess]

def sampleAfter : XmlNode := sampleManifest ["MachineFG"] [sampleBootstrap, sampleProcess, sampleNew]

def updateElements : List XmlNode :=
  [sampleBefore, sampleAfter, sampleGroup "MachineFG", sampleBootstrap, sampleProcess, sampleNew, sampleIref]

def updateLibrary : Pugixml := sampleLibrary updateElements

/-- The same library without `parse_declaration`; it saves behind a declaration. -/
def updateCodecs : Codecs where
  json := sampleCodecs.json
  values := sampleCodecs.values
  xml :=
    { load := fun content =>
        let parseResult := updateLibrary.load content
        if parseResult.statusOk then some parseResult.document else none
      save := fun document => declaration ++ samplePrintAll 0 document }

/-- The package is processed. -/
def sampleStaged : Host where
  manager :=
    { storageRoot := text "/s", storage := none, registry := none, state := .processing, nextId := 2
      pendingTransfers := .empty, accumulatedData := .empty
      stagedPackagePath := text "/s/app.swpkg.tar.gz", stagedBinaryName := text "app" }
  files := (FileStore.put (FileStore.put (sampleFiles ["MachineFG"]) (text "/s/staging/bin/app") [7])
    (text "/s/staging/manifest/process_entry.xml") (samplePrint 0 sampleNew))

theorem updateElements_found :
    (updateElements.findIdx? (fun node => samplePrint 0 node == samplePrint 0 sampleNew),
      updateElements.findIdx? (fun node => samplePrint 0 node == samplePrint 0 sampleBefore),
      updateElements.findIdx? (fun node => samplePrint 0 node == declaration ++ samplePrint 0 sampleAfter),
      updateElements.findIdx? (fun node => declaration ++ samplePrint 0 node ==
        declaration ++ samplePrint 0 sampleAfter)) = (some 5, some 0, none, some 1) := by
  decide +kernel

theorem updateLibrary_entry : updateLibrary.load (samplePrint 0 sampleNew) = ⟨true, true, none, [sampleNew]⟩ := by
  unfold updateLibrary sampleLibrary
  dsimp only
  rw [(Prod.mk.inj updateElements_found).1]
  rfl

theorem updateLibrary_before :
    updateLibrary.load (samplePrint 0 sampleBefore) = ⟨true, true, none, [sampleBefore]⟩ := by
  unfold updateLibrary sampleLibrary
  dsimp only
  rw [(Prod.mk.inj (Prod.mk.inj updateElements_found).2).1]
  rfl

theorem updateLibrary_after :
    updateLibrary.load (declaration ++ samplePrint 0 sampleAfter) = ⟨true, true, some true, [sampleAfter]⟩ := by
  obtain ⟨undeclared, found⟩ := Prod.mk.inj (Prod.mk.inj (Prod.mk.inj updateElements_found).2).2
  unfold updateLibrary sampleLibrary
  dsimp only
  rw [undeclared, found]
  rfl

theorem updateCodecs_load (content : Bytes) : updateCodecs.xml.load content =
    if (updateLibrary.load content).statusOk then some (updateLibrary.load content).document else none := rfl

theorem activation_extends_boot_sample : ∃ host' init descriptor,
    sampleStaged.activate updateCodecs sampleActivation (text "/i") (text "/m") = (.ok (), host') ∧
      boot updateLibrary (text "/m") sampleStaged.files = .ok init ∧
      parseProcessDescriptor updateLibrary sampleNew = .ok descriptor ∧
      boot updateLibrary (text "/m") host'.files =
        .ok { init with processDescriptors := init.processDescriptors ++ [descriptor] } := by
  have apart : Apart sampleStaged (text "/i") (text "/m") :=
    ⟨by decide, by decide, fun registry isRegistry => by cases isRegistry⟩
  have entry : updateCodecs.xml.loadFile sampleActivation.loadsEntry
      (sampleStaged.manager.extractDir ++ text "/manifest/process_entry.xml")
      (sampleStaged.installed (text "/i")) = some [sampleNew] := by
    have there : sampleStaged.installed (text "/i") (cStr (text "/s/staging/manifest/process_entry.xml")) =
        some (samplePrint 0 sampleNew) := rfl
    have path : sampleStaged.manager.extractDir ++ text "/manifest/process_entry.xml" =
        text "/s/staging/manifest/process_entry.xml" := by decide
    unfold XmlCodec.loadFile
    rw [path, there, if_pos (by rfl), Option.bind_some, updateCodecs_load, updateLibrary_entry]
    rfl
  have there : sampleStaged.files (cStr (text "/m")) = some (samplePrint 0 sampleBefore) := rfl
  have loads : updateCodecs.xml.load (samplePrint 0 sampleBefore) = some [sampleBefore] := by
    rw [updateCodecs_load, updateLibrary_before]
    rfl
  have injects : injectProcess [sampleNew] [sampleBefore] = some [sampleAfter] := rfl
  have reads : ReadsAs updateLibrary (samplePrint 0 sampleBefore) [sampleBefore] := by
    unfold ReadsAs
    rw [updateLibrary_before]
    exact ⟨rfl, rfl⟩
  have prints : ∀ document, injectProcess [sampleNew] [sampleBefore] = some document →
      ReadsAs updateLibrary (updateCodecs.xml.save document) document := by
    intro document isDocument
    cases injects.symm.trans isDocument
    have saved : updateCodecs.xml.save [sampleAfter] = declaration ++ samplePrint 0 sampleAfter :=
      congrArg (declaration ++ ·) (List.append_nil _)
    unfold ReadsAs
    rw [saved, updateLibrary_after]
    exact ⟨rfl, rfl⟩
  have completes : sampleStaged.Completes updateCodecs sampleActivation (text "/i") (text "/m") := by
    refine ⟨⟨rfl, rfl, rfl⟩, ⟨copyLoop_reliable (fun _ => ⟨rfl, rfl⟩) _ _ _, rfl⟩, ?_, ⟨[sampleBefore], ?_, rfl⟩, rfl⟩
    · rw [entry]
      rfl
    · unfold XmlCodec.loadFile
      rw [if_pos (by rfl), apart.installed, there, Option.bind_some, loads]
  obtain ⟨files, activated⟩ := Host.activate_of_completes (by decide) completes
  have boots : (boot updateLibrary (text "/m") sampleStaged.files).toBool &&
      (parseProcessDescriptor updateLibrary sampleNew).toBool = true := by decide +kernel
  cases booted : boot updateLibrary (text "/m") sampleStaged.files with
  | error fault =>
    rw [booted] at boots
    cases boots
  | ok init =>
    cases parses : parseProcessDescriptor updateLibrary sampleNew with
    | error fault =>
      rw [parses, booted] at boots
      cases boots
    | ok descriptor =>
      obtain ⟨seen, -⟩ := activation_extends_boot apart activated entry rfl there loads reads prints booted
      refine ⟨_, init, descriptor, activated, rfl, rfl, ?_⟩
      rw [seen (by decide), parses]
      rfl

end ExecutionManagement
end AdaptiveAutosar.Application
