import AdaptiveAutosar.Foundations.Transition
import AdaptiveAutosar.Ucm.PackageManager

/-! # What each call can do

For each call of the package manager the ways it can end, with what it then did to the members and
the files. The conditions are on the state before the call and the answers of the operating system.
-/

namespace AdaptiveAutosar.Ucm
open Foundations AdaptiveAutosar.Per
set_option autoImplicit false

variable {codecs : Codecs} {host host' : Host} {id : TransferIdType}

/-! ## Transfers -/

/-- The new transfer is pending under the next identifier, with no data. -/
def PackageManager.started (manager : PackageManager) (info : PackageInfoType) : PackageManager :=
  { manager with
    nextId := manager.nextId + 1
    pendingTransfers := manager.pendingTransfers.insert manager.nextId info
    accumulatedData := manager.accumulatedData.insert manager.nextId []
    state := .transferring }

theorem PackageManager.transferStart_cases (manager : PackageManager) (info : PackageInfoType) :
    (manager.state ≠ .idle ∧ manager.transferStart info = (.error .operationInProgress, manager)) ∨
      (manager.state = .idle ∧ manager.transferStart info = (.ok manager.nextId, manager.started info)) := by
  by_cases h : manager.state = .idle
  · exact Or.inr ⟨h, if_neg (not_not.mpr h)⟩
  · exact Or.inl ⟨h, if_pos h⟩

def PackageManager.withBlock (manager : PackageManager) (id : TransferIdType) (block : Bytes) :
    PackageManager :=
  { manager with
    accumulatedData := manager.accumulatedData.insert id (manager.received id ++ block) }

theorem PackageManager.transferData_cases (manager : PackageManager) (id : TransferIdType)
    (block : Bytes) (blockCounter : UInt32) :
    (manager.pendingTransfers.find? id = none ∧
        manager.transferData id block blockCounter = (.error .invalidTransferId, manager)) ∨
      (∃ info, manager.pendingTransfers.find? id = some info ∧
        manager.transferData id block blockCounter = (.ok (), manager.withBlock id block)) := by
  unfold PackageManager.transferData
  cases h : manager.pendingTransfers.find? id with
  | none => exact Or.inl ⟨rfl, rfl⟩
  | some info => exact Or.inr ⟨info, rfl, rfl⟩

/-- A transfer that declares a size ends in an error about its length or its storage, or with its
data in the storage, if there is one. -/
theorem Host.transferExit_sized (host : Host) (answers : ExitAnswers) {info : PackageInfoType}
    (found : host.manager.pendingTransfers.find? id = some info) (size : info.size ≠ 0) :
    ((host.manager.received id).length ≠ info.size.toNat ∧
        host.transferExit answers id = (.error .transferNotComplete, host)) ∨
      ((host.manager.received id).length = info.size.toNat ∧
        (host.manager.storage = none ∧
            host.transferExit answers id = (.ok (), ⟨host.manager.withPackage info.name, host.files⟩) ∨
          ∃ storage, host.manager.storage = some storage ∧
            (answers.save.allSucceed = true ∧ host.transferExit answers id =
                (.ok (), ⟨host.manager.withPackage info.name, host.files.replaceVia
                  (cStr (storage.filePath (info.name ++ text ".swpkg.tar.gz") ++ text ".tmp"))
                  (cStr (storage.filePath (info.name ++ text ".swpkg.tar.gz")))
                  (host.manager.received id)⟩) ∨
              answers.save.allSucceed = false ∧ ∃ files,
                host.transferExit answers id = (.error .insufficientSpace, { host with files }) ∧
                ∀ path content, files path = some content → host.files path = some content))) := by
  rw [host.transferExit_eq answers found size]
  by_cases length : (host.manager.received id).length = info.size.toNat
  · rw [if_neg (not_not.mpr length)]
    refine Or.inr ⟨length, ?_⟩
    cases host.manager.storage with
    | none => exact Or.inl ⟨rfl, rfl⟩
    | some storage =>
      refine Or.inr ⟨storage, rfl, ?_⟩
      unfold FileStorage.writeFile
      obtain ⟨succeeds, save⟩ | ⟨fails, code, files, save, kept⟩ := saveFile_cases answers.save
        (storage.filePath (info.name ++ text ".swpkg.tar.gz")) (host.manager.received id) host.files
      · refine Or.inl ⟨succeeds, ?_⟩
        simp only [save]
      · refine Or.inr ⟨fails, files, ?_, ?_⟩
        · simp only [save]
        · intro path content stored
          obtain rfl | rfl := kept
          · exact stored
          · rw [FileStore.remove_at] at stored
            split_ifs at stored
            exact stored
  · rw [if_pos length]
    exact Or.inl ⟨length, rfl⟩

/-- A transfer is finished with its path staged, or with an error and the members as they were. -/
theorem Host.transferExit_cases (host : Host) (answers : ExitAnswers) (id : TransferIdType) :
    (∃ code files, host.transferExit answers id = (.error code, { host with files })) ∨
      (∃ info path files, host.manager.pendingTransfers.find? id = some info ∧
        host.transferExit answers id =
          (.ok (), { manager := { host.manager with stagedPackagePath := path }, files })) := by
  cases found : host.manager.pendingTransfers.find? id with
  | none => exact Or.inl ⟨.invalidTransferId, host.files, by simp only [Host.transferExit, found]⟩
  | some info =>
    by_cases size : info.size = 0
    · simp only [Host.transferExit, found]
      rw [if_pos size]
      cases stat : answers.stat with
      | false => exact Or.inl ⟨_, host.files, rfl⟩
      | true => exact Or.inr ⟨info, _, host.files, rfl, rfl⟩
    · obtain ⟨-, exit⟩ | ⟨-, ⟨-, exit⟩ | ⟨storage, -, ⟨-, exit⟩ | ⟨-, files, exit, -⟩⟩⟩ :=
        host.transferExit_sized answers found size
      · exact Or.inl ⟨_, _, exit⟩
      · exact Or.inr ⟨info, _, _, rfl, exit⟩
      · exact Or.inr ⟨info, _, _, rfl, exit⟩
      · exact Or.inl ⟨_, files, exit⟩

/-! ## Processing -/

/-- The staged package does not extract, has no metadata that parses, or names no binary. -/
def Host.Malformed (codecs : Codecs) (host : Host) (answers : ProcessAnswers) : Prop :=
  host.metadata? codecs answers = none ∨
    ∃ metadata, host.metadata? codecs answers = some metadata ∧ binaryName codecs.values metadata = .ok []

/-- Rejected, found malformed, or staged under the binary name of its metadata. -/
theorem Host.processSwPackage_cases {answers : ProcessAnswers} {result : Except UcmErrc Unit}
    (h : host.processSwPackage codecs answers id = .ok (result, host')) :
    (host' = host ∧ (result = .error .invalidTransferId ∧ host.manager.pendingTransfers.find? id = none ∨
        result = .error .packageMalformed ∧ host.manager.stagedPackagePath = [])) ∨
      (∃ info, host.manager.pendingTransfers.find? id = some info ∧
        host.manager.stagedPackagePath ≠ [] ∧
        (host.Malformed codecs answers ∧ result = .error .packageMalformed ∧
            (∃ name, (name = host.manager.stagedBinaryName ∨ name = []) ∧
              host'.manager = { host.manager with state := .idle, stagedBinaryName := name }) ∨
          ¬ host.Malformed codecs answers ∧ result = .ok () ∧
            ∃ name, name ≠ [] ∧
              host'.manager = { host.manager with state := .processing, stagedBinaryName := name })) := by
  cases found : host.manager.pendingTransfers.find? id with
  | none =>
    unfold Host.processSwPackage at h
    simp only [found, Except.ok.injEq, Prod.mk.injEq] at h
    obtain ⟨rfl, rfl⟩ := h
    exact Or.inl ⟨rfl, Or.inl ⟨rfl, rfl⟩⟩
  | some info =>
    by_cases staged : host.manager.stagedPackagePath = []
    · unfold Host.processSwPackage at h
      simp only [found, staged, if_true, Except.ok.injEq, Prod.mk.injEq] at h
      obtain ⟨rfl, rfl⟩ := h
      exact Or.inl ⟨rfl, Or.inr ⟨rfl, staged⟩⟩
    refine Or.inr ⟨info, rfl, staged, ?_⟩
    rw [host.processSwPackage_eq codecs answers found staged] at h
    cases read : host.metadata? codecs answers with
    | none =>
      rw [read] at h
      cases h
      exact Or.inl ⟨Or.inl read, rfl, _, Or.inl rfl, rfl⟩
    | some metadata =>
      rw [read] at h
      obtain ⟨name, hname, h⟩ := bind_eq_ok.mp h
      by_cases empty : name = []
      · rw [if_pos empty] at h
        cases h
        exact Or.inl ⟨Or.inr ⟨metadata, read, by rw [hname, empty]⟩, rfl, name, Or.inr empty, rfl⟩
      · rw [if_neg empty] at h
        cases h
        refine Or.inr ⟨?_, rfl, name, empty, rfl⟩
        rintro (none | ⟨other, some, unnamed⟩)
        · rw [read] at none
          cases none
        · rw [read] at some
          cases some
          rw [hname] at unnamed
          exact empty (Except.ok.inj unnamed)

/-! ## Activation -/

theorem copyLoop_copied {round : ℕ → CopyRound} {i : ℕ} {rest copied : Bytes}
    (h : (copyLoop round i rest copied).1 = true) :
    (copyLoop round i rest copied).2 = copied ++ rest := by
  fun_induction copyLoop round i rest copied with
  | case1 => cases h
  | case2 => rw [List.append_nil]
  | case3 => cases h
  | case4 i rest copied n _ _ _ count ih =>
    rw [ih h, List.append_assoc, List.take_append_drop]

theorem copyLoop_reliable {round : ℕ → CopyRound}
    (reliable : ∀ i, (round i).read.isSome = true ∧ (round i).writes = true) (i : ℕ)
    (rest copied : Bytes) : (copyLoop round i rest copied).1 = true := by
  fun_induction copyLoop round i rest copied with
  | case1 i rest copied none =>
    have some := (reliable i).1
    rw [none] at some
    cases some
  | case2 => rfl
  | case3 i rest copied n _ _ fails =>
    rw [(reliable i).2] at fails
    cases fails
  | case4 i rest copied n _ _ _ count ih => exact ih

/-- The staged binary as the copy loop reads it: after the temporary file is truncated. -/
def stagedContent (srcBin dstBin : Bytes) (files : Files) : Bytes :=
  ((files.put (cStr (temporaryBinary dstBin)) []) (cStr srcBin)).getD []

/-- The staged binary is there and it and the temporary file can be opened. -/
structure Opens (answers : ActivateAnswers) (srcBin : Bytes) (files : Files) : Prop where
  source : answers.opensSource = true
  present : (files (cStr srcBin)).isSome = true
  temporary : answers.opensTemporary = true

/-- Every round of the copy loop and the renaming succeed. -/
structure Copies (answers : ActivateAnswers) (content : Bytes) : Prop where
  loop : (copyLoop answers.round 0 content []).1 = true
  renames : answers.renames = true

theorem installBinary_cases (answers : ActivateAnswers) (srcBin dstBin : Bytes) (files : Files) :
    (¬ Opens answers srcBin files ∧ installBinary answers srcBin dstBin files = (false, files)) ∨
      (Opens answers srcBin files ∧ ¬ Copies answers (stagedContent srcBin dstBin files) ∧
        installBinary answers srcBin dstBin files =
          (false, files.remove (cStr (temporaryBinary dstBin)))) ∨
      (Opens answers srcBin files ∧ Copies answers (stagedContent srcBin dstBin files) ∧
        installBinary answers srcBin dstBin files =
          (true, files.replaceVia (cStr (temporaryBinary dstBin)) (cStr dstBin)
            (stagedContent srcBin dstBin files))) := by
  unfold installBinary
  cases hsource : answers.opensSource with
  | false =>
    refine Or.inl ⟨?_, rfl⟩
    intro opens
    rw [opens.source] at hsource
    cases hsource
  | true =>
    cases hpresent : files (cStr srcBin) with
    | none =>
      refine Or.inl ⟨?_, by simp only [if_true]⟩
      intro opens
      have present := opens.present
      rw [hpresent] at present
      cases present
    | some content =>
      cases htemporary : answers.opensTemporary with
      | false =>
        refine Or.inl ⟨?_, by simp only [if_true, Bool.not_false]⟩
        intro opens
        rw [opens.temporary] at htemporary
        cases htemporary
      | true =>
        have opens : Opens answers srcBin files :=
          ⟨hsource, by rw [hpresent, Option.isSome_some], htemporary⟩
        have twice (content : Bytes) : (files.put (cStr (temporaryBinary dstBin)) []).put
            (cStr (temporaryBinary dstBin)) content = files.put (cStr (temporaryBinary dstBin)) content :=
          Function.update_idem _ _ files
        simp only [if_true, Bool.not_true, Bool.false_eq_true, if_false, twice]
        cases hcopy : (copyLoop answers.round 0 (stagedContent srcBin dstBin files) []).1 &&
            answers.renames with
        | false =>
          refine Or.inr (Or.inl ⟨opens, ?_, ?_⟩)
          · intro copies
            rw [copies.loop, copies.renames] at hcopy
            cases hcopy
          · rw [if_neg (by rw [← stagedContent, hcopy]; exact Bool.false_ne_true), FileStore.remove_put]
        | true =>
          obtain ⟨loop, renames⟩ := Bool.and_eq_true_iff.mp hcopy
          refine Or.inr (Or.inr ⟨opens, ⟨loop, renames⟩, ?_⟩)
          rw [if_pos (by rw [← stagedContent, hcopy]), ← stagedContent, copyLoop_copied loop]
          rfl

/-- The process entry and the manifest load, the manifest has a `PROCESSES`, and it can be saved. -/
structure Updates (codecs : Codecs) (answers : ActivateAnswers)
    (extractDir executionManifestPath : Bytes) (files : Files) : Prop where
  entry : (codecs.xml.loadFile answers.loadsEntry (extractDir ++ text "/manifest/process_entry.xml")
    files).isSome = true
  manifest : ∃ manifestDoc, codecs.xml.loadFile answers.loadsManifest executionManifestPath files =
    some manifestDoc ∧ hasElement (text "PROCESSES") manifestDoc = true
  saves : answers.saves = true

theorem updateManifest_cases (codecs : Codecs) (answers : ActivateAnswers)
    (extractDir executionManifestPath : Bytes) (files : Files) :
    (¬ Updates codecs answers extractDir executionManifestPath files ∧
        updateManifest codecs answers extractDir executionManifestPath files = (false, files)) ∨
      (Updates codecs answers extractDir executionManifestPath files ∧ ∃ document,
        updateManifest codecs answers extractDir executionManifestPath files =
          (true, files.put (cStr executionManifestPath) (codecs.xml.save document))) := by
  unfold updateManifest
  cases hentry : codecs.xml.loadFile answers.loadsEntry
      (extractDir ++ text "/manifest/process_entry.xml") files with
  | none =>
    refine Or.inl ⟨?_, rfl⟩
    intro updates
    have entry := updates.entry
    rw [hentry] at entry
    cases entry
  | some procDoc =>
    cases hmanifest : codecs.xml.loadFile answers.loadsManifest executionManifestPath files with
    | none =>
      refine Or.inl ⟨?_, rfl⟩
      intro updates
      obtain ⟨manifestDoc, manifest, -⟩ := updates.manifest
      rw [hmanifest] at manifest
      cases manifest
    | some manifestDoc =>
      have found := injectProcess_isSome procDoc manifestDoc
      cases hinject : injectProcess procDoc manifestDoc with
      | none =>
        rw [hinject, Option.isSome_none] at found
        refine Or.inl ⟨?_, by simp only [hinject]⟩
        intro updates
        obtain ⟨other, manifest, processes⟩ := updates.manifest
        rw [hmanifest] at manifest
        cases manifest
        rw [← found] at processes
        cases processes
      | some document =>
        rw [hinject, Option.isSome_some] at found
        cases hsaves : answers.saves with
        | false =>
          refine Or.inl ⟨?_, by simp only [hinject, Bool.not_false, if_true]⟩
          intro updates
          rw [updates.saves] at hsaves
          cases hsaves
        | true =>
          refine Or.inr ⟨⟨by rw [hentry, Option.isSome_some], ⟨manifestDoc, hmanifest, found.symm⟩,
            hsaves⟩, document, ?_⟩
          simp only [hinject, Bool.not_true, Bool.false_eq_true, if_false]

namespace Host

def tmpPath (host : Host) (installRoot : Bytes) : Bytes :=
  cStr (temporaryBinary (host.dstBin installRoot))

/-- The files once the binary is installed. -/
def installed (host : Host) (installRoot : Bytes) : Files :=
  host.files.replaceVia (host.tmpPath installRoot) (cStr (host.dstBin installRoot))
    (stagedContent host.srcBin (host.dstBin installRoot) host.files)

def OpensBinary (host : Host) (answers : ActivateAnswers) : Prop :=
  Opens answers host.srcBin host.files

def CopiesBinary (host : Host) (answers : ActivateAnswers) (installRoot : Bytes) : Prop :=
  Copies answers (stagedContent host.srcBin (host.dstBin installRoot) host.files)

def UpdatesManifest (codecs : Codecs) (host : Host) (answers : ActivateAnswers)
    (installRoot executionManifestPath : Bytes) : Prop :=
  Updates codecs answers host.manager.extractDir executionManifestPath (host.installed installRoot)

/-- Every step of an activation succeeds. -/
structure Completes (codecs : Codecs) (host : Host) (answers : ActivateAnswers)
    (installRoot executionManifestPath : Bytes) : Prop where
  opens : host.OpensBinary answers
  copies : host.CopiesBinary answers installRoot
  updates : host.UpdatesManifest codecs answers installRoot executionManifestPath

end Host

/-- The registry with the first pending transfer recorded. -/
def PackageManager.recorded (manager : PackageManager) : Option KeyValueStorage :=
  match manager.registry, manager.pendingTransfers.begin? with
  | some registry, some (_, info) => some (registry.setValue info.name info.version)
  | registry, _ => registry

theorem Host.updateRegistry_manager (codecs : Codecs) (answers : ActivateAnswers) (host : Host) :
    (host.updateRegistry codecs answers).manager =
      { host.manager with registry := host.manager.recorded } := by
  obtain ⟨⟨_, _, registry, _, _, pendingTransfers, _, _, _⟩, files⟩ := host
  unfold Host.updateRegistry PackageManager.recorded
  cases registry with
  | none => rfl
  | some registry =>
    dsimp only
    cases pendingTransfers.begin? with
    | none => rfl
    | some entry => rfl

theorem Host.activate_cases (codecs : Codecs) (host : Host) (answers : ActivateAnswers)
    (installRoot executionManifestPath : Bytes) :
    (host.manager.stagedBinaryName = [] ∧
        host.activate codecs answers installRoot executionManifestPath = (.error .activationFailed, host)) ∨
      (host.manager.stagedBinaryName ≠ [] ∧
        (¬ host.OpensBinary answers ∧
            host.activate codecs answers installRoot executionManifestPath =
              (.error .activationFailed, ⟨idle host.manager, host.files⟩) ∨
          host.OpensBinary answers ∧ ¬ host.CopiesBinary answers installRoot ∧
            host.activate codecs answers installRoot executionManifestPath =
              (.error .activationFailed,
                ⟨idle host.manager, host.files.remove (host.tmpPath installRoot)⟩) ∨
          host.OpensBinary answers ∧ host.CopiesBinary answers installRoot ∧
            ¬ host.UpdatesManifest codecs answers installRoot executionManifestPath ∧
            host.activate codecs answers installRoot executionManifestPath =
              (.error .activationFailed, ⟨idle host.manager, host.installed installRoot⟩) ∨
          host.Completes codecs answers installRoot executionManifestPath ∧ ∃ files,
            host.activate codecs answers installRoot executionManifestPath =
              (.ok (), ⟨{ host.manager with registry := host.manager.recorded, state := .activated },
                files⟩))) := by
  by_cases hname : host.manager.stagedBinaryName = []
  · exact Or.inl ⟨hname, if_pos hname⟩
  refine Or.inr ⟨hname, ?_⟩
  rw [host.activate_eq codecs answers installRoot executionManifestPath hname]
  obtain ⟨opens, install⟩ | ⟨opens, copies, install⟩ | ⟨opens, copies, install⟩ :=
    installBinary_cases answers host.srcBin (host.dstBin installRoot) host.files
  · refine Or.inl ⟨opens, ?_⟩
    rw [install]
  · refine Or.inr (Or.inl ⟨opens, copies, ?_⟩)
    rw [install]
    rfl
  · have install : installBinary answers host.srcBin (host.dstBin installRoot) host.files =
        (true, host.installed installRoot) := install
    rw [install]
    obtain ⟨updates, update⟩ | ⟨updates, document, update⟩ := updateManifest_cases codecs answers
      host.manager.extractDir executionManifestPath (host.installed installRoot)
    · refine Or.inr (Or.inr (Or.inl ⟨opens, copies, updates, ?_⟩))
      simp only [update]
    · refine Or.inr (Or.inr (Or.inr ⟨⟨opens, copies, updates⟩, (updateRegistry codecs answers
        ⟨{ host.manager with state := .activating }, (host.installed installRoot).put
          (cStr executionManifestPath) (codecs.xml.save document)⟩).files, ?_⟩))
      simp only [update, updateRegistry_manager]
      rfl

theorem Host.activate_of_completes {codecs : Codecs} {host : Host} {answers : ActivateAnswers}
    {installRoot executionManifestPath : Bytes} (named : host.manager.stagedBinaryName ≠ [])
    (completes : host.Completes codecs answers installRoot executionManifestPath) :
    ∃ files, host.activate codecs answers installRoot executionManifestPath =
      (.ok (), ⟨{ host.manager with registry := host.manager.recorded, state := .activated }, files⟩) := by
  obtain ⟨unnamed, -⟩ | ⟨-, ⟨opens, -⟩ | ⟨-, copies, -⟩ | ⟨-, -, updates, -⟩ | ⟨-, activate⟩⟩ :=
    host.activate_cases codecs answers installRoot executionManifestPath
  · exact absurd unnamed named
  · exact absurd completes.opens opens
  · exact absurd completes.copies copies
  · exact absurd completes.updates updates
  · exact activate

/-! ## Any call -/

/-- `ProcessSwPackage` does not get as far as the package. -/
def Host.Rejects (host : Host) (id : TransferIdType) : Prop :=
  host.manager.pendingTransfers.find? id = none ∨ host.manager.stagedPackagePath = []

/-- Each way a call can end, with the response and the members after it. -/
inductive Effect (codecs : Codecs) (host : Host) : Request → Response → Host → Prop where
  | startRefused {info : PackageInfoType} (busy : host.manager.state ≠ .idle) :
      Effect codecs host (.transferStart info) (.failed .operationInProgress) host
  | started {info : PackageInfoType} (idle : host.manager.state = .idle) :
      Effect codecs host (.transferStart info) (.transferId host.manager.nextId)
        ⟨host.manager.started info, host.files⟩
  | dataRefused {id : TransferIdType} {block : Bytes} {blockCounter : UInt32} :
      Effect codecs host (.transferData id block blockCounter) (.failed .invalidTransferId) host
  | data {id : TransferIdType} {block : Bytes} {blockCounter : UInt32} {info : PackageInfoType}
      (found : host.manager.pendingTransfers.find? id = some info) :
      Effect codecs host (.transferData id block blockCounter) .done
        ⟨host.manager.withBlock id block, host.files⟩
  | exitFailed {id : TransferIdType} {answers : ExitAnswers} {code : UcmErrc} {files : Files} :
      Effect codecs host (.transferExit id answers) (.failed code) ⟨host.manager, files⟩
  | exited {id : TransferIdType} {answers : ExitAnswers} {info : PackageInfoType} {path : Bytes}
      {files : Files} (found : host.manager.pendingTransfers.find? id = some info) :
      Effect codecs host (.transferExit id answers) .done
        ⟨{ host.manager with stagedPackagePath := path }, files⟩
  | processRefused {id : TransferIdType} {answers : ProcessAnswers} {code : UcmErrc}
      (rejects : host.Rejects id) :
      Effect codecs host (.processSwPackage id answers) (.failed code) host
  | malformed {id : TransferIdType} {answers : ProcessAnswers} {info : PackageInfoType} {name : Bytes}
      {files : Files} (found : host.manager.pendingTransfers.find? id = some info)
      (accepts : ¬ host.Rejects id) (malformed : host.Malformed codecs answers)
      (kept : name = host.manager.stagedBinaryName ∨ name = []) :
      Effect codecs host (.processSwPackage id answers) (.failed .packageMalformed)
        ⟨{ host.manager with state := .idle, stagedBinaryName := name }, files⟩
  | processed {id : TransferIdType} {answers : ProcessAnswers} {info : PackageInfoType} {name : Bytes}
      {files : Files} (found : host.manager.pendingTransfers.find? id = some info)
      (accepts : ¬ host.Rejects id) (intact : ¬ host.Malformed codecs answers) (named : name ≠ []) :
      Effect codecs host (.processSwPackage id answers) .done
        ⟨{ host.manager with state := .processing, stagedBinaryName := name }, files⟩
  | activateRefused {installRoot executionManifestPath : Bytes} {answers : ActivateAnswers}
      (unnamed : host.manager.stagedBinaryName = []) :
      Effect codecs host (.activate installRoot executionManifestPath answers)
        (.failed .activationFailed) host
  | activateFailed {installRoot executionManifestPath : Bytes} {answers : ActivateAnswers}
      {files : Files} (named : host.manager.stagedBinaryName ≠ [])
      (incomplete : ¬ host.Completes codecs answers installRoot executionManifestPath) :
      Effect codecs host (.activate installRoot executionManifestPath answers)
        (.failed .activationFailed) ⟨Host.idle host.manager, files⟩
  | activated {installRoot executionManifestPath : Bytes} {answers : ActivateAnswers}
      {files : Files} (named : host.manager.stagedBinaryName ≠ [])
      (completes : host.Completes codecs answers installRoot executionManifestPath) :
      Effect codecs host (.activate installRoot executionManifestPath answers) .done
        ⟨{ host.manager with registry := host.manager.recorded, state := .activated }, files⟩
  | reset : Effect codecs host .reset .done ⟨host.manager.reset, host.files⟩

theorem Host.step_effect {codecs : Codecs} {host host' : Host} {request : Request}
    {response : Response} (step : host.step codecs request = .ok (response, host')) :
    Effect codecs host request response host' := by
  cases request with
  | transferStart info =>
    simp only [Host.step] at step
    obtain ⟨busy, start⟩ | ⟨idle, start⟩ := host.manager.transferStart_cases info
    · rw [start] at step
      cases step
      exact .startRefused busy
    · rw [start] at step
      cases step
      exact .started idle
  | transferData id block blockCounter =>
    simp only [Host.step] at step
    obtain ⟨-, data⟩ | ⟨info, found, data⟩ := host.manager.transferData_cases id block blockCounter
    · rw [data] at step
      cases step
      exact .dataRefused
    · rw [data] at step
      cases step
      exact .data found
  | transferExit id answers =>
    simp only [Host.step] at step
    obtain ⟨code, files, exit⟩ | ⟨info, path, files, found, exit⟩ := host.transferExit_cases answers id
    · rw [exit] at step
      cases step
      exact .exitFailed
    · rw [exit] at step
      cases step
      exact .exited found
  | processSwPackage id answers =>
    obtain ⟨⟨result, after⟩, process, step⟩ := bind_eq_ok.mp step
    cases step
    obtain ⟨rfl, ⟨rfl, missing⟩ | ⟨rfl, unstaged⟩⟩ | ⟨info, found, staged, ending⟩ :=
      Host.processSwPackage_cases process
    · exact .processRefused (Or.inl missing)
    · exact .processRefused (Or.inr unstaged)
    · have accepts : ¬ host.Rejects id := by
        rintro (missing | unstaged)
        · rw [found] at missing
          cases missing
        · exact staged unstaged
      obtain ⟨manager, files⟩ := host'
      obtain ⟨malformed, rfl, name, kept, rfl⟩ | ⟨intact, rfl, name, named, rfl⟩ := ending
      · exact .malformed found accepts malformed kept
      · exact .processed found accepts intact named
  | activate installRoot executionManifestPath answers =>
    simp only [Host.step] at step
    obtain ⟨unnamed, activate⟩ | ⟨named, ⟨opens, activate⟩ | ⟨-, copies, activate⟩ |
        ⟨-, -, updates, activate⟩ | ⟨completes, files, activate⟩⟩ :=
      host.activate_cases codecs answers installRoot executionManifestPath
    · rw [activate] at step
      cases step
      exact .activateRefused unnamed
    · rw [activate] at step
      cases step
      exact .activateFailed named fun completes => opens completes.opens
    · rw [activate] at step
      cases step
      exact .activateFailed named fun completes => copies completes.copies
    · rw [activate] at step
      cases step
      exact .activateFailed named fun completes => updates completes.updates
    · rw [activate] at step
      cases step
      exact .activated named completes
  | reset =>
    cases step
    exact .reset

end AdaptiveAutosar.Ucm
