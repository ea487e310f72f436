import AdaptiveAutosar.Foundations.Paths
import AdaptiveAutosar.Foundations.ShellWords
import AdaptiveAutosar.Ucm.Provenance
import AdaptiveAutosar.Ucm.Reassembly

/-! # Where a package can reach

The name of a package comes from the network and the name of its binary from inside it. Both go into
paths, and the first also into a command line, as they are.
-/

namespace AdaptiveAutosar.Ucm
open Foundations AdaptiveAutosar.Per
set_option autoImplicit false

variable {codecs : Codecs}

/-! ## Paths -/

/-- The temporary file of a path, which is removed again when the write fails, lies directly inside the root,
and so does the entry it is renamed to. -/
structure WritesInside (tree : Path.Directories) (root path suffix : Bytes) (renamed : Prop) : Prop where
  temporary : tree.FileInside (cStr root) (cStr (path ++ suffix))
  target : renamed → tree.EntryInside (cStr root) (cStr path)

/-- Up to its first NUL the name leads from the root back to it: with the suffix to an entry that opens a file
of the root, and without it to an entry. -/
structure LeadsBack (tree : Path.Directories) (root name suffix : Bytes) (renamed : Prop) : Prop where
  clean : 0 ∉ root
  temporary : ∃ dir, tree.directory (root ++ text "/") = some dir ∧
    tree.entryFrom dir (cStr (name ++ suffix)) = some dir ∧
    tree.target dir (Path.lastPart (cStr (name ++ suffix))) = some dir
  target : renamed → ∃ dir, tree.directory (root ++ text "/") = some dir ∧
    tree.entryFrom dir (cStr name) = some dir

/-- Up to its first NUL the name is one file name, with and without the suffix. -/
structure IsOnePart (root name suffix : Bytes) (renamed : Prop) : Prop where
  clean : 0 ∉ root
  temporary : Path.Single (cStr (name ++ suffix))
  target : renamed → Path.Single (cStr name)

/-- The root is a directory, and its entry of that last part, if any, is a file. -/
def Vacant (tree : Path.Directories) (root name : Bytes) : Prop :=
  ∃ dir, tree.directory (cStr root ++ text "/") = some dir ∧ tree.target dir (Path.lastPart (cStr name)) = some dir

theorem cStr_join {root : Bytes} (clean : 0 ∉ root) (name : Bytes) :
    cStr (root ++ text "/" ++ name) = root ++ Path.slash :: cStr name := by
  rw [cStr_append (by simp [clean, text]), List.append_assoc]
  rfl

theorem writesInside_iff_leadsBack (tree : Path.Directories) (root name suffix : Bytes) (renamed : Prop) :
    WritesInside tree root (root ++ text "/" ++ name) suffix renamed ↔
      LeadsBack tree root name suffix renamed := by
  by_cases ends : 0 ∈ root
  · refine iff_of_false (fun inside => ?_) fun leads => leads.clean ends
    have file := inside.temporary
    rw [List.append_assoc, List.append_assoc, cStr_append_of_mem ends] at file
    exact tree.not_fileInside_self _ file
  · have temporary : tree.FileInside (cStr root) (cStr (root ++ text "/" ++ name ++ suffix)) ↔
        ∃ dir, tree.directory (root ++ text "/") = some dir ∧
          tree.entryFrom dir (cStr (name ++ suffix)) = some dir ∧
          tree.target dir (Path.lastPart (cStr (name ++ suffix))) = some dir := by
      rw [cStr_of_notMem ends, List.append_assoc _ name, cStr_join ends]
      exact tree.fileInside_join_iff root _
    have target : tree.EntryInside (cStr root) (cStr (root ++ text "/" ++ name)) ↔
        ∃ dir, tree.directory (root ++ text "/") = some dir ∧ tree.entryFrom dir (cStr name) = some dir := by
      rw [cStr_of_notMem ends, cStr_join ends]
      exact tree.entryInside_join_iff root _
    constructor
    · intro inside
      exact ⟨ends, temporary.mp inside.temporary, fun renamed => target.mp (inside.target renamed)⟩
    · intro leads
      exact ⟨temporary.mpr leads.temporary, fun renamed => target.mpr (leads.target renamed)⟩

/-- One file name is what leads back wherever nothing else stands under it. -/
theorem isOnePart_iff_leadsBack (root name suffix : Bytes) (renamed : Prop) :
    IsOnePart root name suffix renamed ↔
      ∀ tree, Vacant tree root (name ++ suffix) → LeadsBack tree root name suffix renamed := by
  constructor
  · rintro ⟨clean, temporary, target⟩ tree ⟨dir, root, vacant⟩
    rw [cStr_of_notMem clean] at root
    refine ⟨clean, ⟨dir, root, ?_, vacant⟩, fun renamed => ⟨dir, root, ?_⟩⟩
    · exact tree.entryFrom_of_single temporary dir
    · exact tree.entryFrom_of_single (target renamed) dir
  · intro leads
    -- the tree in which every part leads away from the root
    have root' := Path.Directories.stairs_directory (Path.lastPart (cStr (name ++ suffix))) (cStr root)
    have here := leads _ ⟨_, root', Path.Directories.stairs_target _ _⟩
    have clean := here.clean
    rw [cStr_of_notMem clean] at root' here
    obtain ⟨dir, root'', entry, -⟩ := here.temporary
    cases Option.some.inj (root'.symm.trans root'')
    refine ⟨clean, Path.Directories.single_of_stairs entry, fun renamed => ?_⟩
    obtain ⟨dir, root'', entry⟩ := here.target renamed
    cases Option.some.inj (root'.symm.trans root'')
    exact Path.Directories.single_of_stairs entry

/-! ## The command line -/

/-- The words `ProcessSwPackage` means. -/
def tarWords (packagePath extractDir : Bytes) : List Bytes :=
  [text "tar", text "xzf", packagePath, text "-C", extractDir]

/-- Between double quotes the path is one word, itself. -/
def Quotable (path : Bytes) : Prop := 0 ∉ path ∧ Shell.QuoteSafe path

theorem extractCommand_eq (manager : PackageManager) :
    manager.extractCommand = text "tar xzf \"" ++ (manager.stagedPackagePath ++ Shell.doubleQuote ::
      (text " -C \"" ++ (manager.extractDir ++ Shell.doubleQuote :: []))) := by
  simp only [PackageManager.extractCommand, List.append_assoc]
  rfl

theorem words_iff_quotable (manager : PackageManager) :
    Shell.simpleCommand (cStr manager.extractCommand) =
        some (tarWords manager.stagedPackagePath manager.extractDir) ↔
      Quotable manager.stagedPackagePath ∧ Quotable manager.extractDir := by
  rw [extractCommand_eq]
  generalize manager.stagedPackagePath = package
  generalize manager.extractDir = dir
  -- a NUL would be in the words but not in what the shell sees
  have clean_iff : (0 : UInt8) ∉ text "tar xzf \"" ++ (package ++ Shell.doubleQuote ::
      (text " -C \"" ++ (dir ++ Shell.doubleQuote :: []))) ↔ 0 ∉ package ∧ 0 ∉ dir := by
    simp [text, Shell.doubleQuote]
  constructor
  · intro parsed
    have flat : (tarWords package dir).flatten =
        text "tarxzf" ++ (package ++ (text "-C" ++ (dir ++ []))) := rfl
    have clean : 0 ∉ package ∧ 0 ∉ dir := by
      have noZero := fun there => zero_notMem_cStr _ ((Shell.flatten_sublist parsed).subset there)
      rw [flat] at noZero
      simpa [text] using noZero
    rw [cStr_of_notMem (clean_iff.mpr clean)] at parsed
    obtain ⟨last, reads, noQuote⟩ := Shell.readsPlain_of_kept parsed (by
      rintro b (rfl | rfl) <;> simp [flat, text, Shell.backslash, Shell.singleQuote, Shell.doubleQuote])
    rw [flat] at noQuote
    obtain ⟨noQuotePackage, noQuoteDir⟩ : Shell.doubleQuote ∉ package ∧ Shell.doubleQuote ∉ dir := by
      simpa [text, Shell.doubleQuote] using noQuote
    rw [List.foldlM_append] at reads
    obtain ⟨_, front, reads⟩ := Option.bind_eq_some_iff.mp reads
    cases front
    obtain ⟨safe, reads⟩ := Shell.quoteSafe_of_readsPlain package reads noQuotePackage
    rw [List.foldlM_append] at reads
    obtain ⟨_, middle, reads⟩ := Option.bind_eq_some_iff.mp reads
    cases middle
    obtain ⟨safeDir, -⟩ := Shell.quoteSafe_of_readsPlain dir reads noQuoteDir
    exact ⟨⟨clean.1, safe⟩, clean.2, safeDir⟩
  · rintro ⟨⟨clean, safe⟩, cleanDir, safeDir⟩
    have front : (text "tar xzf \"").foldlM Shell.Lexing.read Shell.start =
        some ⟨[text "tar", text "xzf"], some [], .double⟩ := by decide
    have middle : (text " -C \"").foldlM Shell.Lexing.read
        ⟨[text "tar", text "xzf"], some package, .bare⟩ =
        some ⟨[text "tar", text "xzf", package, text "-C"], some [], .double⟩ := rfl
    rw [cStr_of_notMem (clean_iff.mpr ⟨clean, cleanDir⟩), Shell.simpleCommand, List.foldlM_append, front]
    show Option.bind (List.foldlM _ _ _) _ = _
    rw [safe.reads, List.nil_append, List.foldlM_append, middle]
    show Option.bind (List.foldlM _ _ _) _ = _
    rw [safeDir.reads]
    rfl

/-! ## What a request may reach -/

/-- When the end of a transfer that declared a size opens a file, it writes directly inside the storage root
whatever becomes of it, and a successful end stores the data there; the line a processed package of such a
transfer is unpacked with has exactly the words meant; an activation that opens a file writes directly inside
the install root. -/
def Host.Confined (tree : Path.Directories) (host : Host) : Request → Prop
  | .transferExit id answers => ∀ info, host.manager.pendingTransfers.find? id = some info →
      info.size ≠ 0 → host.manager.storage ≠ none →
      (host.manager.received id).length = info.size.toNat → answers.save.opens = true →
      WritesInside tree host.manager.storageRoot (host.manager.packagePath info.name) (text ".tmp")
          ((host.transferExit answers id).1 = .ok ()) ∧
        ∀ host', host.transferExit answers id = (.ok (), host') →
          host'.files (cStr (host.manager.packagePath info.name)) = some (host.manager.received id)
  | .processSwPackage id _ => ∀ name, host.manager.pendingTransfers.find? id ≠ none →
      host.manager.stagedPackagePath = host.manager.packagePath name →
      Shell.simpleCommand (cStr host.manager.extractCommand) =
        some (tarWords (host.manager.packagePath name) host.manager.extractDir)
  | .activate installRoot _ answers => host.manager.stagedBinaryName ≠ [] → host.OpensBinary answers →
      WritesInside tree installRoot (host.dstBin installRoot) (text ".ucm_tmp")
        ((installBinary answers host.srcBin (host.dstBin installRoot) host.files).1 = true)
  | _ => True

/-- The names behind these paths are as `inside` says, and the paths in the command line can stand between
double quotes. -/
def Host.Named (inside : Bytes → Bytes → Bytes → Prop → Prop) (host : Host) : Request → Prop
  | .transferExit id answers => ∀ info, host.manager.pendingTransfers.find? id = some info →
      info.size ≠ 0 → host.manager.storage ≠ none →
      (host.manager.received id).length = info.size.toNat → answers.save.opens = true →
      inside host.manager.storageRoot (info.name ++ text ".swpkg.tar.gz") (text ".tmp")
        (answers.save.allSucceed = true)
  | .processSwPackage id _ => ∀ name, host.manager.pendingTransfers.find? id ≠ none →
      host.manager.stagedPackagePath = host.manager.packagePath name →
      Quotable (host.manager.packagePath name) ∧ Quotable host.manager.extractDir
  | .activate installRoot _ answers => host.manager.stagedBinaryName ≠ [] → host.OpensBinary answers →
      inside installRoot host.manager.stagedBinaryName (text ".ucm_tmp") (host.CopiesBinary answers installRoot)
  | _ => True

/-- In the tree the request finds, the names lead back to their roots. -/
def Host.Harmless (tree : Path.Directories) : Host → Request → Prop := Host.Named (LeadsBack tree)

/-- The names are single file names. -/
def Host.Plain : Host → Request → Prop := Host.Named IsOnePart

/-- Neither a directory nor a link stands in the root under the name of a temporary file. -/
def Host.FindsVacant (tree : Path.Directories) (host : Host) : Request → Prop
  | .transferExit id _ => ∀ info, host.manager.pendingTransfers.find? id = some info →
      Vacant tree host.manager.storageRoot (info.name ++ text ".swpkg.tar.gz" ++ text ".tmp")
  | .activate installRoot _ _ => Vacant tree installRoot (host.manager.stagedBinaryName ++ text ".ucm_tmp")
  | _ => True

theorem WritesInside.congr {tree : Path.Directories} {root path suffix : Bytes} {renamed renamed' : Prop}
    (same : renamed ↔ renamed') :
    WritesInside tree root path suffix renamed ↔ WritesInside tree root path suffix renamed' := by
  constructor
  · exact fun inside => ⟨inside.temporary, fun holds => inside.target (same.mpr holds)⟩
  · exact fun inside => ⟨inside.temporary, fun holds => inside.target (same.mp holds)⟩

/-- A transfer whose data is complete ends well exactly when it can save them, and then they are stored. -/
theorem Host.transferExit_ok_iff {host : Host} (rooted : host.manager.Rooted) (answers : ExitAnswers)
    {id : TransferIdType} {info : PackageInfoType} (found : host.manager.pendingTransfers.find? id = some info)
    (size : info.size ≠ 0) (available : host.manager.storage ≠ none)
    (length : (host.manager.received id).length = info.size.toNat) :
    ((host.transferExit answers id).1 = .ok () ↔ answers.save.allSucceed = true) ∧
      ∀ host', host.transferExit answers id = (.ok (), host') →
        host'.files (cStr (host.manager.packagePath info.name)) = some (host.manager.received id) := by
  obtain ⟨other, -⟩ | ⟨-, ⟨missing, -⟩ | ⟨storage, at_root, ⟨succeeds, exit⟩ | ⟨fails, files, exit, -⟩⟩⟩ :=
    host.transferExit_sized answers found size
  · exact absurd length other
  · exact absurd missing available
  · rw [exit]
    refine ⟨iff_of_true rfl succeeds, fun host' ended => ?_⟩
    cases ended
    have same : storage.filePath (info.name ++ text ".swpkg.tar.gz") =
        host.manager.packagePath info.name := by
      rw [FileStorage.filePath, rooted storage at_root]
      rfl
    rw [same]
    exact FileStore.replaceVia_target _ _ _ _
  · rw [exit, fails]
    exact ⟨iff_of_false (fun ended => by cases ended) Bool.false_ne_true, fun host' ended => by cases ended⟩

theorem Host.installs_iff_copies {host : Host} {answers : ActivateAnswers} (opens : host.OpensBinary answers)
    (installRoot : Bytes) :
    (installBinary answers host.srcBin (host.dstBin installRoot) host.files).1 = true ↔
      host.CopiesBinary answers installRoot := by
  obtain ⟨closed, -⟩ | ⟨-, breaks, install⟩ | ⟨-, copies, install⟩ :=
    installBinary_cases answers host.srcBin (host.dstBin installRoot) host.files
  · exact absurd opens closed
  · rw [install]
    exact iff_of_false Bool.false_ne_true breaks
  · rw [install]
    exact iff_of_true rfl copies

theorem exit_confined_iff (tree : Path.Directories) {host : Host} (rooted : host.manager.Rooted)
    (id : TransferIdType) (answers : ExitAnswers) :
    host.Confined tree (.transferExit id answers) ↔ host.Harmless tree (.transferExit id answers) := by
  refine forall_congr' fun info => forall_congr' fun found => forall_congr' fun size => forall_congr' fun available =>
    forall_congr' fun length => imp_congr_right fun _ => ?_
  obtain ⟨ok_iff, stores⟩ := Host.transferExit_ok_iff rooted answers found size available length
  have writes := writesInside_iff_leadsBack tree host.manager.storageRoot (info.name ++ text ".swpkg.tar.gz")
    (text ".tmp") (answers.save.allSucceed = true)
  rw [← WritesInside.congr ok_iff] at writes
  rw [← writes]
  exact and_iff_left stores

theorem confined_iff_harmless (tree : Path.Directories) {host : Host} (rooted : host.manager.Rooted)
    (request : Request) : host.Confined tree request ↔ host.Harmless tree request := by
  cases request with
  | transferExit id answers => exact exit_confined_iff tree rooted id answers
  | processSwPackage id answers =>
    refine forall_congr' fun name => imp_congr_right fun _ => imp_congr_right fun staged => ?_
    rw [← staged]
    exact words_iff_quotable host.manager
  | activate installRoot manifestPath answers =>
    refine forall_congr' fun _ => forall_congr' fun opens => ?_
    rw [WritesInside.congr (Host.installs_iff_copies opens installRoot)]
    exact writesInside_iff_leadsBack tree installRoot host.manager.stagedBinaryName (text ".ucm_tmp") _
  | transferStart info => exact Iff.rfl
  | transferData id block blockCounter => exact Iff.rfl
  | reset => exact Iff.rfl

theorem plain_iff_harmless (host : Host) (request : Request) :
    host.Plain request ↔ ∀ tree, host.FindsVacant tree request → host.Harmless tree request := by
  cases request with
  | transferExit id answers =>
    constructor
    · intro plain tree vacant info found size available length opens
      exact (isOnePart_iff_leadsBack _ _ _ _).mp (plain info found size available length opens) tree
        (vacant info found)
    · intro harmless info found size available length opens
      refine (isOnePart_iff_leadsBack _ _ _ _).mpr fun tree vacant => ?_
      refine harmless tree (fun other found' => ?_) info found size available length opens
      cases found.symm.trans found'
      exact vacant
  | processSwPackage id answers =>
    exact ⟨fun plain _ _ => plain, fun harmless => harmless (Path.Directories.stairs 0 []) trivial⟩
  | activate installRoot manifestPath answers =>
    constructor
    · intro plain tree vacant named opens
      exact (isOnePart_iff_leadsBack _ _ _ _).mp (plain named opens) tree vacant
    · intro harmless named opens
      exact (isOnePart_iff_leadsBack _ _ _ _).mpr fun tree vacant => harmless tree vacant named opens
  | transferStart info => exact ⟨fun _ _ _ => trivial, fun _ => trivial⟩
  | transferData id block blockCounter => exact ⟨fun _ _ _ => trivial, fun _ => trivial⟩
  | reset => exact ⟨fun _ _ _ => trivial, fun _ => trivial⟩

/-- A tree without links. -/
def sampleDirectories : List (List Bytes) :=
  [[text "s"], [text "s", text "staging"], [text "s", text "staging", text "bin"], [text "i"]]

def sampleEnter (dir : List Bytes) (part : Bytes) : Option (List Bytes) :=
  if part = text ".." then some dir.dropLast
  else if sampleDirectories.contains (dir ++ [part]) then some (dir ++ [part]) else none

def sampleTree : Path.Directories where
  Directory := List Bytes
  top := []
  working := []
  enter := sampleEnter
  target dir part := if (sampleEnter dir part).isSome then none else some dir
  target_of_enter _ _ entered := if_pos entered

def sampleRequests : List Request :=
  sampleTransfer unpacked ++ [.activate (text "/i") (text "/m") sampleActivation]

def hostileMetadata : Bytes := text "\x7b\"binary_name\": \"../app\"\x7d"

def hostileCodecs : Codecs where
  json :=
    { parseFromStream := fun content =>
        if content = hostileMetadata then some (.object [(text "binary_name", .string (text "../app"))]) else none
      write := sampleCodecs.json.write }
  values := sampleCodecs.values
  xml := sampleCodecs.xml

def hostileHost : Host :=
  Host.boot hostileCodecs (text "/s") true true
    fun path => if path = text "/m" then some (text "<PROCESSES/>") else none

/-- The shell runs `true` and puts what it prints, nothing, into the path: `tar` unpacks the first package. -/
def hostileUnpacked : ProcessAnswers where
  system := fun line files =>
    if line = text "tar xzf \"/s/../x$(true).swpkg.tar.gz\" -C \"/s/staging\"" ∧
        files (text "/s/../x.swpkg.tar.gz") = some [1, 2] then
      (0, ((files.put (text "/s/staging/metadata.json") hostileMetadata).put
        (text "/s/staging/bin/../app") [7]).put
        (text "/s/staging/manifest/process_entry.xml") (text "<PROCESS/>"))
    else (2, files)
  opensMetadata := true

def hostileExit : ExitAnswers := ⟨true, ⟨true, true, true⟩⟩

/-- The first package is stored beside the storage root; the name of the second runs a command; the binary is
installed beside the install root. -/
def hostileUpdate : List Request :=
  [.transferStart ⟨text "../x", text "1.0.0", 2⟩, .transferData 1 [1, 2] 0, .transferExit 1 hostileExit, .reset,
    .transferStart ⟨text "../x$(true)", text "1.0.0", 2⟩, .transferData 2 [1, 2] 0, .transferExit 2 hostileExit,
    .processSwPackage 2 hostileUnpacked, .activate (text "/i") (text "/m") sampleActivation]

def hostileRun (n : ℕ) : List Call × Host :=
  match Run.play (Host.step hostileCodecs) [] hostileHost (hostileUpdate.take n) with
  | .ok result => result
  | .error _ => ([], hostileHost)

theorem hostile_exit_unconfined : ¬ (hostileRun 2).2.Confined sampleTree (.transferExit 1 hostileExit) := by
  intro confined
  obtain ⟨⟨dir, root, entry, -⟩, -⟩ := (confined ⟨text "../x", text "1.0.0", 2⟩ rfl (by decide)
    (fun missing => by cases missing) rfl rfl).1
  have inRoot : some [text "s"] = some dir := root
  have outside : some [] = some dir := entry
  cases inRoot.trans outside.symm

theorem hostile_process_unconfined :
    ¬ (hostileRun 7).2.Confined sampleTree (.processSwPackage 2 hostileUnpacked) := by
  intro confined
  have words := confined (text "../x$(true)") (fun missing => by cases missing) rfl
  have none : Shell.simpleCommand (cStr (hostileRun 7).2.manager.extractCommand) = none := by decide
  rw [none] at words
  cases words

theorem hostile_activate_unconfined :
    ¬ (hostileRun 8).2.Confined sampleTree (.activate (text "/i") (text "/m") sampleActivation) := by
  intro confined
  obtain ⟨⟨dir, root, entry, -⟩, -⟩ := confined (by decide) ⟨rfl, rfl, rfl⟩
  have inRoot : some [text "i"] = some dir := root
  have outside : some [] = some dir := entry
  cases inRoot.trans outside.symm

end AdaptiveAutosar.Ucm
