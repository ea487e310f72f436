import AdaptiveAutosar.Ucm.Manifest

/-! # The package manager

`ara::ucm::PackageManager`: a transfer is started, filled with blocks and finished; its package is
then processed (extracted, its binary named) and activated (binary installed, manifest and registry
updated). Every call is a function of the manager's members and the files. What the operating system
answers during a call is part of the input; a thrown exception ends the process, since every call
is `noexcept`.
-/

namespace AdaptiveAutosar.Ucm
open Foundations AdaptiveAutosar.Per
set_option autoImplicit false

abbrev TransferIdType := UInt32

inductive UpdateStateType where
  | idle
  | transferring
  | processing
  | activating
  | activated
  | rollingBack
  | rolledBack
  deriving DecidableEq, Repr

structure PackageInfoType where
  name : Bytes
  version : Bytes
  size : UInt64
  deriving DecidableEq, Repr

inductive UcmErrc where
  | invalidTransferId
  | transferNotComplete
  | packageMalformed
  | activationFailed
  | rollbackFailed
  | insufficientSpace
  | operationInProgress
  deriving DecidableEq, Repr

structure PackageManager where
  storageRoot : Bytes
  storage : Option FileStorage
  registry : Option KeyValueStorage
  state : UpdateStateType
  nextId : TransferIdType
  pendingTransfers : OrderedMap TransferIdType PackageInfoType
  accumulatedData : OrderedMap TransferIdType Bytes
  stagedPackagePath : Bytes
  stagedBinaryName : Bytes

/-- The manager and the files it works on. -/
structure Host where
  manager : PackageManager
  files : Files

structure Codecs where
  json : JsonCodec
  values : JsonValues
  xml : XmlCodec

/-- The constructor: `available`, the storage directory is there; `opens`, the registry file, when
it is there, can be opened. -/
def PackageManager.make (codecs : Codecs) (storageRoot : Bytes) (available opens : Bool)
    (files : Files) : PackageManager where
  storageRoot := storageRoot
  storage := (FileStorage.open_ available storageRoot).toOption
  registry := (KeyValueStorage.open_ codecs.json opens (storageRoot ++ text "/ucm_registry.json")
    files).toOption
  state := .idle
  nextId := 1
  pendingTransfers := .empty
  accumulatedData := .empty
  stagedPackagePath := []
  stagedBinaryName := []

/-! ## Transfers -/

def PackageManager.reset (manager : PackageManager) : PackageManager :=
  { manager with
    state := .idle, pendingTransfers := .empty, accumulatedData := .empty
    stagedPackagePath := [], stagedBinaryName := [] }

def PackageManager.transferStart (manager : PackageManager) (info : PackageInfoType) :
    Except UcmErrc TransferIdType × PackageManager :=
  if manager.state ≠ .idle then (.error .operationInProgress, manager)
  else
    let id := manager.nextId
    (.ok id, { manager with
      nextId := manager.nextId + 1
      pendingTransfers := manager.pendingTransfers.insert id info
      accumulatedData := manager.accumulatedData.insert id []
      state := .transferring })

/-- The block counter is not looked at. -/
def PackageManager.transferData (manager : PackageManager) (id : TransferIdType) (block : Bytes)
    (_blockCounter : UInt32) : Except UcmErrc Unit × PackageManager :=
  match manager.pendingTransfers.find? id with
  | none => (.error .invalidTransferId, manager)
  | some _ =>
    let acc := (manager.accumulatedData.find? id).getD []
    (.ok (), { manager with accumulatedData := manager.accumulatedData.insert id (acc ++ block) })

/-- The data of a transfer so far. -/
def PackageManager.received (manager : PackageManager) (id : TransferIdType) : Bytes :=
  (manager.accumulatedData.find? id).getD []

/-- Where the package of a transfer of that name is stored. -/
def PackageManager.packagePath (manager : PackageManager) (name : Bytes) : Bytes :=
  manager.storageRoot ++ text "/" ++ (name ++ text ".swpkg.tar.gz")

/-- The manager with the package of a transfer of that name staged. -/
def PackageManager.withPackage (manager : PackageManager) (name : Bytes) : PackageManager :=
  { manager with stagedPackagePath := manager.packagePath name }

structure ExitAnswers where
  /-- `stat` finds the package on the shared file system. -/
  stat : Bool
  save : SaveAnswers

namespace Host

def transferExit (host : Host) (answers : ExitAnswers) (id : TransferIdType) :
    Except UcmErrc Unit × Host :=
  let manager := host.manager
  match manager.pendingTransfers.find? id with
  | none => (.error .invalidTransferId, host)
  | some info =>
    if info.size = 0 then
      if !answers.stat then (.error .transferNotComplete, host)
      else (.ok (), { host with manager := { manager with stagedPackagePath := info.name } })
    else
      -- every pending transfer has an entry of data, so `operator[]` inserts none here
      let acc := manager.received id
      if acc.length ≠ info.size.toNat then (.error .transferNotComplete, host)
      else
        match manager.storage with
        | none => (.ok (), { host with manager := manager.withPackage info.name })
        | some storage =>
          match storage.writeFile answers.save (info.name ++ text ".swpkg.tar.gz") acc host.files with
          | (.error _, files) => (.error .insufficientSpace, { host with files })
          | (.ok _, files) => (.ok (), { manager := manager.withPackage info.name, files })

theorem transferExit_eq (host : Host) (answers : ExitAnswers) {id : TransferIdType}
    {info : PackageInfoType} (found : host.manager.pendingTransfers.find? id = some info)
    (size : info.size ≠ 0) :
    host.transferExit answers id =
      if (host.manager.received id).length ≠ info.size.toNat then (.error .transferNotComplete, host)
      else match host.manager.storage with
        | none => (.ok (), ⟨host.manager.withPackage info.name, host.files⟩)
        | some storage =>
          match storage.writeFile answers.save (info.name ++ text ".swpkg.tar.gz")
              (host.manager.received id) host.files with
          | (.error _, files) => (.error .insufficientSpace, { host with files })
          | (.ok _, files) => (.ok (), ⟨host.manager.withPackage info.name, files⟩) := by
  simp only [transferExit, found]
  exact if_neg size

end Host

/-! ## Processing -/

structure ProcessAnswers where
  /-- `system` runs a command line on the files and reports its status. -/
  system : Bytes → Files → ℤ × Files
  opensMetadata : Bool

def PackageManager.extractDir (manager : PackageManager) : Bytes :=
  manager.storageRoot ++ text "/staging"

def PackageManager.extractCommand (manager : PackageManager) : Bytes :=
  text "tar xzf \"" ++ manager.stagedPackagePath ++ text "\" -C \"" ++ manager.extractDir ++ text "\""

/-- `metadata.json` of the extracted package, when it opens and parses. -/
def PackageManager.loadMetadata (manager : PackageManager) (codecs : Codecs)
    (answers : ProcessAnswers) (files : Files) : Option Json :=
  (if answers.opensMetadata then files (cStr (manager.extractDir ++ text "/metadata.json"))
    else none).bind codecs.json.parseFromStream

def binaryName (values : JsonValues) (metadata : Json) : Outcome Bytes := do
  let value ← values.get metadata (text "binary_name") (.string [])
  values.asString value

theorem binaryName_ne_undefined (values : JsonValues) (metadata : Json) :
    binaryName values metadata ≠ .error .undefined := by
  apply bind_ne_undefined
  · exact (values.get_accesses metadata _ _).ne_undefined
  · exact fun value => (values.asString_accesses value).ne_undefined

namespace Host

def idle (manager : PackageManager) : PackageManager := { manager with state := .idle }

/-- The binary name of the metadata is kept, also when it is empty. -/
def stageBinary (values : JsonValues) (manager : PackageManager) (files : Files) (metadata : Json) :
    Outcome (Except UcmErrc Unit × Host) := do
  let stagedBinaryName ← binaryName values metadata
  let manager := { manager with stagedBinaryName }
  if stagedBinaryName = [] then pure (.error .packageMalformed, ⟨idle manager, files⟩)
  else pure (.ok (), ⟨manager, files⟩)

def processSwPackage (codecs : Codecs) (host : Host) (answers : ProcessAnswers)
    (id : TransferIdType) : Outcome (Except UcmErrc Unit × Host) :=
  match host.manager.pendingTransfers.find? id with
  | none => .ok (.error .invalidTransferId, host)
  | some _ =>
    if host.manager.stagedPackagePath = [] then .ok (.error .packageMalformed, host)
    else
      let manager := { host.manager with state := .processing }
      let (tarRet, files) := answers.system (cStr manager.extractCommand) host.files
      if tarRet ≠ 0 then .ok (.error .packageMalformed, ⟨idle manager, files⟩)
      else
        match manager.loadMetadata codecs answers files with
        | none => .ok (.error .packageMalformed, ⟨idle manager, files⟩)
        | some metadata => stageBinary codecs.values manager files metadata

/-- What `tar` reports and leaves. -/
def extracted (host : Host) (answers : ProcessAnswers) : ℤ × Files :=
  answers.system (cStr host.manager.extractCommand) host.files

/-- The metadata of the staged package; none when `tar` or reading it goes wrong. -/
def metadata? (codecs : Codecs) (host : Host) (answers : ProcessAnswers) : Option Json :=
  if (host.extracted answers).1 ≠ 0 then none
  else host.manager.loadMetadata codecs answers (host.extracted answers).2

/-- A package that gets as far as `tar` is decided by its metadata. -/
theorem processSwPackage_eq (codecs : Codecs) (host : Host) (answers : ProcessAnswers)
    {id : TransferIdType} {info : PackageInfoType}
    (found : host.manager.pendingTransfers.find? id = some info)
    (staged : host.manager.stagedPackagePath ≠ []) :
    host.processSwPackage codecs answers id =
      match host.metadata? codecs answers with
      | none => .ok (.error .packageMalformed, ⟨idle host.manager, (host.extracted answers).2⟩)
      | some metadata => stageBinary codecs.values { host.manager with state := .processing }
          (host.extracted answers).2 metadata := by
  have passed : host.processSwPackage codecs answers id =
      if (host.extracted answers).1 ≠ 0 then
        .ok (.error .packageMalformed, ⟨idle host.manager, (host.extracted answers).2⟩)
      else match host.manager.loadMetadata codecs answers (host.extracted answers).2 with
        | none => .ok (.error .packageMalformed, ⟨idle host.manager, (host.extracted answers).2⟩)
        | some metadata => stageBinary codecs.values { host.manager with state := .processing }
            (host.extracted answers).2 metadata := by
    simp only [processSwPackage, found]
    exact if_neg staged
  rw [passed]
  unfold metadata?
  by_cases status : (host.extracted answers).1 = 0
  · rw [if_neg (not_not.mpr status), if_neg (not_not.mpr status)]
  · rw [if_pos status, if_pos status]

theorem processSwPackage_ne_undefined (codecs : Codecs) (host : Host) (answers : ProcessAnswers)
    (id : TransferIdType) : host.processSwPackage codecs answers id ≠ .error .undefined := by
  cases found : host.manager.pendingTransfers.find? id with
  | none => simp [processSwPackage, found]
  | some info =>
    by_cases staged : host.manager.stagedPackagePath = []
    · simp [processSwPackage, found, staged]
    · rw [processSwPackage_eq codecs host answers found staged]
      cases host.metadata? codecs answers with
      | none => simp
      | some metadata =>
        apply bind_ne_undefined (binaryName_ne_undefined codecs.values metadata)
        intro name
        split_ifs
        · exact fun h => by cases h
        · exact fun h => by cases h

end Host

/-! ## Activation -/

/-- One round of the copy loop: how many bytes `read` would return, if it does not fail, and whether
`write` takes them. -/
structure CopyRound where
  read : Option ℕ
  writes : Bool

structure ActivateAnswers where
  opensSource : Bool
  opensTemporary : Bool
  round : ℕ → CopyRound
  renames : Bool
  loadsEntry : Bool
  loadsManifest : Bool
  saves : Bool
  sync : SaveAnswers

/-- The loop over a buffer of 65536 bytes; a `read` inside the file returns at least one byte. -/
def copyLoop (round : ℕ → CopyRound) (i : ℕ) (rest copied : Bytes) : Bool × Bytes :=
  match (round i).read with
  | none => (false, copied)
  | some n =>
    if rest = [] then (true, copied)
    else if !(round i).writes then (false, copied)
    else
      let count := max 1 (min n 65536)
      copyLoop round (i + 1) (rest.drop count) (copied ++ rest.take count)
termination_by rest.length
decreasing_by
  have := List.length_pos_iff.mpr ‹_›
  rw [List.length_drop]
  omega

def temporaryBinary (dstBin : Bytes) : Bytes := dstBin ++ text ".ucm_tmp"

/-- Step 1: the binary is copied to a temporary file, which is renamed. -/
def installBinary (answers : ActivateAnswers) (srcBin dstBin : Bytes) (files : Files) :
    Bool × Files :=
  let tmpBin := cStr (temporaryBinary dstBin)
  match if answers.opensSource then files (cStr srcBin) else none with
  | none => (false, files)
  | some _ =>
    if !answers.opensTemporary then (false, files)
    else
      let truncated := files.put tmpBin []
      let (copyOk, copied) := copyLoop answers.round 0 ((truncated (cStr srcBin)).getD []) []
      let written := truncated.put tmpBin copied
      if copyOk && answers.renames then (true, written.rename tmpBin (cStr dstBin))
      else (false, written.remove tmpBin)

/-- Step 3: the process entry of the package goes into the execution manifest. -/
def updateManifest (codecs : Codecs) (answers : ActivateAnswers)
    (extractDir executionManifestPath : Bytes) (files : Files) : Bool × Files :=
  match codecs.xml.loadFile answers.loadsEntry (extractDir ++ text "/manifest/process_entry.xml")
      files with
  | none => (false, files)
  | some procDoc =>
    match codecs.xml.loadFile answers.loadsManifest executionManifestPath files with
    | none => (false, files)
    | some manifestDoc =>
      match injectProcess procDoc manifestDoc with
      | none => (false, files)
      | some document =>
        if !answers.saves then (false, files)
        else (true, files.put (cStr executionManifestPath) (codecs.xml.save document))

namespace Host

/-- Step 4: the first pending transfer is registered; a failed synchronisation is not reported. -/
def updateRegistry (codecs : Codecs) (answers : ActivateAnswers) (host : Host) : Host :=
  match host.manager.registry, host.manager.pendingTransfers.begin? with
  | some registry, some (_, info) =>
    let registry := registry.setValue info.name info.version
    { manager := { host.manager with registry := some registry }
      files := (registry.syncToStorage codecs.json answers.sync host.files).2 }
  | _, _ => host

def srcBin (host : Host) : Bytes :=
  host.manager.extractDir ++ text "/bin/" ++ host.manager.stagedBinaryName

def dstBin (host : Host) (installRoot : Bytes) : Bytes :=
  installRoot ++ text "/" ++ host.manager.stagedBinaryName

def activate (codecs : Codecs) (host : Host) (answers : ActivateAnswers)
    (installRoot executionManifestPath : Bytes) : Except UcmErrc Unit × Host :=
  if host.manager.stagedBinaryName = [] then (.error .activationFailed, host)
  else
    let manager := { host.manager with state := .activating }
    match installBinary answers host.srcBin (host.dstBin installRoot) host.files with
    | (false, files) => (.error .activationFailed, ⟨idle manager, files⟩)
    | (true, files) =>
      match updateManifest codecs answers manager.extractDir executionManifestPath files with
      | (false, files) => (.error .activationFailed, ⟨idle manager, files⟩)
      | (true, files) =>
        let updated := updateRegistry codecs answers { manager, files }
        (.ok (), { updated with manager := { updated.manager with state := .activated } })

theorem activate_eq (codecs : Codecs) (host : Host) (answers : ActivateAnswers)
    (installRoot executionManifestPath : Bytes) (named : host.manager.stagedBinaryName ≠ []) :
    host.activate codecs answers installRoot executionManifestPath =
      match installBinary answers host.srcBin (host.dstBin installRoot) host.files with
      | (false, files) => (.error .activationFailed, ⟨idle host.manager, files⟩)
      | (true, files) =>
        match updateManifest codecs answers host.manager.extractDir executionManifestPath files with
        | (false, files) => (.error .activationFailed, ⟨idle host.manager, files⟩)
        | (true, files) =>
          let updated := updateRegistry codecs answers
            ⟨{ host.manager with state := .activating }, files⟩
          (.ok (), { updated with manager := { updated.manager with state := .activated } }) :=
  if_neg named

end Host

/-- The clusters the registry lists; the declared size is not kept. -/
def PackageManager.getSwClusterInfo (manager : PackageManager) : List PackageInfoType :=
  match manager.registry with
  | none => []
  | some registry => registry.getAllKeys.map fun key =>
      { name := key, version := (registry.getValue key).toOption.getD [], size := 0 }

/-! ## Requests -/

inductive Request where
  | transferStart (info : PackageInfoType)
  | transferData (id : TransferIdType) (block : Bytes) (blockCounter : UInt32)
  | transferExit (id : TransferIdType) (answers : ExitAnswers)
  | processSwPackage (id : TransferIdType) (answers : ProcessAnswers)
  | activate (installRoot executionManifestPath : Bytes) (answers : ActivateAnswers)
  | reset

inductive Response where
  | transferId (id : TransferIdType)
  | done
  | failed (code : UcmErrc)
  deriving DecidableEq, Repr

def Response.ofResult : Except UcmErrc Unit → Response
  | .ok _ => done
  | .error code => failed code

namespace Host

def step (codecs : Codecs) (host : Host) : Request → Outcome (Response × Host)
  | .transferStart info =>
    let (result, manager) := host.manager.transferStart info
    let response := match result with
      | .ok id => Response.transferId id
      | .error code => Response.failed code
    .ok (response, { host with manager })
  | .transferData id block blockCounter =>
    let (result, manager) := host.manager.transferData id block blockCounter
    .ok (.ofResult result, { host with manager })
  | .transferExit id answers =>
    let (result, host) := host.transferExit answers id
    .ok (.ofResult result, host)
  | .processSwPackage id answers => do
    let (result, host) ← host.processSwPackage codecs answers id
    pure (.ofResult result, host)
  | .activate installRoot executionManifestPath answers =>
    let (result, host) := host.activate codecs answers installRoot executionManifestPath
    .ok (.ofResult result, host)
  | .reset => .ok (.done, { host with manager := host.manager.reset })

end Host
end AdaptiveAutosar.Ucm
