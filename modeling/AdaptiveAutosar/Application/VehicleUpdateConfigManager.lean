import AdaptiveAutosar.Foundations.Paths
import AdaptiveAutosar.PackageManagement.Agreement
import AdaptiveAutosar.PackageManagement.Disconnect
import AdaptiveAutosar.Ucm.Confinement

/-! # An update from the package file to the installed binary

`application::platform::VehicleUpdateConfigManager::Run` over the proxy, the skeleton and the package
manager. A call that gets no response in time is the last one of `Run`, so that no late response is
there for another call.
-/

namespace AdaptiveAutosar.Application
open Foundations AdaptiveAutosar.Per AdaptiveAutosar.Ucm AdaptiveAutosar.PackageManagement
set_option autoImplicit false

/-- What the operating system answers to the handler of a call, and what becomes of the messages: the request
reaches the skeleton, and its response comes before the timeout. -/
structure CallAnswers where
  answers : PackageManagementSkeleton.Answers
  reaches : Bool
  inTime : Bool

def CallAnswers.Answered (env : CallAnswers) : Prop := env.reaches = true ∧ env.inTime = true

/-- What `Run` finds on its own disk and behind its calls. `read` is how many bytes a `read` would return, if
it does not fail. -/
structure UpdateAnswers where
  stat : Option UInt64
  opens : Bool
  package : Bytes
  read : ℕ → Option ℕ
  start : CallAnswers
  data : ℕ → CallAnswers
  exit : CallAnswers
  process : CallAnswers
  activate : CallAnswers

structure VehicleUpdateConfigManager where
  packagePath : Bytes
  installRoot : Bytes
  manifestPath : Bytes
  deriving DecidableEq, Repr

namespace VehicleUpdateConfigManager

/-! ## The name of the package -/

def baseName (path : Bytes) : Bytes := (path.reverse.takeWhile (· ≠ Path.slash)).reverse

/-- The first suffix that the name ends in, and does not consist of, is taken off. -/
def stripSuffix : List Bytes → Bytes → Bytes
  | [], name => name
  | suffix :: others, name =>
    if suffix.length < name.length ∧ name.drop (name.length - suffix.length) = suffix then
      name.take (name.length - suffix.length)
    else stripSuffix others name

def packageName (manager : VehicleUpdateConfigManager) : Bytes :=
  stripSuffix [text ".swpkg.tar.gz", text ".tar.gz", text ".gz"] (baseName manager.packagePath)

/-! ## The calls -/

/-- A call through the proxy. An exception in the handler ends the server, which then answers nothing. -/
def call (codecs : Codecs) (env : CallAnswers) (host : Host) (call : PackageManagement.Call) :
    Outcome (Returned × Host) := do
  let (response, host) :=
    if env.reaches then
      match
        PackageManagementSkeleton.handler codecs call.method env.answers (PackageManagementProxy.request call) host with
      | .ok (response, host) => (if env.inTime then some response else none, host)
      | .error _ => (none, host)
    else (none, host)
  let returned ← PackageManagementProxy.result call.method response
  pure (returned, host)

/-- The loop over the package file, with `_readError`. -/
def transferLoop (codecs : Codecs) (env : UpdateAnswers) (id : TransferIdType) (i : ℕ) (rest : Bytes)
    (blockCounter : UInt32) (host : Host) : Outcome (Bool × Host) :=
  match env.read i with
  | none => .ok (true, host)
  | some n =>
    if rest = [] then .ok (false, host)
    else do
      let count := max 1 (min n 65536)
      let (returned, host) ← call codecs (env.data i) host (.transferData id (rest.take count) blockCounter)
      if returned = .done then transferLoop codecs env id (i + 1) (rest.drop count) (blockCounter + 1) host
      else .ok (true, host)
termination_by rest.length
decreasing_by
  have := List.length_pos_iff.mpr ‹_›
  rw [List.length_drop]
  omega

/-- `TransferExit`, `ProcessSwPackage` and `Activate`. -/
def finish (codecs : Codecs) (manager : VehicleUpdateConfigManager) (env : UpdateAnswers) (id : TransferIdType)
    (host : Host) : Outcome (ℤ × Host) := do
  let (returned, host) ← call codecs env.exit host (.transferExit id)
  if returned ≠ .done then return (1, host)
  let (returned, host) ← call codecs env.process host (.processSwPackage id)
  if returned ≠ .done then return (1, host)
  let (returned, host) ← call codecs env.activate host (.activate manager.installRoot manager.manifestPath)
  if returned ≠ .done then return (1, host)
  return (0, host)

def run (codecs : Codecs) (manager : VehicleUpdateConfigManager) (env : UpdateAnswers) (host : Host) :
    Outcome (ℤ × Host) :=
  match env.stat with
  | none => .ok (1, host)
  | some fileSize => do
    let info : PackageInfoType := ⟨manager.packageName, text "1.0.0", fileSize⟩
    let (returned, host) ← call codecs env.start host (.transferStart info)
    match returned with
    | .transferId id =>
      if !env.opens then return (1, host)
      let (readError, host) ← transferLoop codecs env id 0 env.package 1 host
      if readError then return (1, host)
      finish codecs manager env id host
    | _ => return (1, host)

/-! ## What a call does -/

variable {codecs : Codecs} {env : CallAnswers} {host host' : Host} {request : Request}
  {asked : PackageManagement.Call} {returned : Returned}

theorem answers_of_step {answers : PackageManagementSkeleton.Answers} {response : Response}
    (made : PackageManagementSkeleton.managerRequest answers asked = some request)
    (step : host.step codecs request = .ok (response, host')) :
    asked.method.Answers (PackageManagementSkeleton.replyOf response) ∧
      (PackageManagementSkeleton.replyOf response).Fits := by
  have effect := Host.step_effect step
  cases asked <;> cases made <;> cases effect <;> exact ⟨trivial, trivial⟩

theorem handler_of_step (codecs : Codecs) (host : Host) {answers : PackageManagementSkeleton.Answers}
    (fits : asked.Fits) (made : PackageManagementSkeleton.managerRequest answers asked = some request) :
    PackageManagementSkeleton.handler codecs asked.method answers (PackageManagementProxy.request asked) host =
      (host.step codecs request).map fun result =>
        (PackageManagementSkeleton.response (PackageManagementSkeleton.replyOf result.1), result.2) := by
  have extracted : PackageManagementSkeleton.arguments asked.method (PackageManagementProxy.request asked) 0 = _ :=
    asked.agrees_iff.mpr fits
  rw [PackageManagementSkeleton.handler_eq, PackageManagementSkeleton.handle, extracted]
  simp only [PackageManagementSkeleton.serve, made]
  cases host.step codecs request with
  | error fault => rfl
  | ok result => rfl

theorem result_none (method : Method) :
    PackageManagementProxy.result method none = .ok (.failed UcmErrc.activationFailed.code) := by
  cases method <;> rfl

/-- A call returns an error, or what the package manager has answered to its request. -/
theorem call_cases (codecs : Codecs) (env : CallAnswers) (host : Host)
    (fits : asked.Fits)
    (made : PackageManagementSkeleton.managerRequest env.answers asked = some request) :
    ∃ returned host', call codecs env host asked = .ok (returned, host') ∧
      ((∃ code, returned = .failed code) ∨ ∃ response, host.step codecs request = .ok (response, host') ∧
        returned = (PackageManagementSkeleton.replyOf response).returned) := by
  have handled := handler_of_step codecs host fits made
  cases reaches : env.reaches with
  | false =>
    refine ⟨.failed UcmErrc.activationFailed.code, host, ?_, .inl ⟨_, rfl⟩⟩
    simp only [call, reaches, Bool.false_eq_true, if_false, result_none]
    rfl
  | true =>
    cases step : host.step codecs request with
    | error fault =>
      rw [step] at handled
      refine ⟨.failed UcmErrc.activationFailed.code, host, ?_, .inl ⟨_, rfl⟩⟩
      simp only [call, reaches, if_true, handled, Except.map, result_none]
      rfl
    | ok result =>
      obtain ⟨response, host'⟩ := result
      rw [step] at handled
      cases inTime : env.inTime with
      | false =>
        refine ⟨.failed UcmErrc.activationFailed.code, host', ?_, .inl ⟨_, rfl⟩⟩
        simp only [call, reaches, if_true, handled, Except.map, inTime, Bool.false_eq_true, if_false, result_none]
        rfl
      | true =>
        obtain ⟨answers, fit⟩ := answers_of_step made step
        have agrees : PackageManagementProxy.result asked.method _ = _ := (Reply.agrees_iff answers).mpr fit
        refine ⟨_, host', ?_, .inr ⟨response, rfl, rfl⟩⟩
        simp only [call, reaches, if_true, handled, Except.map, inTime, agrees]
        rfl

theorem call_done (fits : asked.Fits)
    (made : PackageManagementSkeleton.managerRequest env.answers asked = some request)
    (called : call codecs env host asked = .ok (.done, host')) : host.step codecs request = .ok (.done, host') := by
  obtain ⟨returned, after, called', ⟨code, failed⟩ | ⟨response, step, answered⟩⟩ :=
    call_cases codecs env host fits made
  · cases called.symm.trans called'
    cases failed
  · cases called.symm.trans called'
    cases response with
    | transferId id => cases answered
    | done => exact step
    | failed code => cases answered

/-- A transfer is started in an idle manager only. -/
theorem transferStart_started {info : PackageInfoType} {id : TransferIdType} (fits : PackageInfoFits info)
    (called : call codecs env host (.transferStart info) = .ok (.transferId id, host')) :
    host.manager.state = .idle ∧ id = host.manager.nextId ∧ host' = ⟨host.manager.started info, host.files⟩ := by
  have fits' : (PackageManagement.Call.transferStart info).Fits := fits
  obtain ⟨returned, after, called', ⟨code, failed⟩ | ⟨response, step, answered⟩⟩ :=
    call_cases codecs env host fits' rfl
  · cases called.symm.trans called'
    cases failed
  · cases called.symm.trans called'
    have effect := Host.step_effect step
    cases effect with
    | startRefused busy => cases answered
    | started idle =>
      cases answered
      exact ⟨idle, rfl, rfl⟩

/-- A loop without an error has delivered the whole file. -/
theorem transferLoop_delivers {env : UpdateAnswers} {id : TransferIdType} {info : PackageInfoType} {i : ℕ}
    {rest : Bytes} {blockCounter : UInt32} (found : host.manager.pendingTransfers.find? id = some info)
    (looped : transferLoop codecs env id i rest blockCounter host = .ok (false, host')) :
    ∃ accumulatedData, host' = ⟨{ host.manager with accumulatedData }, host.files⟩ ∧
      host'.manager.received id = host.manager.received id ++ rest := by
  induction left : rest.length using Nat.strongRecOn generalizing i rest blockCounter host with
  | _ length ih =>
    unfold transferLoop at looped
    cases read : env.read i with
    | none =>
      rw [read] at looped
      cases looped
    | some n =>
      rw [read] at looped
      by_cases ended : rest = []
      · simp only [ended, if_true] at looped
        cases looped
        exact ⟨_, rfl, by rw [ended, List.append_nil]⟩
      · simp only [ended, if_false] at looped
        obtain ⟨⟨returned, next⟩, called, looped⟩ := bind_eq_ok.mp looped
        by_cases answered : returned = .done
        · simp only [answered, if_true] at looped
          cases answered
          have positive := List.length_pos_iff.mpr ended
          have fits : (PackageManagement.Call.transferData id (rest.take (max 1 (min n 65536))) blockCounter).Fits := by
            show (rest.take _).length < 2 ^ 32
            rw [List.length_take]
            omega
          have step := call_done fits rfl called
          have effect := Host.step_effect step
          cases effect with
          | data found' =>
            have shorter : (rest.drop (max 1 (min n 65536))).length < length := by
              rw [List.length_drop]
              omega
            obtain ⟨accumulatedData, after, received⟩ := ih _ shorter (by exact found) looped rfl
            refine ⟨accumulatedData, after, ?_⟩
            have appended : (host.manager.withBlock id (rest.take (max 1 (min n 65536)))).received id =
                host.manager.received id ++ rest.take (max 1 (min n 65536)) := by
              show ((host.manager.accumulatedData.insert id _).find? id).getD [] = _
              rw [OrderedMap.find?_insert, if_pos rfl, Option.getD_some]
            rw [received, appended, List.append_assoc, List.take_append_drop]
        · simp only [answered, if_false] at looped
          cases looped

/-! ## The name of a package is one component -/

/-- The arguments of the process are C strings that fit into a request. -/
structure Fits (manager : VehicleUpdateConfigManager) : Prop where
  clean : 0 ∉ manager.packagePath
  packagePath : manager.packagePath.length < 2 ^ 16
  installRoot : manager.installRoot.length < 2 ^ 16
  manifestPath : manager.manifestPath.length < 2 ^ 16

theorem slash_notMem_baseName (path : Bytes) : Path.slash ∉ baseName path := by
  intro there
  rw [baseName, List.mem_reverse] at there
  simpa using List.mem_takeWhile_imp there

theorem stripSuffix_sublist (suffixes : List Bytes) (name : Bytes) : (stripSuffix suffixes name).Sublist name := by
  induction suffixes with
  | nil => exact List.Sublist.refl _
  | cons suffix others ih =>
    unfold stripSuffix
    split_ifs
    · exact List.take_sublist _ _
    · exact ih

theorem baseName_sublist (path : Bytes) : (baseName path).Sublist path := by
  have taken : List.Sublist (path.reverse.takeWhile (· ≠ Path.slash)) path.reverse := List.takeWhile_sublist _
  have reversed := taken.reverse
  rwa [List.reverse_reverse] at reversed

theorem packageName_sublist (manager : VehicleUpdateConfigManager) :
    manager.packageName.Sublist manager.packagePath :=
  (stripSuffix_sublist _ _).trans (baseName_sublist _)

theorem slash_notMem_packageName (manager : VehicleUpdateConfigManager) : Path.slash ∉ manager.packageName :=
  fun there => slash_notMem_baseName _ ((stripSuffix_sublist _ _).subset there)

/-- A name without slashes that is longer than the two that are no names. -/
theorem single_of_longer {name : Bytes} (noSlash : Path.slash ∉ name) (longer : 3 ≤ name.length) :
    Path.Single name := by
  refine Path.single_of_slash_notMem noSlash ⟨?_, ?_, ?_⟩
  · exact fun same => by simp [same] at longer
  · exact fun same => by simp [same] at longer
  · exact fun same => by simp [same] at longer

/-- However the package file is called, its name is one file name. -/
theorem packageName_isOnePart {manager : VehicleUpdateConfigManager} (fits : manager.Fits) {root : Bytes}
    (clean : 0 ∉ root) (renamed : Prop) :
    IsOnePart root (manager.packageName ++ text ".swpkg.tar.gz") (text ".tmp") renamed := by
  have noZero : 0 ∉ manager.packageName ++ text ".swpkg.tar.gz" := by
    rw [List.mem_append, not_or]
    exact ⟨fun there => fits.clean ((packageName_sublist manager).subset there), by decide⟩
  have noSlash : Path.slash ∉ manager.packageName ++ text ".swpkg.tar.gz" := by
    rw [List.mem_append, not_or]
    exact ⟨slash_notMem_packageName manager, by decide⟩
  have longer : 13 ≤ (manager.packageName ++ text ".swpkg.tar.gz").length := by
    rw [List.length_append]
    exact Nat.le_add_left 13 _
  generalize manager.packageName ++ text ".swpkg.tar.gz" = name at noZero noSlash longer
  have noZeroTmp : 0 ∉ name ++ text ".tmp" := by
    rw [List.mem_append, not_or]
    exact ⟨noZero, by decide⟩
  have noSlashTmp : Path.slash ∉ name ++ text ".tmp" := by
    rw [List.mem_append, not_or]
    exact ⟨noSlash, by decide⟩
  refine ⟨clean, ?_, fun _ => ?_⟩
  · rw [cStr_of_notMem noZeroTmp]
    refine single_of_longer noSlashTmp ?_
    rw [List.length_append]
    omega
  · rw [cStr_of_notMem noZero]
    exact single_of_longer noSlash (by omega)

/-! ## What an update installs -/

/-- The states of the package manager's host on the way of an update: the package is stored, processed and
activated. -/
structure Installs (codecs : Codecs) (manager : VehicleUpdateConfigManager) (env : UpdateAnswers) (size : UInt64)
    (host stored processed host' : Host) : Prop where
  whole : env.package.length = size.toNat
  package : stored.files (cStr (host.manager.packagePath manager.packageName)) = some env.package
  staged : stored.manager.stagedPackagePath = host.manager.packagePath manager.packageName
  unpacked : processed.files = (stored.extracted env.process.answers.process).2
  binary : ∃ metadata, stored.metadata? codecs env.process.answers.process = some metadata ∧
    binaryName codecs.values metadata = .ok processed.manager.stagedBinaryName
  named : processed.manager.stagedBinaryName ≠ []
  completes : processed.Completes codecs env.activate.answers.activate manager.installRoot manager.manifestPath
  activates : processed.activate codecs env.activate.answers.activate manager.installRoot manager.manifestPath =
    (.ok (), host')
  registry : Option.Rel (Records ⟨manager.packageName, text "1.0.0", size⟩) host.manager.registry
    host'.manager.registry
  state : host'.manager.state = .activated

theorem exit_done {id : TransferIdType} {answers : ExitAnswers}
    (step : host.step codecs (.transferExit id answers) = .ok (.done, host')) :
    host.transferExit answers id = (.ok (), host') := by
  rcases exited : host.transferExit answers id with ⟨result, after⟩
  simp only [Host.step, exited] at step
  cases result with
  | error code => cases step
  | ok _ =>
    cases step
    rfl

theorem process_done {id : TransferIdType} {answers : ProcessAnswers}
    (step : host.step codecs (.processSwPackage id answers) = .ok (.done, host')) :
    host.processSwPackage codecs answers id = .ok (.ok (), host') := by
  obtain ⟨⟨result, after⟩, processed, step⟩ := bind_eq_ok.mp step
  cases result with
  | error code => cases step
  | ok _ =>
    cases step
    exact processed

theorem activate_done {installRoot manifestPath : Bytes} {answers : ActivateAnswers}
    (step : host.step codecs (.activate installRoot manifestPath answers) = .ok (.done, host')) :
    host.activate codecs answers installRoot manifestPath = (.ok (), host') := by
  rcases activated : host.activate codecs answers installRoot manifestPath with ⟨result, after⟩
  simp only [Host.step, activated] at step
  cases result with
  | error code => cases step
  | ok _ =>
    cases step
    rfl

/-- A session goes on after a successful call only. -/
theorem done_of_zero {next : Outcome (ℤ × Host)}
    (ended : (if returned ≠ .done then pure (1, host) else next) = .ok (0, host')) :
    returned = .done ∧ next = .ok (0, host') := by
  by_cases refused : returned ≠ .done
  · rw [if_pos refused] at ended
    cases ended
  · rw [if_neg refused] at ended
    exact ⟨not_not.mp refused, ended⟩

/-- A session that ends well has finished, processed and activated the transfer. -/
theorem finish_zero {manager : VehicleUpdateConfigManager} {env : UpdateAnswers} {id : TransferIdType}
    (fits : manager.Fits) (finished : finish codecs manager env id host = .ok (0, host')) :
    ∃ stored processed, host.transferExit env.exit.answers.exit id = (.ok (), stored) ∧
      stored.processSwPackage codecs env.process.answers.process id = .ok (.ok (), processed) ∧
      processed.activate codecs env.activate.answers.activate manager.installRoot manager.manifestPath =
        (.ok (), host') := by
  obtain ⟨⟨returned, stored⟩, exit, finished⟩ := bind_eq_ok.mp finished
  obtain ⟨rfl, finished⟩ := done_of_zero finished
  obtain ⟨⟨returned, processed⟩, process, finished⟩ := bind_eq_ok.mp finished
  obtain ⟨rfl, finished⟩ := done_of_zero finished
  obtain ⟨⟨returned, activated⟩, activate, finished⟩ := bind_eq_ok.mp finished
  obtain ⟨rfl, finished⟩ := done_of_zero finished
  cases finished
  have small : (PackageManagement.Call.activate manager.installRoot manager.manifestPath).Fits :=
    ⟨fits.installRoot, fits.manifestPath⟩
  exact ⟨stored, processed, exit_done (call_done (by exact trivial) rfl exit),
    process_done (call_done (by exact trivial) rfl process), activate_done (call_done small rfl activate)⟩

/-- A processed package has metadata that names its binary. -/
theorem processed_of_ok {id : TransferIdType} {info : PackageInfoType} {answers : ProcessAnswers}
    (found : host.manager.pendingTransfers.find? id = some info) (staged : host.manager.stagedPackagePath ≠ [])
    (processed : host.processSwPackage codecs answers id = .ok (.ok (), host')) :
    ∃ metadata name, host.metadata? codecs answers = some metadata ∧
      binaryName codecs.values metadata = .ok name ∧ name ≠ [] ∧
      host' = ⟨{ host.manager with state := .processing, stagedBinaryName := name }, (host.extracted answers).2⟩ := by
  rw [host.processSwPackage_eq codecs answers found staged] at processed
  cases metadata : host.metadata? codecs answers with
  | none =>
    rw [metadata] at processed
    cases processed
  | some found =>
    rw [metadata] at processed
    obtain ⟨name, names, processed⟩ := bind_eq_ok.mp processed
    by_cases empty : name = []
    · simp only [empty, if_true] at processed
      cases processed
    · simp only [empty, if_false] at processed
      cases processed
      exact ⟨found, name, rfl, names, empty, rfl⟩

theorem started_find? (server : PackageManager) (info : PackageInfoType) :
    (server.started info).pendingTransfers.find? server.nextId = some info := by
  show (server.pendingTransfers.insert server.nextId info).find? _ = _
  rw [OrderedMap.find?_insert, if_pos rfl]

theorem started_received (server : PackageManager) (info : PackageInfoType) :
    (server.started info).received server.nextId = [] := by
  show ((server.accumulatedData.insert server.nextId []).find? _).getD [] = _
  rw [OrderedMap.find?_insert, if_pos rfl, Option.getD_some]

theorem packagePath_ne_nil (server : PackageManager) (name : Bytes) : server.packagePath name ≠ [] := by
  rw [PackageManager.packagePath, List.append_assoc]
  exact List.append_ne_nil_of_right_ne_nil _ (List.append_ne_nil_of_left_ne_nil (by decide : text "/" ≠ []) _)

theorem filePath_of_rooted {server : PackageManager} {storage : FileStorage} (rooted : server.Rooted)
    (there : server.storage = some storage) (name : Bytes) :
    storage.filePath (name ++ text ".swpkg.tar.gz") = server.packagePath name := by
  rw [FileStorage.filePath, rooted storage there]
  rfl

/-- The package that a started transfer has received is stored, processed and activated. -/
theorem installs_of_received {manager : VehicleUpdateConfigManager} {env : UpdateAnswers} {size : UInt64}
    {sent : Host} (rooted : host.manager.Rooted) (available : host.manager.storage ≠ none)
    (alone : host.manager.pendingTransfers = .empty) (nonempty : size ≠ 0)
    (same : ∃ accumulatedData, sent = ⟨{ host.manager.started ⟨manager.packageName, text "1.0.0", size⟩ with
      accumulatedData }, host.files⟩)
    (received : sent.manager.received host.manager.nextId = env.package)
    {stored processed : Host} (exit : sent.transferExit env.exit.answers.exit host.manager.nextId = (.ok (), stored))
    (process : stored.processSwPackage codecs env.process.answers.process host.manager.nextId =
      .ok (.ok (), processed))
    (activated : processed.activate codecs env.activate.answers.activate manager.installRoot manager.manifestPath =
      (.ok (), host')) :
    Installs codecs manager env size host stored processed host' := by
  let info : PackageInfoType := ⟨manager.packageName, text "1.0.0", size⟩
  obtain ⟨accumulatedData, rfl⟩ := same
  have only : (host.manager.started info).pendingTransfers.entries = [(host.manager.nextId, info)] := by
    show (host.manager.pendingTransfers.insert host.manager.nextId info).entries = _
    rw [alone]
    rfl
  have pending : (host.manager.started info).pendingTransfers.find? host.manager.nextId = some info :=
    started_find? host.manager info
  obtain ⟨-, refused⟩ | ⟨length, ⟨missing, -⟩ | ⟨storage, there, ⟨-, saved⟩ | ⟨-, _, refused, -⟩⟩⟩ :=
    Host.transferExit_sized ⟨{ host.manager.started info with accumulatedData }, host.files⟩ env.exit.answers.exit
      pending (by exact nonempty)
  · cases exit.symm.trans refused
  · exact absurd missing available
  · cases exit.symm.trans saved
    obtain ⟨metadata, name, loaded, names, named, same⟩ :=
      processed_of_ok pending (by exact packagePath_ne_nil host.manager _) process
    obtain ⟨unnamed, -⟩ | ⟨-, ⟨-, failed⟩ | ⟨-, -, failed⟩ | ⟨-, -, -, failed⟩ | ⟨completes, files, done⟩⟩ :=
      Host.activate_cases codecs processed env.activate.answers.activate manager.installRoot manager.manifestPath
    · rw [same] at unnamed
      exact absurd unnamed named
    · cases activated.symm.trans failed
    · cases activated.symm.trans failed
    · cases activated.symm.trans failed
    · cases activated.symm.trans done
      subst same
      exact
        { whole := by rw [← received]; exact length
          package := by
            rw [filePath_of_rooted rooted there, received]
            exact FileStore.replaceVia_target _ _ _ _
          staged := rfl
          unpacked := rfl
          binary := ⟨metadata, loaded, names⟩
          named
          completes
          activates := activated
          registry := recorded_of_single only
          state := rfl }
  · cases exit.symm.trans refused

theorem packageInfo_fits {manager : VehicleUpdateConfigManager} (fits : manager.Fits) (size : UInt64) :
    PackageInfoFits ⟨manager.packageName, text "1.0.0", size⟩ :=
  ⟨(packageName_sublist manager).length_le.trans_lt fits.packagePath, (by decide : (text "1.0.0").length < 2 ^ 16)⟩

/-- A session that returns success has the whole package stored, directly inside the storage root in every tree
in which nothing else stands under the name of its temporary file, unpacked, its binary installed, and the
package registered and activated. -/
theorem run_installs (codecs : Codecs) {manager : VehicleUpdateConfigManager} {env : UpdateAnswers} {size : UInt64}
    {host host' : Host} (fits : manager.Fits) (rooted : host.manager.Rooted)
    (available : host.manager.storage ≠ none) (alone : host.manager.pendingTransfers = .empty)
    (found : env.stat = some size) (nonempty : size ≠ 0) (ran : run codecs manager env host = .ok (0, host')) :
    ∃ stored processed, Installs codecs manager env size host stored processed host' ∧
      ∀ tree, 0 ∉ host.manager.storageRoot →
        Vacant tree host.manager.storageRoot (manager.packageName ++ text ".swpkg.tar.gz" ++ text ".tmp") →
        WritesInside tree host.manager.storageRoot (host.manager.packagePath manager.packageName) (text ".tmp") True := by
  have named := packageInfo_fits fits size
  simp only [run, found] at ran
  obtain ⟨⟨returned, begun⟩, start, ran⟩ := bind_eq_ok.mp ran
  cases returned with
  | transferId id =>
    obtain ⟨-, rfl, rfl⟩ := transferStart_started named start
    cases opens : env.opens with
    | false =>
      simp only [opens, Bool.not_false, if_true] at ran
      cases ran
    | true =>
      simp only [opens, Bool.not_true, Bool.false_eq_true, if_false] at ran
      obtain ⟨⟨readError, sent⟩, looped, ran⟩ := bind_eq_ok.mp ran
      cases readError with
      | true => cases ran
      | false =>
        obtain ⟨stored, processed, exit, process, activate⟩ := finish_zero fits ran
        obtain ⟨accumulatedData, same, received⟩ :=
          transferLoop_delivers (by exact started_find? host.manager _) looped
        have whole : sent.manager.received host.manager.nextId = env.package := by
          rw [received]
          exact congrArg (· ++ env.package) (started_received host.manager _)
        exact ⟨stored, processed, installs_of_received rooted available alone nonempty ⟨accumulatedData, same⟩ whole
          exit process activate, fun tree clean vacant => (writesInside_iff_leadsBack _ _ _ _ _).mpr
            ((isOnePart_iff_leadsBack _ _ _ _).mp (packageName_isOnePart fits clean True) tree vacant)⟩
  | _ => cases ran

/-! ## An update in which nothing fails -/

/-- The package manager's host once the package is stored. -/
def stored (manager : VehicleUpdateConfigManager) (env : UpdateAnswers) (host : Host) : Host :=
  ⟨host.manager.withPackage manager.packageName, host.files.replaceVia
    (cStr (host.manager.packagePath manager.packageName ++ text ".tmp"))
    (cStr (host.manager.packagePath manager.packageName)) env.package⟩

/-- The host once the package is unpacked and the name of its binary read. -/
def processed (manager : VehicleUpdateConfigManager) (env : UpdateAnswers) (host : Host) (binary : Bytes) : Host :=
  ⟨{ (stored manager env host).manager with stagedBinaryName := binary },
    ((stored manager env host).extracted env.process.answers.process).2⟩

/-- The package can be read, every call is answered, the manager is idle and stores the package, and the package
unpacks to a binary that can be installed. -/
structure Healthy (codecs : Codecs) (manager : VehicleUpdateConfigManager) (env : UpdateAnswers) (host : Host)
    (size : UInt64) (binary : Bytes) : Prop where
  fits : manager.Fits
  found : env.stat = some size
  nonempty : size ≠ 0
  whole : env.package.length = size.toNat
  opens : env.opens = true
  reads : ∀ i, (env.read i).isSome = true
  start : env.start.Answered
  data : ∀ i, (env.data i).Answered
  exit : env.exit.Answered
  process : env.process.Answered
  activate : env.activate.Answered
  idle : host.manager.state = .idle
  rooted : host.manager.Rooted
  available : host.manager.storage ≠ none
  saves : env.exit.answers.exit.save.allSucceed = true
  metadata : ∃ metadata, (stored manager env host).metadata? codecs env.process.answers.process = some metadata ∧
    binaryName codecs.values metadata = .ok binary
  named : binary ≠ []
  completes : (processed manager env host binary).Completes codecs env.activate.answers.activate manager.installRoot
    manager.manifestPath

/-- An answered call returns what the package manager has answered. -/
theorem call_answered {response : Response} (answered : env.Answered) (fits : asked.Fits)
    (made : PackageManagementSkeleton.managerRequest env.answers asked = some request)
    (step : host.step codecs request = .ok (response, host')) :
    call codecs env host asked = .ok ((PackageManagementSkeleton.replyOf response).returned, host') := by
  have handled := handler_of_step codecs host fits made
  rw [step] at handled
  obtain ⟨answers, fit⟩ := answers_of_step made step
  have agrees : PackageManagementProxy.result asked.method _ = _ := (Reply.agrees_iff answers).mpr fit
  simp only [call, answered.1, answered.2, if_true, handled, Except.map, agrees]
  rfl

/-- A file that can be read is sent to its end. -/
theorem transferLoop_ends {env : UpdateAnswers} {id : TransferIdType} {info : PackageInfoType} {i : ℕ}
    {rest : Bytes} {blockCounter : UInt32} (reads : ∀ i, (env.read i).isSome = true)
    (data : ∀ i, (env.data i).Answered) (found : host.manager.pendingTransfers.find? id = some info) :
    ∃ host', transferLoop codecs env id i rest blockCounter host = .ok (false, host') := by
  induction left : rest.length using Nat.strongRecOn generalizing i rest blockCounter host with
  | _ length ih =>
    obtain ⟨n, read⟩ := Option.isSome_iff_exists.mp (reads i)
    unfold transferLoop
    simp only [read]
    by_cases ended : rest = []
    · exact ⟨host, if_pos ended⟩
    · have positive := List.length_pos_iff.mpr ended
      have fits : (PackageManagement.Call.transferData id (rest.take (max 1 (min n 65536))) blockCounter).Fits := by
        show (rest.take _).length < 2 ^ 32
        rw [List.length_take]
        omega
      have shorter : (rest.drop (max 1 (min n 65536))).length < length := by
        rw [List.length_drop]
        omega
      have step : host.step codecs (.transferData id (rest.take (max 1 (min n 65536))) blockCounter) =
          .ok (.done, ⟨host.manager.withBlock id (rest.take (max 1 (min n 65536))), host.files⟩) := by
        obtain ⟨missing, -⟩ | ⟨info', -, sent⟩ := host.manager.transferData_cases id
          (rest.take (max 1 (min n 65536))) blockCounter
        · rw [missing] at found
          cases found
        · simp only [Host.step, sent]
          rfl
      have called := call_answered (data i) fits rfl step
      have looped : ∃ host', transferLoop codecs env id (i + 1) (rest.drop (max 1 (min n 65536))) (blockCounter + 1)
          ⟨host.manager.withBlock id (rest.take (max 1 (min n 65536))), host.files⟩ = .ok (false, host') :=
        ih _ shorter (by exact found) rfl
      rw [if_neg ended, called]
      exact looped

theorem finish_succeeds {manager : VehicleUpdateConfigManager} {env : UpdateAnswers} {id : TransferIdType}
    {stored processed : Host} (fits : manager.Fits) (answersExit : env.exit.Answered)
    (answersProcess : env.process.Answered) (answersActivate : env.activate.Answered)
    (exit : host.transferExit env.exit.answers.exit id = (.ok (), stored))
    (process : stored.processSwPackage codecs env.process.answers.process id = .ok (.ok (), processed))
    (activate : processed.activate codecs env.activate.answers.activate manager.installRoot manager.manifestPath =
      (.ok (), host')) :
    finish codecs manager env id host = .ok (0, host') := by
  have exited : host.step codecs (.transferExit id env.exit.answers.exit) = .ok (.done, stored) := by
    simp only [Host.step, exit]
    rfl
  have processes : stored.step codecs (.processSwPackage id env.process.answers.process) = .ok (.done, processed) := by
    simp only [Host.step, process]
    rfl
  have activates : processed.step codecs (.activate manager.installRoot manager.manifestPath
      env.activate.answers.activate) = .ok (.done, host') := by
    simp only [Host.step, activate]
    rfl
  have small : (PackageManagement.Call.activate manager.installRoot manager.manifestPath).Fits :=
    ⟨fits.installRoot, fits.manifestPath⟩
  have first : call codecs env.exit host (.transferExit id) = .ok (.done, stored) :=
    call_answered answersExit (by exact trivial) rfl exited
  have second : call codecs env.process stored (.processSwPackage id) = .ok (.done, processed) :=
    call_answered answersProcess (by exact trivial) rfl processes
  have third : call codecs env.activate processed (.activate manager.installRoot manager.manifestPath) =
      .ok (.done, host') := call_answered answersActivate small rfl activates
  simp only [finish, first, second, third, bind, Except.bind, ne_eq, not_true, if_false]
  rfl

/-- The package behind a finished transfer of a healthy update is processed and activated. -/
theorem Healthy.goes_on {manager : VehicleUpdateConfigManager} {env : UpdateAnswers} {size : UInt64} {binary : Bytes}
    {sent : Host} (healthy : Healthy codecs manager env host size binary)
    (same : ∃ accumulatedData, sent = ⟨{ host.manager.started ⟨manager.packageName, text "1.0.0", size⟩ with
      accumulatedData }, host.files⟩)
    (received : sent.manager.received host.manager.nextId = env.package) :
    ∃ stored processed host', sent.transferExit env.exit.answers.exit host.manager.nextId = (.ok (), stored) ∧
      stored.processSwPackage codecs env.process.answers.process host.manager.nextId = .ok (.ok (), processed) ∧
      processed.activate codecs env.activate.answers.activate manager.installRoot manager.manifestPath =
        (.ok (), host') := by
  obtain ⟨accumulatedData, rfl⟩ := same
  have pending : (host.manager.started ⟨manager.packageName, text "1.0.0", size⟩).pendingTransfers.find?
      host.manager.nextId = some ⟨manager.packageName, text "1.0.0", size⟩ := started_find? host.manager _
  obtain ⟨short, -⟩ | ⟨-, ⟨missing, -⟩ | ⟨storage, there, ⟨-, saved⟩ | ⟨fails, -⟩⟩⟩ :=
    Host.transferExit_sized ⟨{ host.manager.started ⟨manager.packageName, text "1.0.0", size⟩ with
      accumulatedData }, host.files⟩ env.exit.answers.exit pending (by exact healthy.nonempty)
  · rw [received] at short
    exact absurd healthy.whole short
  · exact absurd missing healthy.available
  · rw [received, filePath_of_rooted healthy.rooted there] at saved
    obtain ⟨metadata, loaded, names⟩ := healthy.metadata
    let kept : Host := ⟨{ host.manager.started ⟨manager.packageName, text "1.0.0", size⟩ with
      accumulatedData, stagedPackagePath := host.manager.packagePath manager.packageName },
      (stored manager env host).files⟩
    let unpacked : Host := ⟨{ kept.manager with state := .processing, stagedBinaryName := binary },
      (kept.extracted env.process.answers.process).2⟩
    have metadata' : kept.metadata? codecs env.process.answers.process = some metadata := loaded
    have process : kept.processSwPackage codecs env.process.answers.process host.manager.nextId =
        .ok (.ok (), unpacked) := by
      rw [Host.processSwPackage_eq codecs _ _ pending (by exact packagePath_ne_nil host.manager _), metadata']
      simp only [Host.stageBinary, names]
      exact if_neg healthy.named
    have completes : unpacked.Completes codecs env.activate.answers.activate manager.installRoot manager.manifestPath :=
      ⟨healthy.completes.opens, healthy.completes.copies, healthy.completes.updates⟩
    obtain ⟨files, activate⟩ := Host.activate_of_completes (by exact healthy.named) completes
    exact ⟨kept, unpacked, _, saved, process, activate⟩
  · rw [healthy.saves] at fails
    cases fails

/-- The session of a healthy update, with the calls behind its transfer. -/
theorem Healthy.session {manager : VehicleUpdateConfigManager} {env : UpdateAnswers} {size : UInt64}
    {binary : Bytes} (healthy : Healthy codecs manager env host size binary) :
    ∃ sent stored processed host' : Host, run codecs manager env host = .ok (0, host') ∧
      (∃ accumulatedData, sent = ⟨{ host.manager.started ⟨manager.packageName, text "1.0.0", size⟩ with
        accumulatedData }, host.files⟩) ∧
      sent.manager.received host.manager.nextId = env.package ∧
      sent.transferExit env.exit.answers.exit host.manager.nextId = (.ok (), stored) ∧
      stored.processSwPackage codecs env.process.answers.process host.manager.nextId = .ok (.ok (), processed) ∧
      processed.activate codecs env.activate.answers.activate manager.installRoot manager.manifestPath =
        (.ok (), host') := by
  obtain ⟨busy, -⟩ | ⟨-, started⟩ := host.manager.transferStart_cases ⟨manager.packageName, text "1.0.0", size⟩
  · exact absurd healthy.idle busy
  have step : host.step codecs (.transferStart ⟨manager.packageName, text "1.0.0", size⟩) =
      .ok (.transferId host.manager.nextId,
        ⟨host.manager.started ⟨manager.packageName, text "1.0.0", size⟩, host.files⟩) := by
    simp only [Host.step, started]
  have fits : (PackageManagement.Call.transferStart ⟨manager.packageName, text "1.0.0", size⟩).Fits :=
    packageInfo_fits healthy.fits size
  have called := call_answered healthy.start fits rfl step
  have pending := started_find? host.manager ⟨manager.packageName, text "1.0.0", size⟩
  obtain ⟨sent, looped⟩ : ∃ sent, transferLoop codecs env host.manager.nextId 0 env.package 1
      ⟨host.manager.started ⟨manager.packageName, text "1.0.0", size⟩, host.files⟩ = .ok (false, sent) :=
    transferLoop_ends healthy.reads healthy.data (by exact pending)
  obtain ⟨accumulatedData, same, received⟩ := transferLoop_delivers (by exact pending) looped
  have whole : sent.manager.received host.manager.nextId = env.package := by
    rw [received]
    exact congrArg (· ++ env.package) (started_received host.manager _)
  obtain ⟨stored, processed, host', exit, process, activate⟩ := healthy.goes_on ⟨accumulatedData, same⟩ whole
  refine ⟨sent, stored, processed, host', ?_, ⟨accumulatedData, same⟩, whole, exit, process, activate⟩
  have finished := finish_succeeds healthy.fits healthy.exit healthy.process healthy.activate exit process activate
  simp only [run, healthy.found, called, bind, Except.bind, PackageManagementSkeleton.replyOf, Reply.returned,
    healthy.opens, Bool.not_true, Bool.false_eq_true, if_false, looped]
  exact finished

/-- An update in which nothing fails returns success and installs the package. -/
theorem healthy_update_installs (codecs : Codecs) {manager : VehicleUpdateConfigManager} {env : UpdateAnswers}
    {host : Host} {size : UInt64} {binary : Bytes} (alone : host.manager.pendingTransfers = .empty)
    (healthy : Healthy codecs manager env host size binary) :
    ∃ stored processed host', run codecs manager env host = .ok (0, host') ∧
      Installs codecs manager env size host stored processed host' := by
  obtain ⟨sent, stored, processed, host', ran, same, received, exit, process, activate⟩ := healthy.session
  exact ⟨stored, processed, host', ran, installs_of_received healthy.rooted healthy.available alone healthy.nonempty
    same received exit process activate⟩

/-! ## The package of two bytes -/

def sampleManager : VehicleUpdateConfigManager := ⟨text "/p/app-1.0.0.swpkg.tar.gz", text "/i", text "/m"⟩

def sampleCall : CallAnswers := ⟨PackageManagementSkeleton.sampleAnswers, true, true⟩

def sampleUpdate : UpdateAnswers :=
  ⟨some 2, true, [1, 2], fun _ => some 65536, sampleCall, fun _ => sampleCall, sampleCall, sampleCall, sampleCall⟩

theorem sampleManager_fits : sampleManager.Fits := ⟨by decide, by decide, by decide, by decide⟩

theorem sampleHost_rooted : sampleHost.manager.Rooted := PackageManager.make_rooted _ _ _ _ _

theorem sample_healthy : Healthy sampleCodecs sampleManager sampleUpdate sampleHost 2 (text "app") where
  fits := sampleManager_fits
  found := rfl
  nonempty := by decide
  whole := rfl
  opens := rfl
  reads := fun _ => rfl
  start := ⟨rfl, rfl⟩
  data := fun _ => ⟨rfl, rfl⟩
  exit := ⟨rfl, rfl⟩
  process := ⟨rfl, rfl⟩
  activate := ⟨rfl, rfl⟩
  idle := rfl
  rooted := sampleHost_rooted
  available := nofun
  saves := rfl
  metadata := ⟨_, rfl, rfl⟩
  named := by decide
  completes := ⟨⟨rfl, rfl, rfl⟩, ⟨copyLoop_reliable (fun _ => ⟨rfl, rfl⟩) _ _ _, rfl⟩,
    ⟨rfl, ⟨[.element (text "PROCESSES") [] []], rfl, rfl⟩, rfl⟩⟩

theorem healthy_update_installs_sample : ∃ stored processed host',
    run sampleCodecs sampleManager sampleUpdate sampleHost = .ok (0, host') ∧
      Installs sampleCodecs sampleManager sampleUpdate 2 sampleHost stored processed host' :=
  healthy_update_installs sampleCodecs rfl sample_healthy

theorem run_installs_sample : ∃ host', run sampleCodecs sampleManager sampleUpdate sampleHost = .ok (0, host') ∧
    ∃ stored processed, Installs sampleCodecs sampleManager sampleUpdate 2 sampleHost stored processed host' := by
  obtain ⟨_, _, _, host', ran, -⟩ := sample_healthy.session
  obtain ⟨stored, processed, installs, -⟩ := run_installs sampleCodecs sampleManager_fits sampleHost_rooted nofun rfl
    rfl (by decide) ran
  exact ⟨host', ran, stored, processed, installs⟩

end VehicleUpdateConfigManager
end AdaptiveAutosar.Application
