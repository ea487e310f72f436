import AdaptiveAutosar.Ucm.Sessions

/-! # Reassembling a package from its blocks

A package is split into blocks with consecutive counters, and `TransferData` delivers them in some
order, with repetitions and gaps. The manager appends what arrives; `TransferExit` compares the
length with the declared one.
-/

namespace AdaptiveAutosar.Ucm
open Foundations AdaptiveAutosar.Per
set_option autoImplicit false

variable {codecs : Codecs}

/-! ## The storage of a package manager -/

/-- The file storage, if there is one, is at the manager's own root. -/
def PackageManager.Rooted (manager : PackageManager) : Prop :=
  ∀ storage, manager.storage = some storage → storage.storageRoot = manager.storageRoot

theorem PackageManager.make_rooted (codecs : Codecs) (storageRoot : Bytes) (available opens : Bool)
    (files : Files) : (PackageManager.make codecs storageRoot available opens files).Rooted := by
  intro storage h
  cases available with
  | false => cases h
  | true =>
    cases h
    rfl

theorem Host.step_storage {host host' : Host} {request : Request} {response : Response}
    (step : host.step codecs request = .ok (response, host')) :
    host'.manager.storage = host.manager.storage ∧
      host'.manager.storageRoot = host.manager.storageRoot := by
  cases Host.step_effect step <;> exact ⟨rfl, rfl⟩

theorem PackageManager.Rooted.step {host host' : Host} {request : Request} {response : Response}
    (rooted : host.manager.Rooted) (taken : host.step codecs request = .ok (response, host')) :
    host'.manager.Rooted := by
  obtain ⟨storage, root⟩ := Host.step_storage taken
  intro s hs
  rw [storage] at hs
  rw [root]
  exact rooted s hs

theorem rooted_of_run {storageRoot : Bytes} {available opens : Bool} {files : Files}
    {trace : List (Taken Host Request Response)} {host : Host}
    (run : Run (Host.step codecs) (Host.boot codecs storageRoot available opens files) trace host) :
    host.manager.Rooted := by
  induction run with
  | start => exact PackageManager.make_rooted codecs storageRoot available opens files
  | next run taken ih => exact ih.step taken

/-! ## A transfer -/

/-- The `TransferData` calls that deliver the blocks of `order`, each with its counter. -/
def PackageManager.deliver (manager : PackageManager) (id : TransferIdType) (blocks : List Bytes)
    (first : UInt32) (order : List (Fin blocks.length)) : PackageManager :=
  order.foldl (fun manager i =>
    (manager.transferData id (blocks.get i) (first + UInt32.ofNat i.val)).2) manager

def Host.transfer (host : Host) (info : PackageInfoType) (blocks : List Bytes) (first : UInt32)
    (order : List (Fin blocks.length)) (answers : ExitAnswers) : Except UcmErrc Unit × Host :=
  match host.manager.transferStart info with
  | (.error code, manager) => (.error code, { host with manager })
  | (.ok id, manager) =>
    Host.transferExit { host with manager := manager.deliver id blocks first order } answers id

/-- Either the package is stored, each block once and in the order of the counters, or an error is
returned and there is no file that was not there before. -/
def Host.Reassembles (host : Host) (info : PackageInfoType) (blocks : List Bytes) (first : UInt32)
    (order : List (Fin blocks.length)) (answers : ExitAnswers) : Prop :=
  match host.transfer info blocks first order answers with
  | (.ok _, host') => host'.files (cStr (host.manager.packagePath info.name)) = some blocks.flatten
  | (.error _, host') =>
    ∀ path content, host'.files path = some content → host.files path = some content

def delivered (blocks : List Bytes) (order : List (Fin blocks.length)) : Bytes :=
  (order.map blocks.get).flatten

/-- The transfer is refused, the delivered blocks do not have the declared length, or they are the
package in the order they arrive in (unless the storage refuses the file; without a storage the
package would have to be there already). -/
def Host.InOrder (host : Host) (info : PackageInfoType) (blocks : List Bytes)
    (order : List (Fin blocks.length)) (answers : ExitAnswers) : Prop :=
  host.manager.state ≠ .idle ∨ (delivered blocks order).length ≠ info.size.toNat ∨
    match host.manager.storage with
    | none => host.files (cStr (host.manager.packagePath info.name)) = some blocks.flatten
    | some _ => answers.save.allSucceed = true → delivered blocks order = blocks.flatten

/-- Blocks are appended in the order they arrive in; the counters play no part. -/
theorem PackageManager.deliver_eq (manager : PackageManager) {id : TransferIdType}
    {info : PackageInfoType} (found : manager.pendingTransfers.find? id = some info)
    (blocks : List Bytes) (first : UInt32) (order : List (Fin blocks.length)) :
    ∃ accumulatedData, manager.deliver id blocks first order = { manager with accumulatedData } ∧
      (manager.deliver id blocks first order).received id =
        manager.received id ++ delivered blocks order := by
  induction order generalizing manager with
  | nil => exact ⟨manager.accumulatedData, rfl, (List.append_nil _).symm⟩
  | cons i order ih =>
    obtain ⟨missing, -⟩ | ⟨info', -, data⟩ := manager.transferData_cases id (blocks.get i)
      (first + UInt32.ofNat i.val)
    · rw [missing] at found
      cases found
    · have step : manager.deliver id blocks first (i :: order) =
          (manager.withBlock id (blocks.get i)).deliver id blocks first order := by
        show PackageManager.deliver (manager.transferData _ _ _).2 id blocks first order = _
        rw [data]
      have appended : (manager.withBlock id (blocks.get i)).received id =
          manager.received id ++ blocks.get i := by
        show ((manager.accumulatedData.insert id _).find? id).getD [] = _
        rw [OrderedMap.find?_insert, if_pos rfl, Option.getD_some]
      obtain ⟨accumulatedData, members, received⟩ := ih (manager.withBlock id (blocks.get i)) found
      rw [step]
      refine ⟨accumulatedData, members, ?_⟩
      rw [received, appended, List.append_assoc]
      rfl

/-- An accepted transfer ends with a `TransferExit` over the delivered bytes. -/
theorem Host.transfer_of_idle (host : Host) (idle : host.manager.state = .idle) (info : PackageInfoType)
    (blocks : List Bytes) (first : UInt32) (order : List (Fin blocks.length)) (answers : ExitAnswers) :
    ∃ filled : PackageManager,
      host.transfer info blocks first order answers =
        Host.transferExit ⟨filled, host.files⟩ answers host.manager.nextId ∧
      filled.pendingTransfers.find? host.manager.nextId = some info ∧
      filled.received host.manager.nextId = delivered blocks order ∧
      filled.storage = host.manager.storage := by
  obtain ⟨busy, -⟩ | ⟨-, start⟩ := host.manager.transferStart_cases info
  · exact absurd idle busy
  have found : (host.manager.started info).pendingTransfers.find? host.manager.nextId = some info := by
    show (host.manager.pendingTransfers.insert host.manager.nextId info).find? _ = _
    rw [OrderedMap.find?_insert, if_pos rfl]
  have empty : (host.manager.started info).received host.manager.nextId = [] := by
    show ((host.manager.accumulatedData.insert host.manager.nextId []).find? _).getD [] = _
    rw [OrderedMap.find?_insert, if_pos rfl, Option.getD_some]
  obtain ⟨accumulatedData, members, received⟩ :=
    (host.manager.started info).deliver_eq found blocks first order
  rw [empty, List.nil_append] at received
  refine ⟨(host.manager.started info).deliver host.manager.nextId blocks first order, ?_, ?_, received,
    ?_⟩
  · unfold Host.transfer
    rw [start]
  · rw [members]
    exact found
  · rw [members]
    rfl

/-- In every reachable state, a transfer of a package that declares a size reassembles it exactly
when what is delivered is in order. -/
theorem reassembles_iff_inOrder (codecs : Codecs) (storageRoot : Bytes) (available opens : Bool)
    (files : Files) {trace : List (Taken Host Request Response)} {host : Host}
    (run : Run (Host.step codecs) (Host.boot codecs storageRoot available opens files) trace host)
    (info : PackageInfoType) (nonempty : info.size ≠ 0) (blocks : List Bytes) (first : UInt32)
    (order : List (Fin blocks.length)) (answers : ExitAnswers) :
    host.Reassembles info blocks first order answers ↔ host.InOrder info blocks order answers := by
  unfold Host.Reassembles Host.InOrder
  by_cases idle : host.manager.state = .idle
  · obtain ⟨filled, transfer, found, received, storage⟩ :=
      host.transfer_of_idle idle info blocks first order answers
    rw [transfer]
    obtain ⟨short, exit⟩ | ⟨full, ⟨missing, exit⟩ | ⟨fileStorage, there, ⟨succeeds, exit⟩ |
        ⟨fails, files', exit, kept⟩⟩⟩ :=
      Host.transferExit_sized ⟨filled, host.files⟩ answers found nonempty
    · rw [exit]
      rw [received] at short
      exact iff_of_true (fun path content stored => stored) (Or.inr (Or.inl short))
    · rw [exit]
      rw [received] at full
      rw [storage] at missing
      simp only [missing, idle, full, ne_eq, not_true, false_or]
    · rw [exit]
      rw [received] at full
      rw [storage] at there
      simp only [there, idle, full, succeeds, ne_eq, not_true, false_or, true_implies]
      have path : fileStorage.filePath (info.name ++ text ".swpkg.tar.gz") =
          host.manager.packagePath info.name := by
        unfold FileStorage.filePath PackageManager.packagePath
        rw [rooted_of_run run fileStorage there]
      rw [path, FileStore.replaceVia_target, received, Option.some.injEq]
    · rw [exit]
      rw [storage] at there
      refine iff_of_true kept (Or.inr (Or.inr ?_))
      rw [there]
      intro succeeds
      rw [fails] at succeeds
      cases succeeds
  · obtain ⟨-, start⟩ | ⟨accepted, -⟩ := host.manager.transferStart_cases info
    · unfold Host.transfer
      rw [start]
      exact iff_of_true (fun path content stored => stored) (Or.inl idle)
    · exact absurd accepted idle

/-! ## Two blocks of one byte -/

def sampleBlocks : List Bytes := [[1], [2]]

def sampleExit : ExitAnswers := ⟨true, ⟨true, true, true⟩⟩

theorem reassembles_iff_inOrder_sample :
    sampleHost.Reassembles sampleInfo sampleBlocks 0 [⟨0, by decide⟩, ⟨1, by decide⟩] sampleExit :=
  (reassembles_iff_inOrder sampleCodecs (text "/s") true true _ .start sampleInfo (by decide)
    sampleBlocks 0 [⟨0, by decide⟩, ⟨1, by decide⟩] sampleExit).mpr (Or.inr (Or.inr fun _ => rfl))

/-- The first block sent twice and the second never: the length is right, the stored package is not. -/
theorem not_always_reassembles : ¬ ∀ (codecs : Codecs) (storageRoot : Bytes) (available opens : Bool)
    (files : Files) (trace : List (Taken Host Request Response)) (host : Host),
    Run (Host.step codecs) (Host.boot codecs storageRoot available opens files) trace host →
      ∀ (info : PackageInfoType), info.size ≠ 0 → ∀ (blocks : List Bytes) (first : UInt32)
        (order : List (Fin blocks.length)) (answers : ExitAnswers),
        host.Reassembles info blocks first order answers := by
  intro always
  have stored := always sampleCodecs (text "/s") true true _ [] sampleHost .start sampleInfo (by decide)
    sampleBlocks 0 [⟨0, by decide⟩, ⟨0, by decide⟩] sampleExit
  have wrong : (some [1, 1] : Option Bytes) = some [1, 2] := stored
  cases wrong

end AdaptiveAutosar.Ucm
