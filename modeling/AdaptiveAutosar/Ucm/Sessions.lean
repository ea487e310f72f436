import AdaptiveAutosar.Ucm.Calls

/-! # Update sessions

Runs of requests from a new package manager: when `kIdle` means that nothing is left of a session,
and whose package an activation installs and registers.
-/

namespace AdaptiveAutosar.Ucm
open Foundations AdaptiveAutosar.Per
set_option autoImplicit false

variable {codecs : Codecs}

/-- An idle manager keeps nothing of a session, and no two transfers are pending. -/
structure PackageManager.Consistent (manager : PackageManager) : Prop where
  idle : manager.state = .idle → manager.pendingTransfers.size = 0 ∧
    manager.accumulatedData.size = 0 ∧ manager.stagedPackagePath = [] ∧ manager.stagedBinaryName = []
  single : manager.pendingTransfers.size ≤ 1

/-- The request does not take an exit of `ProcessSwPackage` or `Activate` that resets the status. -/
def Host.Completing (codecs : Codecs) (host : Host) : Request → Prop
  | .processSwPackage id answers => ¬ host.Rejects id → ¬ host.Malformed codecs answers
  | .activate installRoot executionManifestPath answers => host.manager.stagedBinaryName ≠ [] →
      host.Completes codecs answers installRoot executionManifestPath
  | _ => True

namespace PackageManager.Consistent
variable {manager : PackageManager}

theorem make (codecs : Codecs) (storageRoot : Bytes) (available opens : Bool) (files : Files) :
    (PackageManager.make codecs storageRoot available opens files).Consistent :=
  ⟨fun _ => ⟨rfl, rfl, rfl, rfl⟩, Nat.zero_le 1⟩

theorem reset (manager : PackageManager) : manager.reset.Consistent :=
  ⟨fun _ => ⟨rfl, rfl, rfl, rfl⟩, Nat.zero_le 1⟩

theorem busy (h : manager.Consistent) {id : TransferIdType} {info : PackageInfoType}
    (pending : manager.pendingTransfers.find? id = some info) : manager.state ≠ .idle := by
  intro idle
  rw [OrderedMap.find?_of_size_zero (h.idle idle).1] at pending
  cases pending

theorem started (h : manager.Consistent) (idle : manager.state = .idle) (info : PackageInfoType) :
    (manager.started info).Consistent := by
  refine ⟨?_, ?_⟩
  · intro again
    cases again
  · have single := OrderedMap.insert_of_size_zero (h.idle idle).1 manager.nextId info
    show ((manager.pendingTransfers.insert manager.nextId info).entries.length ≤ 1)
    rw [single]
    exact Nat.le_refl 1

end PackageManager.Consistent

theorem consistent_step (host : Host) (request : Request) (response : Response) (host' : Host)
    (h : host.manager.Consistent) (completing : host.Completing codecs request)
    (step : host.step codecs request = .ok (response, host')) : host'.manager.Consistent := by
  cases Host.step_effect step with
  | startRefused busy => exact h
  | started idle => exact h.started idle _
  | dataRefused => exact h
  | data found => exact ⟨fun idle => absurd idle (h.busy found), h.single⟩
  | exitFailed => exact h
  | exited found => exact ⟨fun idle => absurd idle (h.busy found), h.single⟩
  | processRefused rejects => exact h
  | malformed found accepts malformed kept => exact absurd malformed (completing accepts)
  | processed found accepts intact named =>
    exact ⟨fun idle => UpdateStateType.noConfusion idle, h.single⟩
  | activateRefused unnamed => exact h
  | activateFailed named incomplete => exact absurd (completing named) incomplete
  | activated named completes => exact ⟨fun idle => UpdateStateType.noConfusion idle, h.single⟩
  | reset => exact PackageManager.Consistent.reset host.manager

/-- Every other request leaves an idle manager with a transfer or a binary of its session. -/
theorem inconsistent_step (host : Host) (request : Request) (response : Response) (host' : Host)
    (completing : ¬ host.Completing codecs request)
    (step : host.step codecs request = .ok (response, host')) : ¬ host'.manager.Consistent := by
  intro h
  cases Host.step_effect step with
  | processRefused rejects => exact completing fun accepts => absurd rejects accepts
  | malformed found accepts malformed kept =>
    -- the transfer is still pending
    exact h.busy found rfl
  | processed found accepts intact named => exact completing fun _ => intact
  | activateRefused unnamed => exact completing fun named => absurd unnamed named
  | activateFailed named incomplete =>
    -- the binary is still staged
    exact named (h.idle rfl).2.2.2
  | activated named completes => exact completing fun _ => completes
  | _ => exact completing trivial

/-- A new package manager and the files it finds. -/
def Host.boot (codecs : Codecs) (storageRoot : Bytes) (available opens : Bool) (files : Files) : Host :=
  ⟨PackageManager.make codecs storageRoot available opens files, files⟩

/-- From a new package manager, a run stays consistent exactly when all its requests complete. -/
theorem consistent_iff_completing (codecs : Codecs) (storageRoot : Bytes) (available opens : Bool)
    (files : Files) {trace : List (Taken Host Request Response)} {host : Host}
    (run : Run (Host.step codecs) (Host.boot codecs storageRoot available opens files) trace host) :
    Run.Throughout (fun host => host.manager.Consistent) trace host ↔
      Run.Every (Host.Completing codecs) trace := by
  refine Run.throughout_iff ?_ consistent_step inconsistent_step run
  exact PackageManager.Consistent.make codecs storageRoot available opens files

/-! ## A package of two bytes -/

def sampleMetadata : Bytes := text "\x7b\"binary_name\": \"app\"\x7d"

/-- The libraries on the few texts that occur here. -/
def sampleCodecs : Codecs where
  json :=
    { parseFromStream := fun content =>
        if content = sampleMetadata then some (.object [(text "binary_name", .string (text "app"))])
        else none
      write := fun _ => text "\x7b\n  \"app-1.0.0\" : \"1.0.0\"\n\x7d" }
  values := .plain
  xml :=
    { load := fun content =>
        if content = text "<PROCESS/>" then some [.element (text "PROCESS") [] []]
        else if content = text "<PROCESSES/>" then some [.element (text "PROCESSES") [] []]
        else none
      save := fun _ => text "<?xml version=\"1.0\"?>\n<PROCESSES>\n\t<PROCESS />\n</PROCESSES>\n" }

def sampleHost : Host :=
  Host.boot sampleCodecs (text "/s") true true
    fun path => if path = text "/m" then some (text "<PROCESSES/>") else none

def sampleInfo : PackageInfoType := ⟨text "app-1.0.0", text "1.0.0", 2⟩

/-- `tar` unpacks the package. -/
def unpacked : ProcessAnswers where
  system := fun _ files =>
    (0, ((files.put (text "/s/staging/metadata.json") sampleMetadata).put
      (text "/s/staging/bin/app") [7]).put
      (text "/s/staging/manifest/process_entry.xml") (text "<PROCESS/>"))
  opensMetadata := true

/-- `tar` finds no archive. -/
def notUnpacked : ProcessAnswers := ⟨fun _ files => (2, files), true⟩

/-- The transfer of the package, and the processing of it. -/
def sampleTransfer (answers : ProcessAnswers) : List Request :=
  [.transferStart sampleInfo, .transferData 1 [1, 2] 0,
    .transferExit 1 ⟨true, ⟨true, true, true⟩⟩, .processSwPackage 1 answers]

/-- A package that unpacks keeps every state consistent. -/
theorem consistent_iff_completing_sample : ∃ trace host,
    Run.play (Host.step sampleCodecs) [] sampleHost (sampleTransfer unpacked) = .ok (trace, host) ∧
      Run.Throughout (fun host => host.manager.Consistent) trace host := by
  refine ⟨_, _, rfl, (consistent_iff_completing sampleCodecs (text "/s") true true _
    (Run.of_play .start (rfl : Run.play _ [] sampleHost (sampleTransfer unpacked) = _))).mpr ?_⟩
  refine Run.every_cons.mpr ⟨?_, Run.every_cons.mpr ⟨trivial, Run.every_cons.mpr ⟨trivial,
    Run.every_cons.mpr ⟨trivial, Run.every_nil _⟩⟩⟩⟩
  rintro - (missing | ⟨metadata, found, empty⟩)
  · cases missing
  · cases found
    cases empty

/-- A package that does not unpack leaves the manager idle with its transfer still pending. -/
theorem not_always_consistent : ¬ ∀ (codecs : Codecs) (storageRoot : Bytes) (available opens : Bool)
    (files : Files) (trace : List (Taken Host Request Response)) (host : Host),
    Run (Host.step codecs) (Host.boot codecs storageRoot available opens files) trace host →
      Run.Throughout (fun host => host.manager.Consistent) trace host := by
  intro always
  obtain ⟨trace, host, played, idle, pending⟩ : ∃ trace host,
      Run.play (Host.step sampleCodecs) [] sampleHost (sampleTransfer notUnpacked) = .ok (trace, host) ∧
        host.manager.state = .idle ∧ host.manager.pendingTransfers.size = 1 := ⟨_, _, rfl, rfl, rfl⟩
  obtain ⟨consistent, -⟩ := always sampleCodecs _ _ _ _ trace host (Run.of_play .start played)
  have empty := (consistent.idle idle).1
  omega

end AdaptiveAutosar.Ucm
