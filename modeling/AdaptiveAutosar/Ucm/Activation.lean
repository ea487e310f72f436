import AdaptiveAutosar.Ucm.Provenance

/-! # Activation and its three artefacts

`Activate` replaces the installed binary, then the execution manifest, then the registry. Every exit
after the first replacement reports an error without undoing it: there is no rollback.
-/

namespace AdaptiveAutosar.Ucm
open Foundations AdaptiveAutosar.Per
set_option autoImplicit false

variable {codecs : Codecs}

namespace Host

def registryPath (host : Host) : Bytes := host.manager.storageRoot ++ text "/ucm_registry.json"

/-- The paths of the installed binary, of the execution manifest and of the registry. -/
def artefacts (host : Host) (installRoot executionManifestPath : Bytes) : Set Bytes :=
  {cStr (host.dstBin installRoot), cStr executionManifestPath, cStr host.registryPath}

theorem dstBin_mem_artefacts (host : Host) (installRoot executionManifestPath : Bytes) :
    cStr (host.dstBin installRoot) ∈ host.artefacts installRoot executionManifestPath :=
  Set.mem_insert _ _

/-- An activation that reports an error leaves the artefacts and the registry as they were. -/
def AllOrNothing (codecs : Codecs) (host : Host) (answers : ActivateAnswers)
    (installRoot executionManifestPath : Bytes) : Prop :=
  ∀ code host', host.activate codecs answers installRoot executionManifestPath = (.error code, host') →
    Set.EqOn host'.files host.files (host.artefacts installRoot executionManifestPath) ∧
      host'.manager.registry = host.manager.registry

/-- No step after the temporary file is made fails, or the failure does no harm: up to the renaming,
when the temporary path is no artefact that is there; after it, when moreover the very binary was
installed already. -/
def Spared (codecs : Codecs) (host : Host) (answers : ActivateAnswers)
    (installRoot executionManifestPath : Bytes) : Prop :=
  host.manager.stagedBinaryName ≠ [] → host.OpensBinary answers →
    (¬ host.CopiesBinary answers installRoot →
      host.tmpPath installRoot ∈ host.artefacts installRoot executionManifestPath →
        host.files (host.tmpPath installRoot) = none) ∧
    (host.CopiesBinary answers installRoot →
      ¬ host.UpdatesManifest codecs answers installRoot executionManifestPath →
        host.files (cStr (host.dstBin installRoot)) =
            some (stagedContent host.srcBin (host.dstBin installRoot) host.files) ∧
          (host.tmpPath installRoot ∈ host.artefacts installRoot executionManifestPath →
            host.tmpPath installRoot ≠ cStr (host.dstBin installRoot) →
              host.files (host.tmpPath installRoot) = none))

/-- What an error leaves decides whether the activation was all or nothing. -/
theorem allOrNothing_of_error {answers : ActivateAnswers} {installRoot executionManifestPath : Bytes}
    {host : Host} {code : UcmErrc} {files : Files}
    (h : host.activate codecs answers installRoot executionManifestPath =
      (.error code, ⟨idle host.manager, files⟩)) :
    host.AllOrNothing codecs answers installRoot executionManifestPath ↔
      Set.EqOn files host.files (host.artefacts installRoot executionManifestPath) := by
  constructor
  · intro all
    exact (all code _ h).1
  · intro same code' host' h'
    rw [h] at h'
    cases h'
    exact ⟨same, rfl⟩

/-- An activation is all or nothing exactly when no failure comes too late to be harmless. -/
theorem allOrNothing_iff_spared (codecs : Codecs) (host : Host) (answers : ActivateAnswers)
    (installRoot executionManifestPath : Bytes) :
    host.AllOrNothing codecs answers installRoot executionManifestPath ↔
      host.Spared codecs answers installRoot executionManifestPath := by
  obtain ⟨unnamed, activate⟩ | ⟨named, ⟨opens, activate⟩ | ⟨opens, copies, activate⟩ |
      ⟨opens, copies, updates, activate⟩ | ⟨completes, files, activate⟩⟩ :=
    host.activate_cases codecs answers installRoot executionManifestPath
  · refine iff_of_true ?_ fun named => absurd unnamed named
    intro code host' h
    rw [activate] at h
    cases h
    exact ⟨Set.eqOn_refl _ _, rfl⟩
  · rw [allOrNothing_of_error activate]
    exact iff_of_true (Set.eqOn_refl _ _) fun _ h => absurd h opens
  · rw [allOrNothing_of_error activate, FileStore.eqOn_remove_iff]
    constructor
    · intro absent _ _
      exact ⟨fun _ => absent, fun h => absurd h copies⟩
    · intro spared
      exact (spared named opens).1 copies
  · rw [allOrNothing_of_error activate]
    unfold installed
    rw [FileStore.eqOn_replaceVia_iff _ _ _ _
      (host.dstBin_mem_artefacts installRoot executionManifestPath)]
    constructor
    · intro same _ _
      exact ⟨fun h => absurd copies h, fun _ _ => same⟩
    · intro spared
      exact (spared named opens).2 copies updates
  · refine iff_of_true ?_ fun _ _ => ⟨fun h => absurd completes.copies h, fun _ h => absurd completes.updates h⟩
    intro code host' h
    rw [activate] at h
    cases h

end Host

/-- The package of two bytes, activated with a manifest that is not there: the binary stays. -/
theorem not_always_allOrNothing : ¬ ∀ (codecs : Codecs) (storageRoot : Bytes) (available opens : Bool)
    (files : Files) (trace : List Call) (host : Host) (answers : ActivateAnswers)
    (installRoot executionManifestPath : Bytes),
    Run (Host.step codecs) (Host.boot codecs storageRoot available opens files) trace host →
      host.AllOrNothing codecs answers installRoot executionManifestPath := by
  intro always
  have run : Run (Host.step sampleCodecs) sampleHost (sampleRun (sampleTransfer unpacked)).1
      (sampleRun (sampleTransfer unpacked)).2 :=
    Run.of_play .start (rfl : Run.play _ [] sampleHost (sampleTransfer unpacked) = _)
  have all := always _ _ _ _ _ _ _ sampleActivation (text "/i") (text "/none") run
  obtain ⟨unnamed, -⟩ | ⟨-, ⟨opens, -⟩ | ⟨-, copies, -⟩ | ⟨-, -, -, activate⟩ | ⟨completes, -⟩⟩ :=
    Host.activate_cases sampleCodecs (sampleRun (sampleTransfer unpacked)).2 sampleActivation
      (text "/i") (text "/none")
  · cases unnamed
  · exact opens ⟨rfl, rfl, rfl⟩
  · exact copies ⟨copyLoop_reliable (fun _ => ⟨rfl, rfl⟩) _ _ _, rfl⟩
  · have same := (all _ _ activate).1 (Host.dstBin_mem_artefacts _ _ _)
    have installed : (some [7] : Option Bytes) = none := same
    cases installed
  · obtain ⟨manifestDoc, manifest, -⟩ := completes.updates.manifest
    cases manifest

end AdaptiveAutosar.Ucm
