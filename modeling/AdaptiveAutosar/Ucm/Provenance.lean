import AdaptiveAutosar.Ucm.Sessions

/-! # Where an activated package comes from

The trace of a run says which transfer was started, finished, processed and activated. An activation
is legitimate when it installs the package of the newest `ProcessSwPackage`, which succeeded on a
finished transfer and was not activated since, and registers exactly that transfer.
-/

namespace AdaptiveAutosar.Ucm
open Foundations AdaptiveAutosar.Per
set_option autoImplicit false

abbrev Call := Taken Host Request Response

variable {codecs : Codecs} {trace : List Call} {call : Call} {id : TransferIdType}
  {info : PackageInfoType}

/-! ## What the trace says -/

def Call.Starts (id : TransferIdType) (call : Call) : Prop :=
  ∃ info, call.input = .transferStart info ∧ call.output = .transferId id

def Call.Finishes (id : TransferIdType) (call : Call) : Prop :=
  ∃ answers, call.input = .transferExit id answers ∧ call.output = .done

def Call.IsProcess (call : Call) : Prop :=
  ∃ id answers, call.input = .processSwPackage id answers

def Call.Activates (call : Call) : Prop :=
  ∃ installRoot executionManifestPath answers,
    call.input = .activate installRoot executionManifestPath answers ∧ call.output = .done

/-- The identifier belongs to the transfer started with `info`. -/
def Started (trace : List Call) (id : TransferIdType) (info : PackageInfoType) : Prop :=
  ∃ newer start older, Newest (Call.Starts id) trace newer start older ∧
    start.input = .transferStart info

/-- That transfer was finished by a `TransferExit`. -/
def Finished (trace : List Call) (id : TransferIdType) (info : PackageInfoType) : Prop :=
  ∃ newer start older, Newest (Call.Starts id) trace newer start older ∧
    start.input = .transferStart info ∧ ∃ exit ∈ newer, Call.Finishes id exit

/-- The newest `ProcessSwPackage` succeeded, on a finished transfer, and nothing was activated since. -/
def Awaiting (trace : List Call) (id : TransferIdType) (info : PackageInfoType) : Prop :=
  ∃ newer process older, Newest Call.IsProcess trace newer process older ∧
    (∃ answers, process.input = .processSwPackage id answers) ∧ process.output = .done ∧
    (∀ later ∈ newer, ¬ Call.Activates later) ∧ Finished older id info

/-- The registry gains the name and the version of one transfer and is otherwise the same. -/
structure Records (info : PackageInfoType) (before after : KeyValueStorage) : Prop where
  path : after.storagePath = before.storagePath
  values : ∀ key, after.root.find? key =
    if key = info.name then some (.string info.version) else before.root.find? key

/-- What a successful activation has to be, after the calls of `trace`. -/
def Legitimate (trace : List Call) (host host' : Host) : Prop :=
  ∃ id info, Awaiting trace id info ∧
    Option.Rel (Records info) host.manager.registry host'.manager.registry

theorem Started.cons (h : Started trace id info) (other : ¬ call.Starts id) :
    Started (call :: trace) id info := by
  obtain ⟨newer, start, older, newest, input⟩ := h
  exact ⟨_, start, older, newest.cons other, input⟩

theorem Finished.cons (h : Finished trace id info) (other : ¬ call.Starts id) :
    Finished (call :: trace) id info := by
  obtain ⟨newer, start, older, newest, input, exit, member, finishes⟩ := h
  exact ⟨_, start, older, newest.cons other, input, exit, List.mem_cons_of_mem _ member, finishes⟩

theorem Started.finish (h : Started trace id info) (finishes : call.Finishes id) :
    Finished (call :: trace) id info := by
  obtain ⟨newer, start, older, newest, input⟩ := h
  have other : ¬ call.Starts id := by
    rintro ⟨info', starts, -⟩
    obtain ⟨answers, exits, -⟩ := finishes
    rw [exits] at starts
    cases starts
  exact ⟨_, start, older, newest.cons other, input, call, List.mem_cons_self, finishes⟩

theorem Awaiting.cons (h : Awaiting trace id info) (process : ¬ call.IsProcess)
    (activates : ¬ call.Activates) : Awaiting (call :: trace) id info := by
  obtain ⟨newer, processed, older, newest, input, output, since, finished⟩ := h
  exact ⟨_, processed, older, newest.cons process, input, output,
    List.forall_mem_cons.mpr ⟨activates, since⟩, finished⟩

/-! ## The condition on the requests -/

/-- A binary is staged and not activated. -/
def Host.AwaitsActivation (host : Host) : Prop :=
  host.manager.stagedBinaryName ≠ [] ∧ host.manager.state ≠ .activated

/-- No transfer is started beside one that is left over; `ProcessSwPackage` is not rejected while a
binary awaits its activation, and finds a malformed package only when no binary is staged; what is
activated is not activated again. -/
def Host.Orderly (codecs : Codecs) (host : Host) : Request → Prop
  | .transferStart _ => host.manager.state = .idle → host.manager.pendingTransfers.size = 0
  | .processSwPackage id answers =>
    (host.Rejects id → ¬ host.AwaitsActivation) ∧
      (¬ host.Rejects id → host.Malformed codecs answers → host.manager.stagedBinaryName = [])
  | .activate _ _ _ => host.manager.state ≠ .activated
  | _ => True

/-! ## The members follow the trace -/

/-- What the members know of the calls so far. -/
structure Follows (trace : List Call) (manager : PackageManager) : Prop where
  empty : manager.pendingTransfers.size = 0 →
    manager.stagedPackagePath = [] ∧ manager.stagedBinaryName = []
  pending : manager.pendingTransfers.size = 0 ∨
    ∃ id info, manager.pendingTransfers.entries = [(id, info)] ∧ Started trace id info
  path : manager.stagedPackagePath ≠ [] → ∀ id info,
    manager.pendingTransfers.entries = [(id, info)] → Finished trace id info
  binary : manager.stagedBinaryName ≠ [] → manager.state ≠ .activated → ∀ id info,
    manager.pendingTransfers.entries = [(id, info)] → Awaiting trace id info

namespace Follows
variable {manager manager' : PackageManager}

theorem of_empty (trace : List Call) (size : manager.pendingTransfers.size = 0)
    (path : manager.stagedPackagePath = []) (binary : manager.stagedBinaryName = []) :
    Follows trace manager :=
  ⟨fun _ => ⟨path, binary⟩, Or.inl size, fun h => absurd path h, fun h => absurd binary h⟩

theorem single (h : Follows trace manager) (found : manager.pendingTransfers.find? id = some info) :
    manager.pendingTransfers.entries = [(id, info)] ∧ Started trace id info := by
  obtain size | ⟨id', info', entries, started⟩ := h.pending
  · rw [OrderedMap.find?_of_size_zero size] at found
    cases found
  · unfold OrderedMap.find? at found
    rw [entries] at found
    by_cases same : id = id'
    · subst same
      rw [OrderedMap.findEntry, if_pos rfl] at found
      cases found
      exact ⟨entries, started⟩
    · rw [OrderedMap.findEntry, if_neg same] at found
      cases found

/-- A call that starts no transfer and leaves the pending ones: what it stages it has to account for. -/
theorem next (h : Follows trace manager) (quiet : ∀ id, ¬ call.Starts id)
    (same : manager'.pendingTransfers = manager.pendingTransfers)
    (path : manager'.stagedPackagePath ≠ [] → manager.stagedPackagePath ≠ [] ∨
      ∃ id info, manager.pendingTransfers.find? id = some info ∧ call.Finishes id)
    (binary : manager'.stagedBinaryName ≠ [] → manager.pendingTransfers.size ≠ 0 ∧
      (manager'.state ≠ .activated → ∀ id info, manager.pendingTransfers.entries = [(id, info)] →
        Awaiting (call :: trace) id info)) :
    Follows (call :: trace) manager' := by
  refine ⟨?_, ?_, ?_, ?_⟩
  · intro size
    rw [same] at size
    refine ⟨?_, ?_⟩
    · by_contra staged
      obtain old | ⟨id, info, found, -⟩ := path staged
      · exact old (h.empty size).1
      · rw [OrderedMap.find?_of_size_zero size] at found
        cases found
    · by_contra staged
      exact (binary staged).1 size
  · rw [same]
    obtain size | ⟨id, info, entries, started⟩ := h.pending
    · exact Or.inl size
    · exact Or.inr ⟨id, info, entries, started.cons (quiet id)⟩
  · intro staged id info entries
    rw [same] at entries
    obtain old | ⟨id', info', found, finishes⟩ := path staged
    · exact (h.path old id info entries).cons (quiet id)
    · obtain ⟨entries', started⟩ := h.single found
      rw [entries] at entries'
      cases entries'
      exact started.finish finishes
  · intro staged inactive id info entries
    rw [same] at entries
    exact (binary staged).2 inactive id info entries

theorem pending_of_binary (h : Follows trace manager) (staged : manager.stagedBinaryName ≠ []) :
    manager.pendingTransfers.size ≠ 0 :=
  fun size => staged (h.empty size).2

/-- A call that is no start, no processing and no activation, and stages no binary. -/
theorem quiet (h : Follows trace manager) (starts : ∀ id, ¬ call.Starts id)
    (process : ¬ call.IsProcess) (activates : ¬ call.Activates)
    (same : manager'.pendingTransfers = manager.pendingTransfers)
    (path : manager'.stagedPackagePath ≠ [] → manager.stagedPackagePath ≠ [] ∨
      ∃ id info, manager.pendingTransfers.find? id = some info ∧ call.Finishes id)
    (binary : manager'.stagedBinaryName = manager.stagedBinaryName)
    (state : manager'.state ≠ .activated → manager.state ≠ .activated) :
    Follows (call :: trace) manager' := by
  refine h.next starts same path ?_
  intro staged
  rw [binary] at staged
  refine ⟨h.pending_of_binary staged, ?_⟩
  intro inactive id info entries
  exact (h.binary staged (state inactive) id info entries).cons process activates

end Follows

theorem not_starts (other : ∀ info, call.input ≠ .transferStart info) (id : TransferIdType) :
    ¬ call.Starts id := by
  rintro ⟨info, input, -⟩
  exact other info input

theorem not_isProcess (other : ∀ id answers, call.input ≠ .processSwPackage id answers) :
    ¬ call.IsProcess := by
  rintro ⟨id, answers, input⟩
  exact other id answers input

theorem not_activates (other : ∀ installRoot executionManifestPath answers,
    call.input ≠ .activate installRoot executionManifestPath answers) : ¬ call.Activates := by
  rintro ⟨installRoot, executionManifestPath, answers, input, -⟩
  exact other installRoot executionManifestPath answers input

theorem not_activates_of_failed {host : Host} {request : Request} {code : UcmErrc} :
    ¬ Call.Activates ⟨host, request, .failed code⟩ := by
  rintro ⟨installRoot, executionManifestPath, answers, -, output⟩
  cases output

/-- An orderly request leaves members that follow the longer trace. -/
theorem follows_step (trace : List Call) (host : Host) (request : Request) (response : Response)
    (host' : Host) (h : Follows trace host.manager) (orderly : host.Orderly codecs request)
    (step : host.step codecs request = .ok (response, host')) :
    Follows (⟨host, request, response⟩ :: trace) host'.manager := by
  cases Host.step_effect step with
  | startRefused busy =>
    refine h.quiet ?_ (not_isProcess nofun) (not_activates nofun) rfl Or.inl rfl fun h => h
    rintro id ⟨info, -, output⟩
    cases output
  | @started info idle =>
    obtain ⟨path, binary⟩ := h.empty (orderly idle)
    have entries := OrderedMap.insert_of_size_zero (orderly idle) host.manager.nextId info
    refine ⟨fun _ => ⟨path, binary⟩, Or.inr ⟨_, info, entries, ?_⟩, fun staged => absurd path staged,
      fun staged => absurd binary staged⟩
    exact ⟨[], _, trace, Newest.head ⟨info, rfl, rfl⟩ trace, rfl⟩
  | dataRefused =>
    exact h.quiet (not_starts nofun) (not_isProcess nofun) (not_activates nofun) rfl Or.inl rfl
      fun h => h
  | data found =>
    exact h.quiet (not_starts nofun) (not_isProcess nofun) (not_activates nofun) rfl Or.inl rfl
      fun h => h
  | exitFailed =>
    exact h.quiet (not_starts nofun) (not_isProcess nofun) (not_activates nofun) rfl Or.inl rfl
      fun h => h
  | exited found =>
    refine h.quiet (not_starts nofun) (not_isProcess nofun) (not_activates nofun) rfl ?_ rfl fun h => h
    intro staged
    exact Or.inr ⟨_, _, found, _, rfl, rfl⟩
  | processRefused rejects =>
    -- the newest processing now failed, so nothing may be waiting for its activation
    refine h.next (not_starts nofun) rfl Or.inl ?_
    intro binary
    refine ⟨h.pending_of_binary binary, ?_⟩
    intro inactive
    exact absurd ⟨binary, inactive⟩ (orderly.1 rejects)
  | malformed found accepts malformed kept =>
    have unnamed := orderly.2 accepts malformed
    refine h.next (not_starts nofun) rfl Or.inl ?_
    intro binary
    obtain rfl | rfl := kept
    · exact absurd unnamed binary
    · exact absurd rfl binary
  | processed found accepts intact named =>
    obtain ⟨entries, -⟩ := h.single found
    refine h.next (not_starts nofun) rfl Or.inl ?_
    intro binary
    refine ⟨?_, ?_⟩
    · intro size
      rw [OrderedMap.find?_of_size_zero size] at found
      cases found
    · intro inactive id' info' entries'
      have finished : Finished trace id' info' := h.path (fun unstaged => accepts (Or.inr unstaged))
        id' info' entries'
      rw [entries] at entries'
      cases entries'
      exact ⟨[], _, trace, Newest.head ⟨_, _, rfl⟩ trace, ⟨_, rfl⟩, rfl, List.forall_mem_nil _,
        finished⟩
  | activateRefused unnamed =>
    exact h.quiet (not_starts nofun) (not_isProcess nofun) not_activates_of_failed rfl Or.inl rfl
      fun h => h
  | activateFailed named incomplete =>
    exact h.quiet (not_starts nofun) (not_isProcess nofun) not_activates_of_failed rfl Or.inl rfl
      fun _ => orderly
  | activated named completes =>
    refine h.next (not_starts nofun) rfl Or.inl ?_
    intro binary
    exact ⟨h.pending_of_binary binary, fun inactive => absurd rfl inactive⟩
  | reset => exact Follows.of_empty _ rfl rfl rfl

/-- In a run of orderly requests the members follow the trace. -/
theorem follows_of_run {storageRoot : Bytes} {available opens : Bool} {files : Files} {host : Host}
    (run : Run (Host.step codecs) (Host.boot codecs storageRoot available opens files) trace host)
    (orderly : Run.Every (Host.Orderly codecs) trace) : Follows trace host.manager := by
  refine Run.invariant ?_ follows_step run orderly
  exact Follows.of_empty [] rfl rfl rfl

/-! ## Activation -/

theorem records_setValue (info : PackageInfoType) (registry : KeyValueStorage) :
    Records info registry (registry.setValue info.name info.version) := by
  refine ⟨rfl, ?_⟩
  intro key
  show (registry.root.insert info.name (.string info.version)).find? key = _
  rw [OrderedMap.find?_insert]
  by_cases h : key = info.name <;> simp only [h, if_true, if_false]

/-- With one pending transfer, that transfer is the one recorded. -/
theorem recorded_of_single {manager : PackageManager}
    (entries : manager.pendingTransfers.entries = [(id, info)]) :
    Option.Rel (Records info) manager.registry manager.recorded := by
  have first : manager.pendingTransfers.begin? = some (id, info) := by
    unfold OrderedMap.begin?
    rw [entries]
    rfl
  unfold PackageManager.recorded
  rw [first]
  cases manager.registry with
  | none => exact Option.Rel.none
  | some registry => exact Option.Rel.some (records_setValue info registry)

/-- After orderly requests, every orderly activation that succeeds is legitimate. -/
theorem activate_legitimate (codecs : Codecs) (storageRoot : Bytes) (available opens : Bool)
    (files : Files) {trace : List Call} {host host' : Host}
    (run : Run (Host.step codecs) (Host.boot codecs storageRoot available opens files) trace host)
    (orderly : Run.Every (Host.Orderly codecs) trace)
    {installRoot executionManifestPath : Bytes} {answers : ActivateAnswers}
    (last : host.Orderly codecs (.activate installRoot executionManifestPath answers))
    (step : host.step codecs (.activate installRoot executionManifestPath answers) = .ok (.done, host')) :
    Legitimate trace host host' := by
  have follows := follows_of_run run orderly
  cases Host.step_effect step with
  | activated named completes =>
    obtain size | ⟨id, info, entries, -⟩ := follows.pending
    · exact absurd size (follows.pending_of_binary named)
    · exact ⟨id, info, follows.binary named last id info entries, recorded_of_single entries⟩

/-! ## The package of two bytes, activated -/

def sampleActivation : ActivateAnswers where
  opensSource := true
  opensTemporary := true
  round := fun _ => ⟨some 65536, true⟩
  renames := true
  loadsEntry := true
  loadsManifest := true
  saves := true
  sync := ⟨true, true, true⟩

def sampleRun (requests : List Request) : List Call × Host :=
  match Run.play (Host.step sampleCodecs) [] sampleHost requests with
  | .ok result => result
  | .error _ => ([], sampleHost)

theorem sampleActivation_done (host : Host) (named : host.manager.stagedBinaryName ≠ [])
    (completes : host.Completes sampleCodecs sampleActivation (text "/i") (text "/m")) :
    ∃ host', host.step sampleCodecs (.activate (text "/i") (text "/m") sampleActivation) =
      .ok (.done, host') := by
  obtain ⟨files, activate⟩ := Host.activate_of_completes named completes
  simp only [Host.step, activate]
  exact ⟨_, rfl⟩

theorem activate_legitimate_sample : ∃ host',
    (sampleRun (sampleTransfer unpacked)).2.step sampleCodecs
        (.activate (text "/i") (text "/m") sampleActivation) = .ok (.done, host') ∧
      Legitimate (sampleRun (sampleTransfer unpacked)).1 (sampleRun (sampleTransfer unpacked)).2 host' := by
  obtain ⟨host', done⟩ := sampleActivation_done (sampleRun (sampleTransfer unpacked)).2
    (by decide)
    ⟨⟨rfl, rfl, rfl⟩, ⟨copyLoop_reliable (fun _ => ⟨rfl, rfl⟩) _ _ _, rfl⟩,
      ⟨rfl, ⟨[.element (text "PROCESSES") [] []], rfl, rfl⟩, rfl⟩⟩
  refine ⟨host', done, activate_legitimate sampleCodecs (text "/s") true true _
    (Run.of_play .start (rfl : Run.play _ [] sampleHost (sampleTransfer unpacked) = _)) ?_ ?_ done⟩
  · refine Run.every_cons.mpr ⟨⟨?_, ?_⟩, Run.every_cons.mpr ⟨trivial, Run.every_cons.mpr ⟨trivial,
      Run.every_cons.mpr ⟨fun _ => rfl, Run.every_nil _⟩⟩⟩⟩
    · rintro - ⟨named, -⟩
      exact named rfl
    · rintro - -
      rfl
  · intro activated
    cases activated

/-- After a package that unpacks, one that does not: the binary of the first is still activated. -/
def sampleStale : List Request := sampleTransfer unpacked ++ [.processSwPackage 1 notUnpacked]

theorem not_always_legitimate : ¬ ∀ (codecs : Codecs) (storageRoot : Bytes) (available opens : Bool)
    (files : Files) (trace : List Call) (host host' : Host)
    (installRoot executionManifestPath : Bytes) (answers : ActivateAnswers),
    Run (Host.step codecs) (Host.boot codecs storageRoot available opens files) trace host →
      host.step codecs (.activate installRoot executionManifestPath answers) = .ok (.done, host') →
      Legitimate trace host host' := by
  intro always
  obtain ⟨host', done⟩ := sampleActivation_done (sampleRun sampleStale).2 (by decide)
    ⟨⟨rfl, rfl, rfl⟩, ⟨copyLoop_reliable (fun _ => ⟨rfl, rfl⟩) _ _ _, rfl⟩,
      ⟨rfl, ⟨[.element (text "PROCESSES") [] []], rfl, rfl⟩, rfl⟩⟩
  have run : Run (Host.step sampleCodecs) sampleHost (sampleRun sampleStale).1 (sampleRun sampleStale).2 :=
    Run.of_play .start (rfl : Run.play _ [] sampleHost sampleStale = _)
  obtain ⟨id, info, ⟨newer, process, older, newest, -, output, -⟩, -⟩ :=
    always _ _ _ _ _ _ _ _ _ _ _ run done
  obtain ⟨-, rfl, -⟩ := newest.eq_head ⟨1, notUnpacked, rfl⟩
  cases output

end AdaptiveAutosar.Ucm
