import AdaptiveAutosar.Foundations.Journal
import AdaptiveAutosar.Per.KeyValueStorage

/-! # The watchdog

`application::WatchdogApplication` from the opening of its storage on. The receive handler is called from
another thread than `Main`; the source assumes a single writer, and its calls and the rounds of `Main` are taken
one after the other. Times are those of the steady clock in nanoseconds.
-/

namespace AdaptiveAutosar.Application
open Foundations AdaptiveAutosar.Per
set_option autoImplicit false

/-- The messages that are logged and written to the storage. -/
inductive WatchdogMessage where
  | restarted (selfInstanceId : UInt16) (senderInstanceId : UInt8)
  | started
  | expired
  deriving DecidableEq, Repr

inductive WatchdogPhase where
  | subscribed
  | running
  | terminated
  deriving DecidableEq, Repr

structure WatchdogApplication where
  selfInstanceId : UInt16
  lastEventTime : ℕ
  expiredLogged : Bool
  firstEventReceived : Bool
  storage : Option KeyValueStorage
  logCounter : UInt32
  files : Files
  phase : WatchdogPhase

/-- `start`: `Main` behind the setting of the receive handler. `round`: a return of `WaitForActivation`. -/
inductive WatchdogEvent where
  | start (now : ℕ)
  | receive (now : ℕ) (senderInstanceId : UInt8)
  | round (now : ℕ) (sync : SaveAnswers)
  | terminate (sync : SaveAnswers)

namespace WatchdogApplication

/-- In milliseconds. -/
def cEventTimeout : ℕ := 2000

def text : WatchdogMessage → Bytes
  | .restarted selfInstanceId senderInstanceId => Per.text "[Watchdog] " ++ DecimalText.print selfInstanceId.toNat ++
      Per.text " restarted by ExtendedVehicle " ++ DecimalText.print senderInstanceId.toNat
  | .started => Per.text "[Watchdog] Started - timeout " ++ DecimalText.print cEventTimeout ++ Per.text " ms"
  | .expired => Per.text "[Watchdog] Event expired: no VehicleStatus received for >" ++
      DecimalText.print cEventTimeout ++ Per.text " ms"

/-- `preferred`: `/var/per` is made or is there already. -/
def storagePath (preferred : Bool) (selfInstanceId : UInt16) : Bytes :=
  (if preferred then Per.text "/var/per" else Per.text "/tmp/per") ++ Per.text "/watchdog_" ++
    DecimalText.print selfInstanceId.toNat ++ Per.text ".json"

/-- `Main` up to the setting of the receive handler. -/
def subscribe (codec : JsonCodec) (preferred opens : Bool) (selfInstanceId : UInt16) (files : Files) :
    WatchdogApplication where
  selfInstanceId := selfInstanceId
  lastEventTime := 0
  expiredLogged := false
  firstEventReceived := false
  storage := (KeyValueStorage.open_ codec opens (storagePath preferred selfInstanceId) files).toOption
  logCounter := 0
  files := files
  phase := .subscribed

/-- The key of an entry. -/
def entryKey (logCounter : UInt32) : Bytes := DecimalText.print logCounter.toNat

def write (watchdog : WatchdogApplication) (message : WatchdogMessage) : WatchdogApplication :=
  match watchdog.storage with
  | none => watchdog
  | some storage => { watchdog with
      storage := some (storage.setValue (entryKey watchdog.logCounter) (text message))
      logCounter := watchdog.logCounter + 1 }

/-- `SyncToStorage`, whose result is not looked at. -/
def sync (codec : JsonCodec) (answers : SaveAnswers) (watchdog : WatchdogApplication) : WatchdogApplication :=
  match watchdog.storage with
  | none => watchdog
  | some storage => { watchdog with files := (storage.syncToStorage codec answers watchdog.files).2 }

def onEventReceived (watchdog : WatchdogApplication) (now : ℕ) (senderInstanceId : UInt8) : WatchdogApplication :=
  write { watchdog with lastEventTime := now, expiredLogged := false, firstEventReceived := true }
    (.restarted watchdog.selfInstanceId senderInstanceId)

/-- The elapsed time is cut to whole milliseconds. -/
def Overdue (lastEventTime now : ℕ) : Prop := cEventTimeout < (now - lastEventTime) / 1000000

instance (lastEventTime now : ℕ) : Decidable (Overdue lastEventTime now) := inferInstanceAs (Decidable (_ < _))

/-- A step gives the message that it logs. -/
def step (codec : JsonCodec) (watchdog : WatchdogApplication) :
    WatchdogEvent → Except Unit (Option WatchdogMessage × WatchdogApplication)
  | .start now =>
    if watchdog.phase ≠ .subscribed then .error ()
    else .ok (some .started, write { watchdog with lastEventTime := now, phase := .running } .started)
  | .receive now senderInstanceId =>
    if watchdog.phase = .terminated then .error ()
    else .ok (some (.restarted watchdog.selfInstanceId senderInstanceId),
      watchdog.onEventReceived now senderInstanceId)
  | .round now answers =>
    if watchdog.phase ≠ .running then .error ()
    else if Overdue watchdog.lastEventTime now ∧ watchdog.expiredLogged = false ∧
        watchdog.firstEventReceived = true then
      .ok (some .expired, (write { watchdog with expiredLogged := true } .expired).sync codec answers)
    else .ok (none, watchdog)
  | .terminate answers =>
    if watchdog.phase ≠ .running then .error ()
    else .ok (none, { watchdog.sync codec answers with phase := .terminated })

/-- What a step has done. -/
inductive Effect (codec : JsonCodec) (watchdog : WatchdogApplication) :
    WatchdogEvent → Option WatchdogMessage → WatchdogApplication → Prop where
  | started (now : ℕ) (subscribed : watchdog.phase = .subscribed) : Effect codec watchdog (.start now) (some .started)
      (write { watchdog with lastEventTime := now, phase := .running } .started)
  | received (now : ℕ) (senderInstanceId : UInt8) (alive : watchdog.phase ≠ .terminated) :
      Effect codec watchdog (.receive now senderInstanceId)
      (some (.restarted watchdog.selfInstanceId senderInstanceId)) (watchdog.onEventReceived now senderInstanceId)
  | expired (now : ℕ) (answers : SaveAnswers) (running : watchdog.phase = .running)
      (overdue : Overdue watchdog.lastEventTime now) (unlogged : watchdog.expiredLogged = false)
      (received : watchdog.firstEventReceived = true) : Effect codec watchdog (.round now answers) (some .expired)
      ((write { watchdog with expiredLogged := true } .expired).sync codec answers)
  | quiet (now : ℕ) (answers : SaveAnswers) (running : watchdog.phase = .running)
      (inTime : ¬ (Overdue watchdog.lastEventTime now ∧ watchdog.expiredLogged = false ∧
        watchdog.firstEventReceived = true)) : Effect codec watchdog (.round now answers) none watchdog
  | terminated (answers : SaveAnswers) (running : watchdog.phase = .running) :
      Effect codec watchdog (.terminate answers) none { watchdog.sync codec answers with phase := .terminated }

theorem step_effect {codec : JsonCodec} {watchdog watchdog' : WatchdogApplication} {event : WatchdogEvent}
    {output : Option WatchdogMessage} (taken : watchdog.step codec event = .ok (output, watchdog')) :
    Effect codec watchdog event output watchdog' := by
  cases event with
  | start now =>
    simp only [step] at taken
    split_ifs at taken with other
    cases taken
    exact .started now (not_not.mp other)
  | receive now senderInstanceId =>
    simp only [step] at taken
    split_ifs at taken with ended
    cases taken
    exact .received now senderInstanceId ended
  | round now answers =>
    simp only [step] at taken
    split_ifs at taken with idle alarm
    · cases taken
      exact .expired now answers (not_not.mp idle) alarm.1 alarm.2.1 alarm.2.2
    · cases taken
      exact .quiet now answers (not_not.mp idle) alarm
  | terminate answers =>
    simp only [step] at taken
    split_ifs at taken with idle
    cases taken
    exact .terminated answers (not_not.mp idle)

/-! ## The journal -/

abbrev Trace := List (Taken WatchdogApplication WatchdogEvent (Option WatchdogMessage))

/-- The messages of a run, the newest first. -/
def journal (trace : Trace) : List WatchdogMessage := trace.filterMap Taken.output

def keyOf (n : ℕ) : Bytes := entryKey (UInt32.ofNat n)

def json (message : WatchdogMessage) : Json := .string (text message)

/-- A storage that had the members of `before` when it was opened, with the journal in it. -/
def Holds (before : KeyValueStorage) (messages : List WatchdogMessage) (root : OrderedMap Bytes Json) : Prop :=
  Journal.Holds keyOf before.root.find? (messages.map json) root.find?

/-- The storage of a watchdog that has opened one holds the journal of the run. -/
structure Writes (before : KeyValueStorage) (trace : Trace) (watchdog : WatchdogApplication) : Prop where
  storage : ∃ storage, watchdog.storage = some storage ∧ storage.storagePath = before.storagePath ∧
    Holds before (journal trace) storage.root
  counter : watchdog.logCounter = UInt32.ofNat (journal trace).length

/-- The step writes the storage to its file. -/
def Syncs (taken : Taken WatchdogApplication WatchdogEvent (Option WatchdogMessage)) : Prop :=
  (∃ now answers, taken.input = .round now answers ∧ taken.output = some .expired ∧ answers.allSucceed = true) ∨
    ∃ answers, taken.input = .terminate answers ∧ answers.allSucceed = true

/-- The file holds the journal up to the newest step that wrote it. -/
def Saved (codec : JsonCodec) (before : KeyValueStorage) (trace : Trace) (watchdog : WatchdogApplication) : Prop :=
  ∀ newer sync older, Newest Syncs trace newer sync older →
    ∃ root, backing codec before.storagePath watchdog.files = some root ∧ Holds before (journal (sync :: older)) root

variable {codec : JsonCodec} {before : KeyValueStorage} {trace : Trace} {watchdog watchdog' : WatchdogApplication}
  {event : WatchdogEvent} {output : Option WatchdogMessage}

theorem zero_notMem_storagePath (preferred : Bool) (selfInstanceId : UInt16) :
    0 ∉ storagePath preferred selfInstanceId := by
  have digits := DecimalText.zero_notMem_print selfInstanceId.toNat
  simp only [storagePath, List.mem_append, not_or]
  cases preferred with
  | false => exact ⟨⟨⟨by decide, by decide⟩, digits⟩, by decide⟩
  | true => exact ⟨⟨⟨by decide, by decide⟩, digits⟩, by decide⟩

theorem keyOf_eq_iff (m n : ℕ) : keyOf m = keyOf n ↔ m % 2 ^ 32 = n % 2 ^ 32 := by
  rw [keyOf, keyOf, entryKey, entryKey, DecimalText.print_injective.eq_iff, UInt32.toNat_ofNat', UInt32.toNat_ofNat']

/-- A message that is logged is written under the next number. -/
theorem Writes.write (writes : Writes before trace watchdog) (message : WatchdogMessage)
    (taken : Taken WatchdogApplication WatchdogEvent (Option WatchdogMessage))
    (logged : taken.output = some message) : Writes before (taken :: trace) (watchdog.write message) := by
  obtain ⟨storage, there, path, holds⟩ := writes.storage
  have longer : journal (taken :: trace) = message :: journal trace := by
    rw [journal, List.filterMap_cons_some logged]
    rfl
  have written : watchdog.write message = { watchdog with
      storage := some (storage.setValue (entryKey watchdog.logCounter) (text message))
      logCounter := watchdog.logCounter + 1 } := by
    rw [WatchdogApplication.write, there]
  rw [written]
  refine ⟨⟨_, rfl, path, ?_⟩, ?_⟩
  · rw [longer]
    have next : keyOf ((journal trace).map json).length = entryKey watchdog.logCounter := by
      rw [List.length_map, keyOf, ← writes.counter]
    refine Journal.Holds.write holds ?_ fun key other => ?_
    · rw [next]
      exact (storage.root.find?_insert _ _ _).trans (if_pos rfl)
    · rw [next] at other
      exact (storage.root.find?_insert _ _ _).trans (if_neg other)
  · rw [longer, List.length_cons, UInt32.ofNat_add, ← writes.counter]
    rfl

theorem Writes.of_quiet (writes : Writes before trace watchdog)
    (taken : Taken WatchdogApplication WatchdogEvent (Option WatchdogMessage)) (quiet : taken.output = none) :
    Writes before (taken :: trace) watchdog := by
  have same : journal (taken :: trace) = journal trace := List.filterMap_cons_none quiet
  obtain ⟨storage, there, path, holds⟩ := writes.storage
  refine ⟨⟨storage, there, path, ?_⟩, ?_⟩
  · rwa [same]
  · rw [same]
    exact writes.counter

theorem Writes.congr {other : WatchdogApplication} (writes : Writes before trace watchdog)
    (storage : other.storage = watchdog.storage) (counter : other.logCounter = watchdog.logCounter) :
    Writes before trace other := by
  refine ⟨?_, counter.trans writes.counter⟩
  rw [storage]
  exact writes.storage

theorem sync_eq (answers : SaveAnswers) : watchdog.sync codec answers = { watchdog with
    files := (watchdog.sync codec answers).files } := by
  obtain ⟨_, _, _, _, storage, _, _, _⟩ := watchdog
  cases storage with
  | none => rfl
  | some storage => rfl

theorem Writes.sync (writes : Writes before trace watchdog) (answers : SaveAnswers) :
    Writes before trace (watchdog.sync codec answers) := by
  rw [sync_eq]
  exact writes.congr rfl rfl

theorem Writes.expired (writes : Writes before trace watchdog) (now : ℕ) (answers : SaveAnswers) :
    Writes before (⟨watchdog, .round now answers, some .expired⟩ :: trace)
      (WatchdogApplication.write { watchdog with expiredLogged := true } .expired) := by
  refine (writes.congr ?_ ?_).write _ _ ?_ <;> rfl

/-- Everything that is logged is written. -/
theorem Writes.step (writes : Writes before trace watchdog)
    (taken : watchdog.step codec event = .ok (output, watchdog')) :
    Writes before (⟨watchdog, event, output⟩ :: trace) watchdog' := by
  cases step_effect taken with
  | started now => refine (writes.congr ?_ ?_).write _ _ ?_ <;> rfl
  | received now senderInstanceId => refine (writes.congr ?_ ?_).write _ _ ?_ <;> rfl
  | expired now answers => exact (writes.expired now answers).sync answers
  | quiet now answers => exact writes.of_quiet _ rfl
  | terminated answers =>
    have synced : Writes before (⟨watchdog, .terminate answers, none⟩ :: trace) (watchdog.sync codec answers) :=
      (writes.of_quiet _ rfl).sync answers
    exact synced.congr rfl rfl

/-! ## The file -/

theorem write_files (message : WatchdogMessage) : (watchdog.write message).files = watchdog.files := by
  unfold WatchdogApplication.write
  cases watchdog.storage with
  | none => rfl
  | some storage => rfl

theorem sync_files {storage : KeyValueStorage} (there : watchdog.storage = some storage) (answers : SaveAnswers) :
    (watchdog.sync codec answers).files = (saveFile answers storage.storagePath
      (codec.write (.object storage.root.entries)) watchdog.files).2 := by
  rw [WatchdogApplication.sync, there]
  rfl

/-- What a file holds behind a successful save is what the library reads back. -/
theorem backing_of_succeeds {answers : SaveAnswers} {path : Bytes} {root : OrderedMap Bytes Json} {files : Files}
    (succeeds : answers.allSucceed = true)
    (reads : codec.parseFromStream (codec.write (.object root.entries)) = some (.object root.entries)) :
    backing codec path (saveFile answers path (codec.write (.object root.entries)) files).2 = some root := by
  have there := FileStore.replaceVia_target files (cStr (path ++ Per.text ".tmp")) (cStr path)
    (codec.write (.object root.entries))
  rw [saveFile_succeeded succeeds]
  simp only [backing, there, reads, OrderedMap.ofList_entries]

theorem backing_of_fails {answers : SaveAnswers} {path : Bytes} (clean : 0 ∉ path) (content : Bytes) {files : Files}
    (fails : answers.allSucceed = false) :
    backing codec path (saveFile answers path content files).2 = backing codec path files :=
  backing_congr ((saveFile_failed_target fails path content files).mpr fun ends => absurd ends clean)

/-- The library reads what it writes of the storage. -/
def ReadsBack (codec : JsonCodec) (watchdog : WatchdogApplication) : Prop :=
  ∀ storage ∈ watchdog.storage,
    codec.parseFromStream (codec.write (.object storage.root.entries)) = some (.object storage.root.entries)

/-- What a step needs of the JSON library. -/
def Reads (codec : JsonCodec) (watchdog : WatchdogApplication) : WatchdogEvent → Prop
  | .round _ _ => ReadsBack codec (write { watchdog with expiredLogged := true } .expired)
  | .terminate _ => ReadsBack codec watchdog
  | _ => True

theorem Writes.saved (writes : Writes before trace watchdog) (reads : ReadsBack codec watchdog)
    {answers : SaveAnswers} (succeeds : answers.allSucceed = true) :
    ∃ root, backing codec before.storagePath (watchdog.sync codec answers).files = some root ∧
      Holds before (journal trace) root := by
  obtain ⟨storage, there, path, holds⟩ := writes.storage
  refine ⟨storage.root, ?_, holds⟩
  rw [sync_files there, ← path]
  exact backing_of_succeeds succeeds (reads storage there)

theorem Writes.unsaved (writes : Writes before trace watchdog) (clean : 0 ∉ before.storagePath)
    {answers : SaveAnswers} (fails : answers.allSucceed = false) :
    backing codec before.storagePath (watchdog.sync codec answers).files =
      backing codec before.storagePath watchdog.files := by
  obtain ⟨storage, there, path, -⟩ := writes.storage
  rw [sync_files there, ← path]
  exact backing_of_fails (by rwa [path]) _ fails

theorem Saved.quiet (saved : Saved codec before trace watchdog)
    {taken : Taken WatchdogApplication WatchdogEvent (Option WatchdogMessage)} (quiet : ¬ Syncs taken)
    (same : backing codec before.storagePath watchdog'.files = backing codec before.storagePath watchdog.files) :
    Saved codec before (taken :: trace) watchdog' := by
  intro newer sync older newest
  cases newer with
  | nil =>
    obtain ⟨rfl, rfl⟩ := List.cons.inj newest.split
    exact absurd newest.holds quiet
  | cons later rest =>
    obtain ⟨rfl, split⟩ := List.cons.inj newest.split
    rw [same]
    exact saved rest sync older ⟨split, newest.holds, fun other there =>
      newest.since other (List.mem_cons_of_mem _ there)⟩

theorem Saved.synced {taken : Taken WatchdogApplication WatchdogEvent (Option WatchdogMessage)}
    (syncs : Syncs taken) (held : ∃ root, backing codec before.storagePath watchdog'.files = some root ∧
      Holds before (journal (taken :: trace)) root) : Saved codec before (taken :: trace) watchdog' := by
  intro newer sync older newest
  obtain ⟨-, rfl, rfl⟩ := newest.eq_head syncs
  exact held

/-- A step that does not write the file leaves the journal in it; one that writes it brings it up to date. -/
theorem Saved.step (saved : Saved codec before trace watchdog) (writes : Writes before trace watchdog)
    (reads : Reads codec watchdog event) (clean : 0 ∉ before.storagePath)
    (taken : watchdog.step codec event = .ok (output, watchdog')) :
    Saved codec before (⟨watchdog, event, output⟩ :: trace) watchdog' := by
  cases step_effect taken with
  | started now =>
    refine saved.quiet ?_ (congrArg _ (write_files _))
    rintro (⟨_, _, round, -, -⟩ | ⟨_, terminate, -⟩) <;> contradiction
  | received now senderInstanceId =>
    refine saved.quiet ?_ (congrArg _ (write_files _))
    rintro (⟨_, _, round, -, -⟩ | ⟨_, terminate, -⟩) <;> contradiction
  | expired now answers =>
    have written := writes.expired now answers
    cases succeeds : answers.allSucceed with
    | true => exact .synced (.inl ⟨now, answers, rfl, rfl, succeeds⟩) (written.saved reads succeeds)
    | false =>
      refine saved.quiet ?_ ?_
      · rintro (⟨_, _, round, -, succeeded⟩ | ⟨_, terminate, -⟩)
        · cases round
          rw [succeeds] at succeeded
          cases succeeded
        · cases terminate
      · exact (written.unsaved clean succeeds).trans (congrArg _ (write_files _))
  | quiet now answers =>
    refine saved.quiet ?_ rfl
    rintro (⟨_, _, -, expired, -⟩ | ⟨_, terminate, -⟩) <;> contradiction
  | terminated answers =>
    have written : Writes before (⟨watchdog, .terminate answers, none⟩ :: trace) watchdog :=
      writes.of_quiet _ rfl
    cases succeeds : answers.allSucceed with
    | true => exact .synced (.inr ⟨answers, rfl, succeeds⟩) (written.saved reads succeeds)
    | false =>
      refine saved.quiet ?_ (writes.unsaved clean succeeds)
      rintro (⟨_, _, round, -, -⟩ | ⟨_, terminate, succeeded⟩)
      · cases round
      · cases terminate
        rw [succeeds] at succeeded
        cases succeeded

/-- A watchdog that has opened a storage writes and saves its journal. -/
theorem writes_of_run {preferred opens : Bool} {selfInstanceId : UInt16} {files : Files}
    (opened : KeyValueStorage.open_ codec opens (storagePath preferred selfInstanceId) files = .ok before)
    (clean : 0 ∉ before.storagePath)
    (run : Run (step codec) (subscribe codec preferred opens selfInstanceId files) trace watchdog)
    (reads : Run.Every (Reads codec) trace) :
    Writes before trace watchdog ∧ Saved codec before trace watchdog := by
  induction run with
  | start =>
    refine ⟨⟨⟨before, ?_, rfl, Journal.Holds.nil _ _⟩, rfl⟩, ?_⟩
    · rw [subscribe, opened]
      rfl
    · intro newer sync older newest
      cases newer <;> cases newest.split
  | next _ taken ih =>
    obtain ⟨here, earlier⟩ := Run.every_cons.mp reads
    obtain ⟨writes, saved⟩ := ih earlier
    exact ⟨writes.step taken, saved.step writes here clean taken⟩

theorem storagePath_of_opened {opens : Bool} {path : Bytes} {files : Files}
    (opened : KeyValueStorage.open_ codec opens path files = .ok before) : before.storagePath = path := by
  unfold KeyValueStorage.open_ at opened
  split at opened
  · cases opened
    rfl
  · split at opened <;> cases opened
    rfl

/-- However a run goes on behind a successful sync, the next session finds in the file the messages up to that
sync, each under its number and in their order, beside the older entries that they have not replaced. -/
theorem journal_survives (codec : JsonCodec) {preferred opens : Bool} {selfInstanceId : UInt16} {files : Files}
    {before : KeyValueStorage}
    (opened : KeyValueStorage.open_ codec opens (storagePath preferred selfInstanceId) files = .ok before)
    {trace : Trace} {watchdog : WatchdogApplication}
    (run : Run (step codec) (subscribe codec preferred opens selfInstanceId files) trace watchdog)
    (reads : Run.Every (Reads codec) trace) {newer older : Trace}
    {sync : Taken WatchdogApplication WatchdogEvent (Option WatchdogMessage)}
    (newest : Newest Syncs trace newer sync older) :
    ∃ after, KeyValueStorage.open_ codec true (storagePath preferred selfInstanceId) watchdog.files = .ok after ∧
      (∀ n message, (journal (sync :: older)).reverse[n]? = some message →
        (journal (sync :: older)).length ≤ n + 2 ^ 32 → after.getValue (keyOf n) = .ok (text message)) ∧
      ∀ key, (∀ n < (journal (sync :: older)).length, keyOf n ≠ key) →
        after.root.find? key = before.root.find? key := by
  have path := storagePath_of_opened opened
  have clean : 0 ∉ before.storagePath := path ▸ zero_notMem_storagePath preferred selfInstanceId
  obtain ⟨root, backed, holds⟩ := (writes_of_run opened clean run reads).2 newer sync older newest
  rw [path] at backed
  refine ⟨⟨storagePath preferred selfInstanceId, root⟩, KeyValueStorage.open_of_backing backed true, ?_, ?_⟩
  · intro n message there recent
    have bound : n < (journal (sync :: older)).length := by
      have := (List.getElem?_eq_some_iff.mp there).1
      rwa [List.length_reverse] at this
    have last : ∀ m < ((journal (sync :: older)).map json).length, n < m → keyOf m ≠ keyOf n := by
      intro m inside later same
      rw [List.length_map] at inside
      have := (keyOf_eq_iff m n).mp same
      omega
    have found := Journal.Holds.numbered holds (by rwa [List.length_map]) last
    rw [← List.map_reverse, List.getElem?_map, there] at found
    simp only [KeyValueStorage.getValue, found, Option.map_some, json]
  · intro key other
    exact Journal.Holds.kept holds fun n bound => other n (by rwa [List.length_map] at bound)

/-! ## The alarm -/

/-- The time from which on a timeout counts. -/
def eventTime : WatchdogEvent → Option ℕ
  | .start now => some now
  | .receive now _ => some now
  | .round _ _ => none
  | .terminate _ => none

def isReceive : WatchdogEvent → Bool
  | .receive _ _ => true
  | _ => false

def receives (taken : Taken WatchdogApplication WatchdogEvent (Option WatchdogMessage)) : Bool := isReceive taken.input

def expires (taken : Taken WatchdogApplication WatchdogEvent (Option WatchdogMessage)) : Bool :=
  taken.output = some .expired

/-- The steps since the last event was received. -/
def sinceReceive (trace : Trace) : Trace := trace.takeWhile fun taken => !receives taken

def lastEventTime? (trace : Trace) : Option ℕ := trace.findSome? fun taken => eventTime taken.input

/-- An event has been received, none since for more than the timeout, and that is not logged yet. -/
structure Missing (trace : Trace) (now : ℕ) : Prop where
  received : trace.any receives = true
  unlogged : (sinceReceive trace).any expires = false
  overdue : ∃ last, lastEventTime? trace = some last ∧ Overdue last now

/-- What the members say of the run. -/
structure Observes (trace : Trace) (watchdog : WatchdogApplication) : Prop where
  received : watchdog.firstEventReceived = trace.any receives
  logged : watchdog.expiredLogged = (sinceReceive trace).any expires
  time : watchdog.lastEventTime = (lastEventTime? trace).getD 0

theorem write_eq (message : WatchdogMessage) : watchdog.write message = { watchdog with
    storage := (watchdog.write message).storage, logCounter := (watchdog.write message).logCounter } := by
  obtain ⟨_, _, _, _, storage, _, _, _⟩ := watchdog
  cases storage with
  | none => rfl
  | some storage => rfl

theorem Observes.congr {other : WatchdogApplication} (observes : Observes trace watchdog)
    (received : other.firstEventReceived = watchdog.firstEventReceived)
    (logged : other.expiredLogged = watchdog.expiredLogged) (time : other.lastEventTime = watchdog.lastEventTime) :
    Observes trace other :=
  ⟨received.trans observes.received, logged.trans observes.logged, time.trans observes.time⟩

theorem Observes.write (observes : Observes trace watchdog) (message : WatchdogMessage) :
    Observes trace (watchdog.write message) := by
  rw [write_eq]
  exact observes.congr rfl rfl rfl

theorem Observes.sync (observes : Observes trace watchdog) (answers : SaveAnswers) :
    Observes trace (watchdog.sync codec answers) := by
  rw [sync_eq]
  exact observes.congr rfl rfl rfl

theorem Observes.step (observes : Observes trace watchdog)
    (taken : watchdog.step codec event = .ok (output, watchdog')) :
    Observes (⟨watchdog, event, output⟩ :: trace) watchdog' := by
  obtain ⟨received, logged, time⟩ := observes
  cases step_effect taken with
  | started now =>
    have observes : Observes (⟨watchdog, .start now, some .started⟩ :: trace)
        { watchdog with lastEventTime := now, phase := .running } :=
      ⟨received, logged.trans (Bool.false_or _).symm, rfl⟩
    exact observes.write _
  | received now senderInstanceId => exact Observes.write ⟨rfl, rfl, rfl⟩ _
  | expired now answers =>
    have observes : Observes (⟨watchdog, .round now answers, some .expired⟩ :: trace)
        { watchdog with expiredLogged := true } := ⟨received, rfl, time⟩
    exact (observes.write _).sync answers
  | quiet now answers => exact ⟨received, logged.trans (Bool.false_or _).symm, time⟩
  | terminated answers =>
    have observes : Observes (⟨watchdog, .terminate answers, none⟩ :: trace) watchdog :=
      ⟨received, logged.trans (Bool.false_or _).symm, time⟩
    exact (observes.sync answers).congr rfl rfl rfl

theorem observes_of_run {preferred opens : Bool} {selfInstanceId : UInt16} {files : Files}
    (run : Run (step codec) (subscribe codec preferred opens selfInstanceId files) trace watchdog) :
    Observes trace watchdog := by
  induction run with
  | start => exact ⟨rfl, rfl, rfl⟩
  | next _ taken ih => exact ih.step taken

/-- While `Main` is running, an event or the start has set the time. -/
theorem lastEventTime?_of_running {preferred opens : Bool} {selfInstanceId : UInt16} {files : Files}
    (run : Run (step codec) (subscribe codec preferred opens selfInstanceId files) trace watchdog)
    (running : watchdog.phase = .running) : ∃ last, lastEventTime? trace = some last := by
  induction run with
  | start => cases running
  | @next trace watchdog watchdog' event output run taken ih =>
    cases step_effect taken with
    | started now => exact ⟨now, rfl⟩
    | received now senderInstanceId => exact ⟨now, rfl⟩
    | expired now answers before => exact ih before
    | quiet now answers before => exact ih before
    | terminated answers => cases running

theorem step_round_expires_iff {now : ℕ} {answers : SaveAnswers} (observes : Observes trace watchdog)
    (timed : ∃ last, lastEventTime? trace = some last)
    (taken : watchdog.step codec (.round now answers) = .ok (output, watchdog')) :
    output = some .expired ↔ Missing trace now := by
  obtain ⟨last, timed⟩ := timed
  have time : watchdog.lastEventTime = last := by rw [observes.time, timed, Option.getD_some]
  have missing : Missing trace now ↔ Overdue watchdog.lastEventTime now ∧ watchdog.expiredLogged = false ∧
      watchdog.firstEventReceived = true := by
    rw [observes.received, observes.logged, time]
    constructor
    · rintro ⟨received, unlogged, _, same, overdue⟩
      cases timed.symm.trans same
      exact ⟨overdue, unlogged, received⟩
    · rintro ⟨overdue, unlogged, received⟩
      exact ⟨received, unlogged, last, timed, overdue⟩
  rw [missing]
  cases step_effect taken with
  | expired _ _ _ overdue unlogged received => exact iff_of_true rfl ⟨overdue, unlogged, received⟩
  | quiet _ _ _ inTime => exact iff_of_false nofun inTime

/-- An event that is received allows one alarm. -/
def allowance (watchdog : WatchdogApplication) : ℕ :=
  if watchdog.firstEventReceived && !watchdog.expiredLogged then 1 else 0

/-- A step makes as many alarms fewer as it gives, and one more possible when it receives an event. -/
theorem allowance_step (taken : watchdog.step codec event = .ok (output, watchdog')) :
    (if expires ⟨watchdog, event, output⟩ = true then 1 else 0) + watchdog'.allowance ≤
      (if receives ⟨watchdog, event, output⟩ = true then 1 else 0) + watchdog.allowance := by
  cases step_effect taken with
  | started now =>
    rw [write_eq]
    exact (Nat.zero_add _).le.trans (Nat.le_add_left _ _)
  | received now senderInstanceId =>
    rw [onEventReceived, write_eq]
    exact Nat.le_add_right 1 _
  | expired now answers running overdue unlogged received =>
    rw [sync_eq, write_eq, allowance, allowance, unlogged, received]
    exact le_rfl
  | quiet now answers => exact le_rfl
  | terminated answers =>
    rw [sync_eq]
    exact le_rfl

theorem countP_expires_le {preferred opens : Bool} {selfInstanceId : UInt16} {files : Files}
    (run : Run (step codec) (subscribe codec preferred opens selfInstanceId files) trace watchdog) :
    trace.countP expires + watchdog.allowance ≤ trace.countP receives := by
  induction run with
  | start => exact le_rfl
  | @next trace watchdog watchdog' event output _ taken ih =>
    have step := allowance_step taken
    rw [List.countP_cons, List.countP_cons]
    omega

/-- In every run, `Main` logs that the events are missing exactly in the rounds in which they are, once for each
time; and never more often than events have been received. -/
theorem alarms_exact (codec : JsonCodec) {preferred opens : Bool} {selfInstanceId : UInt16} {files : Files}
    {trace : Trace} {watchdog : WatchdogApplication}
    (run : Run (step codec) (subscribe codec preferred opens selfInstanceId files) trace watchdog) :
    (∀ newer taken older now answers, trace = newer ++ taken :: older → taken.input = .round now answers →
      (taken.output = some .expired ↔ Missing older now)) ∧ trace.countP expires ≤ trace.countP receives := by
  refine ⟨?_, (Nat.le_add_right _ _).trans (countP_expires_le run)⟩
  rintro newer ⟨watchdog, _, output⟩ older now answers rfl rfl
  obtain ⟨watchdog', taken⟩ := run.taken_step (List.mem_append_right newer List.mem_cons_self)
  have earlier := run.before
  have running : watchdog.phase = .running := by
    cases step_effect taken with
    | expired _ _ running => exact running
    | quiet _ _ running => exact running
  exact step_round_expires_iff (observes_of_run earlier) (lastEventTime?_of_running earlier running) taken

/-! ## A vehicle that falls silent -/

def sampleContent : Bytes := Per.text "\x7b\n  \"0\" : \"[Watchdog] Started - timeout 2000 ms\",\n  \"1\" : \"[Watchdog] 1 restarted by ExtendedVehicle 2\",\n  \"2\" : \"[Watchdog] Event expired: no VehicleStatus received for >2000 ms\"\n\x7d"

def sampleMembers : List (Bytes × Json) :=
  [(keyOf 0, json .started), (keyOf 1, json (.restarted 1 2)), (keyOf 2, json .expired)]

/-- The library on the texts that occur here. -/
def sampleCodec : JsonCodec where
  parseFromStream := fun content => if content = sampleContent then some (.object sampleMembers) else none
  write := fun _ => sampleContent

def sampleStart : WatchdogApplication := subscribe sampleCodec true true 1 fun _ => none

def sampleEvents : List WatchdogEvent := [.start 0, .receive 10 2, .round 2001000010 ⟨true, true, true⟩]

def sampleRun : Trace × WatchdogApplication :=
  match Run.play (step sampleCodec) [] sampleStart sampleEvents with
  | .ok result => result
  | .error _ => ([], sampleStart)

theorem sampleRun_run : Run (step sampleCodec) sampleStart sampleRun.1 sampleRun.2 :=
  Run.of_play .start (rfl : Run.play _ [] sampleStart sampleEvents = _)

theorem alarms_exact_sample : sampleRun.1.countP expires = 1 ∧ sampleRun.1.countP receives = 1 ∧
    sampleRun.1.countP expires ≤ sampleRun.1.countP receives :=
  ⟨by decide, by decide, (alarms_exact sampleCodec sampleRun_run).2⟩

set_option maxRecDepth 4000 in
theorem journal_survives_sample : ∃ after,
    KeyValueStorage.open_ sampleCodec true (storagePath true 1) sampleRun.2.files = .ok after ∧
      after.getValue (keyOf 1) = .ok (text (.restarted 1 2)) := by
  have opened : KeyValueStorage.open_ sampleCodec true (storagePath true 1) (fun _ => none) =
      .ok ⟨storagePath true 1, .empty⟩ := rfl
  have reads : Run.Every (Reads sampleCodec) sampleRun.1 := by
    refine Run.every_cons.mpr ⟨?_, Run.every_cons.mpr ⟨trivial, Run.every_cons.mpr ⟨trivial, Run.every_nil _⟩⟩⟩
    intro storage there
    cases there
    have read : sampleCodec.parseFromStream sampleContent = some (.object sampleMembers) := by
      simp only [sampleCodec, if_true]
    exact read
  obtain ⟨after, reopened, entries, -⟩ := journal_survives sampleCodec opened sampleRun_run reads
    (Newest.head (.inl ⟨2001000010, ⟨true, true, true⟩, rfl, rfl, rfl⟩) _)
  exact ⟨after, reopened, entries 1 _ rfl (by decide)⟩

end WatchdogApplication
end AdaptiveAutosar.Application
