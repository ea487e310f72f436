import Mathlib.Data.Set.Finite.Basic
import AdaptiveAutosar.Foundations.Transition
import AdaptiveAutosar.Per.Storage

/-! # File storage as a map

All calls of `ara::per::FileStorage` on a directory that nobody else changes. `remove` may fail as well.
-/

namespace AdaptiveAutosar.Per
open Foundations
set_option autoImplicit false

/-- A single path component. -/
def IsFileName (name : Bytes) : Prop :=
  name ≠ [] ∧ 0 ∉ name ∧ 47 ∉ name ∧ name ≠ text "." ∧ name ≠ text ".."

instance (name : Bytes) : Decidable (IsFileName name) :=
  @instDecidableAnd _ _ _ (@instDecidableAnd _ _ _ (@instDecidableAnd _ _ _ (@instDecidableAnd _ _ _ _)))

abbrev FileName := {name : Bytes // IsFileName name}

/-- A file storage whose root is a path name. -/
structure RootedStorage extends FileStorage where
  clean : 0 ∉ storageRoot

/-- Whether `remove` succeeds too, and what the temporary file has been given when a write fails. -/
structure WriteAnswers extends SaveAnswers where
  removes : Bool
  remnant : Bytes

namespace FileStorage

/-- `std::remove`, with whether it succeeds. -/
def tryRemove (removes : Bool) (path : Bytes) (files : Files) : Bool × Files :=
  if removes ∧ (files path).isSome then (true, files.remove path) else (false, files)

/-- `WriteFile`. -/
def tryWriteFile (storage : FileStorage) (answers : WriteAnswers) (name data : Bytes) (files : Files) :
    Except PerErrc Unit × Files :=
  -- in the directory of the files
  let tmp := cStr (storage.filePath name ++ text ".tmp")
  if !answers.opens then (.error .physicalStorageFailure, files)
  else if !answers.writes then
    (.error .outOfStorageSpace, (tryRemove answers.removes tmp (files.put tmp answers.remnant)).2)
  else
    let written := files.put tmp data
    if !answers.renames then (.error .physicalStorageFailure, (tryRemove answers.removes tmp written).2)
    else (.ok (), written.rename tmp (cStr (storage.filePath name)))

/-- `reads`: the stream does not fail. -/
def readFile (storage : FileStorage) (opens reads : Bool) (name : Bytes) (files : Files) : Except PerErrc Bytes :=
  match if opens then files (cStr (storage.filePath name)) else none with
  | none => .error .fileNotFound
  | some data => if reads then .ok data else .error .physicalStorageFailure

def deleteFile (storage : FileStorage) (removes : Bool) (name : Bytes) (files : Files) :
    Except PerErrc Unit × Files :=
  let (removed, files') := tryRemove removes (cStr (storage.filePath name)) files
  if removed then (.ok (), files') else (.error .fileNotFound, files')

def fileExists (storage : FileStorage) (name : Bytes) (files : Files) : Bool :=
  (files (cStr (storage.filePath name))).isSome

/-- The suffix of a temporary file. -/
def Hidden (name : Bytes) : Prop := 4 < name.length ∧ name.drop (name.length - 4) = text ".tmp"

instance (name : Bytes) : Decidable (Hidden name) := @instDecidableAnd _ _ _ _

/-- `entries` is what `readdir` gives, one after the other. -/
def getAllFileNames (opens : Bool) (entries : List Bytes) : Except PerErrc (List Bytes) :=
  if !opens then .error .physicalStorageFailure
  else .ok (entries.filter fun name => ¬ (name = text "." ∨ name = text "..") ∧ ¬ Hidden name)

theorem fileExists_iff (storage : FileStorage) (name : Bytes) (files : Files) :
    storage.fileExists name files = true ↔ ∃ data, storage.readFile true true name files = .ok data := by
  unfold fileExists readFile
  rw [if_pos rfl]
  cases files (cStr (storage.filePath name)) with
  | none =>
    refine iff_of_false (fun there => by cases there) fun read => ?_
    obtain ⟨data, read⟩ := read
    cases read
  | some data => exact iff_of_true rfl ⟨data, rfl⟩

theorem tryRemove_put (files : Files) (path content : Bytes) :
    tryRemove true path (files.put path content) = (true, files.remove path) := by
  have there : (files.put path content path).isSome = true := by
    rw [FileStore.put_at, if_pos rfl]
    rfl
  unfold tryRemove
  rw [if_pos ⟨rfl, there⟩, FileStore.remove_put]

/-- Where `remove` succeeds, this is the write that the key-value storage relies on. -/
theorem tryWriteFile_eq (storage : FileStorage) (answers : WriteAnswers) (removes : answers.removes = true)
    (name data : Bytes) (files : Files) :
    storage.tryWriteFile answers name data files = storage.writeFile answers.toSaveAnswers name data files := by
  unfold tryWriteFile writeFile saveFile
  rw [removes]
  dsimp only
  rw [tryRemove_put, tryRemove_put, FileStore.remove_put]

/-- A write replaces the file, or leaves no more than its temporary file. -/
theorem tryWriteFile_cases (storage : FileStorage) (answers : WriteAnswers) (name data : Bytes) (files : Files) :
    (answers.allSucceed = true ∧ storage.tryWriteFile answers name data files = (.ok (),
      files.replaceVia (cStr (storage.filePath name ++ text ".tmp")) (cStr (storage.filePath name)) data)) ∨
    answers.allSucceed = false ∧ ∃ code files', storage.tryWriteFile answers name data files = (.error code, files') ∧
      ((answers.opens = false ∨ answers.removes = true) ∧
          (files' = files ∨ files' = files.remove (cStr (storage.filePath name ++ text ".tmp"))) ∨
        answers.opens = true ∧ answers.removes = false ∧
          ∃ left, files' = files.put (cStr (storage.filePath name ++ text ".tmp")) left) := by
  cases removes : answers.removes with
  | true =>
    rw [storage.tryWriteFile_eq answers removes]
    rcases saveFile_cases answers.toSaveAnswers (storage.filePath name) data files with saved | failed
    · exact .inl saved
    · obtain ⟨fails, code, files', failed, left⟩ := failed
      exact .inr ⟨fails, code, files', failed, .inl ⟨.inr rfl, left⟩⟩
  | false =>
    obtain ⟨⟨opens, writes, renames⟩, _, remnant⟩ := answers
    cases removes
    cases opens with
    | false => exact .inr ⟨rfl, _, _, rfl, .inl ⟨.inl rfl, .inl rfl⟩⟩
    | true =>
      cases writes with
      | false => exact .inr ⟨rfl, _, _, rfl, .inr ⟨rfl, rfl, remnant, rfl⟩⟩
      | true =>
        cases renames with
        | false => exact .inr ⟨rfl, _, _, rfl, .inr ⟨rfl, rfl, data, rfl⟩⟩
        | true => exact .inl ⟨rfl, rfl⟩

end FileStorage

/-! ## Runs -/

inductive StorageEvent where
  | writeFile (name : FileName) (data : Bytes) (answers : WriteAnswers)
  | deleteFile (name : FileName) (removes : Bool)

/-- The files, with the contents that the calls so far should have left. -/
structure Stored where
  files : Files
  contents : Bytes → Option Bytes

namespace RootedStorage
variable (storage : RootedStorage)

/-- A call that succeeds is remembered. -/
def step (stored : Stored) : StorageEvent → Except Unit (Except PerErrc Unit × Stored)
  | .writeFile name data answers =>
    match storage.tryWriteFile answers name data stored.files with
    | (.ok (), files) => .ok (.ok (), ⟨files, Function.update stored.contents name (some data)⟩)
    | (.error e, files) => .ok (.error e, ⟨files, stored.contents⟩)
  | .deleteFile name removes =>
    match storage.deleteFile removes name stored.files with
    | (.ok (), files) => .ok (.ok (), ⟨files, Function.update stored.contents name none⟩)
    | (.error e, files) => .ok (.error e, ⟨files, stored.contents⟩)

/-- Where a name leads. -/
def path (name : Bytes) : Bytes := cStr (storage.filePath name)

/-- `entries` are the entries of the directory, in any order. -/
def Lists (files : Files) (entries : List Bytes) : Prop :=
  entries.Nodup ∧ ∀ name, name ∈ entries ↔
    name = text "." ∨ name = text ".." ∨ IsFileName name ∧ (files (storage.path name)).isSome

/-- Every file has the content that it should have, and exactly the names of these are listed. -/
structure Refines (stored : Stored) : Prop where
  reads : ∀ name : FileName, storage.readFile true true name stored.files =
    match stored.contents name with
    | some data => .ok data
    | none => .error .fileNotFound
  lists : ∀ entries, storage.Lists stored.files entries →
    ∃ names, FileStorage.getAllFileNames true entries = .ok names ∧ names.Nodup ∧
      ∀ name, name ∈ names ↔ (stored.contents name).isSome

/-- No write succeeds under a name with the suffix of a temporary file, and none leaves its temporary file
behind. -/
def Tidies (_ : Stored) (event : StorageEvent) : Prop :=
  match event with
  | .writeFile name _ answers =>
    (answers.allSucceed = true → ¬ FileStorage.Hidden name) ∧
      (answers.opens = true → answers.allSucceed = false → answers.removes = true)
  | .deleteFile _ _ => True

instance (stored : Stored) (event : StorageEvent) : Decidable (Tidies stored event) :=
  match event with
  | .writeFile _ _ _ => @instDecidableAnd _ _ _ _
  | .deleteFile _ _ => .isTrue trivial

/-! ## Paths and names -/

theorem hidden_temporary {name : Bytes} (some_there : name ≠ []) : FileStorage.Hidden (name ++ text ".tmp") := by
  have length : (text ".tmp").length = 4 := by decide
  have positive := List.length_pos_iff.mpr some_there
  constructor
  · rw [List.length_append, length]
    omega
  · rw [List.length_append, length, Nat.add_sub_cancel, List.drop_left]

theorem isFileName_temporary {name : Bytes} (isName : IsFileName name) : IsFileName (name ++ text ".tmp") := by
  obtain ⟨some_there, no_zero, no_slash, -, -⟩ := isName
  have long : 4 < (name ++ text ".tmp").length := (hidden_temporary some_there).1
  refine ⟨?_, ?_, ?_, ?_, ?_⟩
  · exact List.ne_nil_of_length_pos (by omega)
  · rw [List.mem_append, not_or]
    exact ⟨no_zero, by decide⟩
  · rw [List.mem_append, not_or]
    exact ⟨no_slash, by decide⟩
  · intro same
    rw [same] at long
    revert long
    decide
  · intro same
    rw [same] at long
    revert long
    decide

variable {storage}

theorem path_eq {name : Bytes} (isName : IsFileName name) : storage.path name = storage.filePath name := by
  apply cStr_of_notMem
  unfold FileStorage.filePath
  rw [List.mem_append, List.mem_append, not_or, not_or]
  exact ⟨⟨storage.clean, by decide⟩, isName.2.1⟩

theorem path_inj {name other : Bytes} (isName : IsFileName name) (isOther : IsFileName other) :
    storage.path name = storage.path other ↔ name = other := by
  rw [path_eq isName, path_eq isOther]
  constructor
  · exact fun same => List.append_cancel_left same
  · exact fun same => congrArg storage.filePath same

theorem path_temporary (name : Bytes) :
    cStr (storage.filePath name ++ text ".tmp") = storage.path (name ++ text ".tmp") := by
  unfold path FileStorage.filePath
  rw [List.append_assoc _ name]

/-! ## What the calls should leave, name by name -/

/-- The files of the directory are those that should be there, and none has the suffix of a temporary file. -/
structure Matches (storage : RootedStorage) (stored : Stored) : Prop where
  same : ∀ name, IsFileName name → stored.files (storage.path name) = stored.contents name
  shown : ∀ name, (stored.contents name).isSome → IsFileName name ∧ ¬ FileStorage.Hidden name

/-- There are finitely many entries. -/
def Bounded (storage : RootedStorage) (stored : Stored) : Prop :=
  {name | IsFileName name ∧ (stored.files (storage.path name)).isSome}.Finite

variable {stored stored' : Stored}

theorem readFile_eq (name : Bytes) (files : Files) :
    storage.readFile true true name files =
      match files (storage.path name) with
      | some data => .ok data
      | none => .error .fileNotFound := by
  unfold FileStorage.readFile path
  rw [if_pos rfl]
  split <;> rename_i found <;> rw [found]
  rfl

theorem mem_names {entries names : List Bytes} (lists : storage.Lists stored.files entries)
    (listed : FileStorage.getAllFileNames true entries = .ok names) (name : Bytes) :
    name ∈ names ↔ IsFileName name ∧ (stored.files (storage.path name)).isSome ∧ ¬ FileStorage.Hidden name := by
  unfold FileStorage.getAllFileNames at listed
  cases listed
  rw [List.mem_filter, lists.2, decide_eq_true_eq, not_or]
  constructor
  · intro here
    obtain ⟨isDot | isDots | ⟨isName, there⟩, ⟨noDot, noDots⟩, shown⟩ := here
    · exact absurd isDot noDot
    · exact absurd isDots noDots
    · exact ⟨isName, there, shown⟩
  · intro here
    obtain ⟨isName, there, shown⟩ := here
    exact ⟨.inr (.inr ⟨isName, there⟩), ⟨isName.2.2.2.1, isName.2.2.2.2⟩, shown⟩

theorem Bounded.exists_lists (bounded : Bounded storage stored) : ∃ entries, storage.Lists stored.files entries := by
  have here : ∀ name, name ∈ (Set.Finite.toFinset bounded).toList ↔
      IsFileName name ∧ (stored.files (storage.path name)).isSome := by
    intro name
    rw [Finset.mem_toList]
    exact Set.Finite.mem_toFinset bounded
  refine ⟨text "." :: text ".." :: (Set.Finite.toFinset bounded).toList, ?_, ?_⟩
  · rw [List.nodup_cons, List.nodup_cons, List.mem_cons, not_or, here, here]
    refine ⟨⟨by decide, ?_⟩, ?_, Finset.nodup_toList _⟩
    · exact fun dot => dot.1.2.2.2.1 rfl
    · exact fun dots => dots.1.2.2.2.2 rfl
  · intro name
    rw [List.mem_cons, List.mem_cons, here]

/-- What the calls show is the contents exactly when the files are and none is hidden. -/
theorem refines_iff (bounded : Bounded storage stored) : storage.Refines stored ↔ Matches storage stored := by
  constructor
  · intro refines
    obtain ⟨entries, lists⟩ := bounded.exists_lists
    obtain ⟨names, listed, -, exactly⟩ := refines.lists entries lists
    constructor
    · intro name isName
      have read := refines.reads ⟨name, isName⟩
      rw [readFile_eq] at read
      cases file : stored.files (storage.path name) with
      | none =>
        cases content : stored.contents name with
        | none => rfl
        | some data =>
          rw [file, content] at read
          cases read
      | some data =>
        cases content : stored.contents name with
        | none =>
          rw [file, content] at read
          cases read
        | some data' =>
          rw [file, content] at read
          exact congrArg some (Except.ok.inj read)
    · intro name there
      have shown := (mem_names lists listed name).mp ((exactly name).mpr there)
      exact ⟨shown.1, shown.2.2⟩
  · intro isMatch
    constructor
    · intro name
      rw [readFile_eq, isMatch.same name name.2]
    · intro entries lists
      refine ⟨_, rfl, lists.1.filter _, fun name => ?_⟩
      rw [mem_names lists rfl]
      constructor
      · intro listed
        rw [← isMatch.same name listed.1]
        exact listed.2.1
      · intro there
        obtain ⟨isName, shown⟩ := isMatch.shown name there
        refine ⟨isName, ?_, shown⟩
        rw [isMatch.same name isName]
        exact there

/-! ## The calls -/

theorem Bounded.of_others (bounded : Bounded storage stored) (name : Bytes)
    (others : ∀ other, IsFileName other → other ≠ name → (stored'.files (storage.path other)).isSome →
      (stored.files (storage.path other)).isSome) : Bounded storage stored' := by
  apply (Set.Finite.insert name bounded).subset
  intro other there
  by_cases here : other = name
  · exact .inl here
  · exact .inr ⟨there.1, others other there.1 here there.2⟩

variable {name : FileName} {data : Bytes} {answers : WriteAnswers} {output : Except PerErrc Unit}

theorem Bounded.removed (bounded : Bounded storage stored) (path : Bytes) (contents : Bytes → Option Bytes) :
    Bounded storage ⟨stored.files.remove path, contents⟩ := by
  apply bounded.of_others []
  intro other _ _ there
  dsimp only at there
  rw [FileStore.remove_at] at there
  split_ifs at there
  · cases there
  · exact there

theorem Bounded.replaced (bounded : Bounded storage stored) (name : FileName) (via data : Bytes)
    (contents : Bytes → Option Bytes) :
    Bounded storage ⟨stored.files.replaceVia via (storage.path name) data, contents⟩ := by
  apply bounded.of_others name
  intro other isOther differs there
  dsimp only at there
  rw [FileStore.replaceVia_at, if_neg fun same => differs ((path_inj isOther name.2).mp same)] at there
  split_ifs at there
  · cases there
  · exact there

theorem Bounded.added (bounded : Bounded storage stored) {name : Bytes} (isName : IsFileName name) (data : Bytes)
    (contents : Bytes → Option Bytes) : Bounded storage ⟨stored.files.put (storage.path name) data, contents⟩ := by
  apply bounded.of_others name
  intro other isOther differs there
  dsimp only at there
  rw [FileStore.put_at, if_neg fun same => differs ((path_inj isOther isName).mp same)] at there
  exact there

/-- Nothing should be there under the name of a temporary file. -/
theorem Matches.temporary_absent (isMatch : Matches storage stored) (name : FileName) :
    stored.contents (name.1 ++ text ".tmp") = none := by
  by_contra there
  exact (isMatch.shown _ (Option.isSome_iff_ne_none.mpr there)).2 (hidden_temporary name.2.1)

/-- A write under a name that is shown keeps the other files, and leaves no temporary file. -/
theorem Matches.replaced (isMatch : Matches storage stored) (shown : ¬ FileStorage.Hidden name.1) :
    Matches storage ⟨stored.files.replaceVia (cStr (storage.filePath name ++ text ".tmp"))
      (cStr (storage.filePath name)) data, Function.update stored.contents name (some data)⟩ := by
  constructor
  · intro other isOther
    dsimp only
    have target : cStr (storage.filePath name) = storage.path name := rfl
    rw [FileStore.replaceVia_at, path_temporary, target]
    by_cases here : other = name.1
    · rw [if_pos ((path_inj isOther name.2).mpr here), here, Function.update_self]
    · rw [if_neg fun same => here ((path_inj isOther name.2).mp same), Function.update_of_ne here]
      by_cases temporary : other = name.1 ++ text ".tmp"
      · rw [if_pos (by rw [temporary]), temporary, isMatch.temporary_absent name]
      · rw [if_neg fun same => temporary ((path_inj isOther (isFileName_temporary name.2)).mp same)]
        exact isMatch.same other isOther
  · intro other there
    by_cases here : other = name.1
    · rw [here]
      exact ⟨name.2, shown⟩
    · dsimp only at there
      rw [Function.update_of_ne here] at there
      exact isMatch.shown other there

theorem Matches.removed (isMatch : Matches storage stored) :
    Matches storage ⟨stored.files.remove (cStr (storage.filePath name ++ text ".tmp")), stored.contents⟩ := by
  constructor
  · intro other isOther
    dsimp only
    rw [FileStore.remove_at, path_temporary]
    by_cases temporary : other = name.1 ++ text ".tmp"
    · rw [if_pos (by rw [temporary]), temporary, isMatch.temporary_absent name]
    · rw [if_neg fun same => temporary ((path_inj isOther (isFileName_temporary name.2)).mp same)]
      exact isMatch.same other isOther
  · exact isMatch.shown

/-- A temporary file that is left behind can be read under its name. -/
theorem Matches.left_behind (isMatch : Matches storage stored) (left : Bytes) :
    ¬ Matches storage ⟨stored.files.put (cStr (storage.filePath name ++ text ".tmp")) left, stored.contents⟩ := by
  intro after
  have isTemporary := isFileName_temporary name.2
  have same := after.same _ isTemporary
  dsimp only at same
  rw [path_temporary, FileStore.put_at, if_pos rfl, isMatch.temporary_absent name] at same
  cases same

theorem Matches.wrote (isMatch : Matches storage stored) (bounded : Bounded storage stored)
    (taken : storage.step stored (.writeFile name data answers) = .ok (output, stored')) :
    Bounded storage stored' ∧ (Tidies stored (.writeFile name data answers) ↔ Matches storage stored') := by
  unfold step at taken
  dsimp only at taken
  rcases storage.tryWriteFile_cases answers name data stored.files with
    ⟨succeeds, saved⟩ | ⟨fails, code, files', failed, left⟩
  · rw [saved] at taken
    cases taken
    refine ⟨bounded.replaced name _ data _, ?_⟩
    constructor
    · exact fun tidies => isMatch.replaced (tidies.1 succeeds)
    · intro after
      refine ⟨fun _ => ?_, fun _ fails => by cases succeeds.symm.trans fails⟩
      apply (after.shown name ?_).2
      dsimp only
      rw [Function.update_self]
      rfl
  · rw [failed] at taken
    cases taken
    rcases left with ⟨tidied, left⟩ | ⟨opens, stays, remnant, rfl⟩
    · have tidies : Tidies stored (.writeFile name data answers) := by
        refine ⟨fun succeeds => ?_, fun opens _ => ?_⟩
        · cases succeeds.symm.trans fails
        · exact tidied.resolve_left (by rw [opens]; decide)
      rcases left with rfl | rfl
      · exact ⟨bounded, iff_of_true tidies ⟨isMatch.same, isMatch.shown⟩⟩
      · exact ⟨bounded.removed _ _, iff_of_true tidies isMatch.removed⟩
    · refine ⟨?_, iff_of_false ?_ (isMatch.left_behind remnant)⟩
      · rw [path_temporary]
        exact bounded.added (isFileName_temporary name.2) remnant _
      · intro tidies
        cases stays.symm.trans (tidies.2 opens fails)

/-- A delete keeps files that match, whether it succeeds or not. -/
theorem Matches.deleted (isMatch : Matches storage stored) (bounded : Bounded storage stored) {removes : Bool}
    (taken : storage.step stored (.deleteFile name removes) = .ok (output, stored')) :
    Bounded storage stored' ∧ Matches storage stored' := by
  unfold step FileStorage.deleteFile FileStorage.tryRemove at taken
  dsimp only at taken
  by_cases there : removes = true ∧ (stored.files (cStr (storage.filePath name))).isSome
  · rw [if_pos there] at taken
    cases taken
    have target : cStr (storage.filePath name) = storage.path name := rfl
    refine ⟨bounded.removed _ _, ?_, ?_⟩
    · intro other isOther
      dsimp only
      rw [FileStore.remove_at, target]
      by_cases here : other = name.1
      · rw [if_pos (by rw [here]), here, Function.update_self]
      · rw [if_neg fun same => here ((path_inj isOther name.2).mp same), Function.update_of_ne here]
        exact isMatch.same other isOther
    · intro other remains
      dsimp only at remains
      by_cases here : other = name.1
      · rw [here, Function.update_self] at remains
        cases remains
      · rw [Function.update_of_ne here] at remains
        exact isMatch.shown other remains
  · rw [if_neg there] at taken
    cases taken
    exact ⟨bounded, isMatch.same, isMatch.shown⟩

theorem Matches.stepped (isMatch : Matches storage stored) (bounded : Bounded storage stored) {event : StorageEvent}
    (taken : storage.step stored event = .ok (output, stored')) :
    Bounded storage stored' ∧ (Tidies stored event ↔ Matches storage stored') := by
  cases event with
  | writeFile name data answers => exact isMatch.wrote bounded taken
  | deleteFile name removes =>
    obtain ⟨bounded', isMatch'⟩ := isMatch.deleted bounded taken
    exact ⟨bounded', iff_of_true trivial isMatch'⟩

/-! ## Whole runs -/

/-- The file that a call is about. -/
def nameOf : StorageEvent → Bytes
  | .writeFile name _ _ => name
  | .deleteFile name _ => name

/-- The call leaves what every other name reads. -/
def LeavesOthers (storage : RootedStorage) (taken : Taken Stored StorageEvent (Except PerErrc Unit)) : Prop :=
  ∀ after, storage.step taken.before taken.input = .ok (taken.output, after) →
    ∀ other : FileName, other.1 ≠ nameOf taken.input →
      storage.readFile true true other after.files = storage.readFile true true other taken.before.files

theorem contents_others {event : StorageEvent} (taken : storage.step stored event = .ok (output, stored'))
    {other : Bytes} (differs : other ≠ nameOf event) : stored'.contents other = stored.contents other := by
  unfold step at taken
  cases event with
  | writeFile name data answers =>
    dsimp only at taken
    split at taken
    · cases taken
      exact Function.update_of_ne differs _ _
    · cases taken
      rfl
  | deleteFile name removes =>
    dsimp only at taken
    split at taken
    · cases taken
      exact Function.update_of_ne differs _ _
    · cases taken
      rfl

theorem Matches.leavesOthers (isMatch : Matches storage stored) (isMatch' : Matches storage stored')
    {event : StorageEvent} (taken : storage.step stored event = .ok (output, stored')) :
    LeavesOthers storage ⟨stored, event, output⟩ := by
  refine (Run.forall_after_iff taken).mpr ?_
  intro other differs
  rw [readFile_eq, readFile_eq, isMatch.same other other.2, isMatch'.same other other.2,
    contents_others taken differs]

/-- For every run of writes and deletes from an empty directory: reads and listings show the contents that there
should be exactly when no write succeeds under a hidden name and none leaves its temporary file behind; and then
no call changes what another name reads. -/
theorem refines_iff_tidies {files : Files}
    (empty : ∀ name, IsFileName name → files (storage.path name) = none)
    {trace : List (Taken Stored StorageEvent (Except PerErrc Unit))}
    (run : Run storage.step ⟨files, fun _ => none⟩ trace stored) :
    (Run.Throughout storage.Refines trace stored ↔ Run.Every Tidies trace) ∧
      (Run.Every Tidies trace → ∀ taken ∈ trace, LeavesOthers storage taken) := by
  have nothing : {name | IsFileName name ∧ (files (storage.path name)).isSome} = ∅ := by
    apply Set.eq_empty_of_forall_notMem
    intro name there
    have gone := there.2
    rw [empty name there.1] at gone
    cases gone
  have bounded : Bounded storage ⟨files, fun _ => none⟩ := by
    unfold Bounded
    dsimp only
    rw [nothing]
    exact Set.finite_empty
  have start : Matches storage ⟨files, fun _ => none⟩ := ⟨empty, fun _ none_there => by cases none_there⟩
  -- that the directory is finite is needed to have a list of it
  let tracked (stored : Stored) : Prop := Bounded storage stored ∧ Matches storage stored
  have implies : ∀ stored, tracked stored → storage.Refines stored := fun _ kept => (refines_iff kept.1).mpr kept.2
  have first : tracked ⟨files, fun _ => none⟩ := ⟨bounded, start⟩
  constructor
  · apply Run.throughout_iff_every implies first ?_ ?_ run
    · intro stored event output stored' kept tidies taken
      obtain ⟨bounded', isMatch'⟩ := kept.2.stepped kept.1 taken
      exact ⟨bounded', isMatch'.mp tidies⟩
    · intro stored event output stored' kept untidy taken refines
      obtain ⟨bounded', isMatch'⟩ := kept.2.stepped kept.1 taken
      exact untidy (isMatch'.mpr ((refines_iff bounded').mp refines))
  · intro every
    let history (trace : List (Taken Stored StorageEvent (Except PerErrc Unit))) (stored : Stored) : Prop :=
      tracked stored ∧ ∀ taken ∈ trace, LeavesOthers storage taken
    have begun : history [] ⟨files, fun _ => none⟩ := ⟨first, fun _ none_yet => by cases none_yet⟩
    have whole : history trace stored := by
      apply Run.invariant begun ?_ run every
      intro trace stored event output stored' earlier tidies taken
      obtain ⟨⟨bounded, isMatch⟩, others⟩ := earlier
      obtain ⟨bounded', isMatch'⟩ := isMatch.stepped bounded taken
      have after := isMatch'.mp tidies
      exact ⟨⟨bounded', after⟩, List.forall_mem_cons.mpr ⟨isMatch.leavesOthers after taken, others⟩⟩
    exact whole.2

/-! ## Samples -/

def sampleStorage : RootedStorage := ⟨⟨text "/s"⟩, by decide⟩

def sampleName : FileName := ⟨text "a", by decide⟩

/-- The name of the temporary file of the other one. -/
def temporaryName : FileName := ⟨text "a.tmp", by decide⟩

def succeeding : WriteAnswers := ⟨⟨true, true, true⟩, true, []⟩

/-- The disk is full, and the temporary file is removed. -/
def full : WriteAnswers := ⟨⟨true, false, true⟩, true, [7]⟩

theorem refines_iff_tidies_sample : ∃ trace stored,
    Run.play sampleStorage.step [] ⟨fun _ => none, fun _ => none⟩
        [.writeFile sampleName [1, 2] succeeding, .writeFile sampleName [3] full,
          .writeFile ⟨text "ab", by decide⟩ [4] succeeding, .deleteFile sampleName true] = .ok (trace, stored) ∧
      Run.Throughout sampleStorage.Refines trace stored ∧
      stored.contents (text "ab") = some [4] ∧ stored.contents (text "a") = none := by
  obtain ⟨trace, stored, played, every, kept, gone⟩ : ∃ trace stored,
      Run.play sampleStorage.step [] ⟨fun _ => none, fun _ => none⟩
          [.writeFile sampleName [1, 2] succeeding, .writeFile sampleName [3] full,
            .writeFile ⟨text "ab", by decide⟩ [4] succeeding, .deleteFile sampleName true] = .ok (trace, stored) ∧
        Run.Every Tidies trace ∧ stored.contents (text "ab") = some [4] ∧ stored.contents (text "a") = none :=
    ⟨_, _, rfl, by decide, by decide, by decide⟩
  have run : Run sampleStorage.step ⟨fun _ => none, fun _ => none⟩ trace stored := Run.of_play .start played
  have refines := (refines_iff_tidies (fun _ _ => rfl) run).1.mpr every
  exact ⟨trace, stored, played, refines, kept, gone⟩

/-- A file is written under the name of another one's temporary file, and is gone behind the write of that
one. -/
theorem not_always_refines : ∃ trace stored,
    Run.play sampleStorage.step [] ⟨fun _ => none, fun _ => none⟩
        [.writeFile temporaryName [1] succeeding, .writeFile sampleName [2] succeeding] = .ok (trace, stored) ∧
      trace.map Taken.output = [.ok (), .ok ()] ∧
      sampleStorage.readFile true true temporaryName stored.files = .error .fileNotFound ∧
      ¬ Run.Throughout sampleStorage.Refines trace stored := by
  refine ⟨_, _, rfl, rfl, by decide, fun always => ?_⟩
  have read := always.1.reads temporaryName
  revert read
  decide

end RootedStorage
end AdaptiveAutosar.Per
