import Mathlib.Data.List.TakeWhile
import AdaptiveAutosar.Foundations.BigEndian
import AdaptiveAutosar.Foundations.Cursor
import AdaptiveAutosar.Foundations.FileStore
import AdaptiveAutosar.Foundations.OrderedMap

/-! # Persistency: file storage and key-value storage

Both save a file by writing `<path>.tmp` and renaming it. A `std::string` is its bytes; the system
calls see it up to its first NUL. What the system calls answer is part of the input; `remove`
succeeds.
-/

namespace AdaptiveAutosar.Per
open Foundations
set_option autoImplicit false

abbrev Files := FileStore Bytes Bytes

/-- The bytes of an ASCII literal. -/
def text (literal : String) : Bytes := literal.toList.map fun c => c.toNat.toUInt8

/-- The path that `open`, `rename` and `remove` take from `c_str()`. -/
def cStr (path : Bytes) : Bytes := path.takeWhile (· ≠ 0)

theorem zero_notMem_cStr (path : Bytes) : 0 ∉ cStr path := by
  intro there
  have := List.mem_takeWhile_imp there
  simp at this

theorem cStr_of_notMem {path : Bytes} (clean : 0 ∉ path) : cStr path = path := by
  refine List.takeWhile_eq_self_iff.mpr fun byte there => ?_
  have other : byte ≠ 0 := fun zero => clean (zero ▸ there)
  simp [other]

theorem cStr_append {front : Bytes} (clean : 0 ∉ front) (back : Bytes) :
    cStr (front ++ back) = front ++ cStr back := by
  refine List.takeWhile_append_of_pos fun byte there => ?_
  have other : byte ≠ 0 := fun zero => clean (zero ▸ there)
  simp [other]

theorem cStr_append_of_mem {front : Bytes} (ends : 0 ∈ front) (back : Bytes) :
    cStr (front ++ back) = cStr front := by
  induction front with
  | nil => cases ends
  | cons byte rest ih =>
    by_cases zero : byte = 0
    · simp [cStr, zero]
    · have later : 0 ∈ rest := (List.mem_cons.mp ends).resolve_left fun h => zero h.symm
      have := ih later
      simp_all [cStr]

inductive PerErrc where
  | storageNotFound
  | keyNotFound
  | illegalWriteAccess
  | physicalStorageFailure
  | integrityCorrupted
  | outOfStorageSpace
  | initValueNotAvailable
  | resourceBusy
  | fileNotFound
  deriving DecidableEq, Repr

/-! ## Saving a file -/

/-- Whether the temporary file opens, takes all its bytes and can be renamed. -/
structure SaveAnswers where
  opens : Bool
  writes : Bool
  renames : Bool

def SaveAnswers.allSucceed (answers : SaveAnswers) : Bool :=
  answers.opens && answers.writes && answers.renames

def saveFile (answers : SaveAnswers) (path content : Bytes) (files : Files) :
    Except PerErrc Unit × Files :=
  let tmp := cStr (path ++ text ".tmp")
  if !answers.opens then (.error .physicalStorageFailure, files)
  else if !answers.writes then (.error .outOfStorageSpace, files.remove tmp)
  else
    let written := files.put tmp content
    if !answers.renames then (.error .physicalStorageFailure, written.remove tmp)
    else (.ok (), written.rename tmp (cStr path))

theorem saveFile_succeeded {answers : SaveAnswers} (succeeds : answers.allSucceed = true) (path content : Bytes)
    (files : Files) : saveFile answers path content files =
      (.ok (), files.replaceVia (cStr (path ++ text ".tmp")) (cStr path) content) := by
  obtain ⟨opens, writes, renames⟩ := answers
  simp only [SaveAnswers.allSucceed, Bool.and_eq_true] at succeeds
  obtain ⟨⟨rfl, rfl⟩, rfl⟩ := succeeds
  rfl

/-- A save that fails behind the opening of its temporary file removes this. -/
theorem saveFile_failed {answers : SaveAnswers} (fails : answers.allSucceed = false) (path content : Bytes)
    (files : Files) : ∃ e, saveFile answers path content files =
      (.error e, if answers.opens then files.remove (cStr (path ++ text ".tmp")) else files) := by
  obtain ⟨opens, writes, renames⟩ := answers
  cases opens with
  | false => exact ⟨_, rfl⟩
  | true =>
    cases writes with
    | false => exact ⟨_, rfl⟩
    | true =>
      cases renames with
      | false => exact ⟨_, congrArg (Prod.mk _) (FileStore.remove_put files _ content)⟩
      | true => cases fails

/-- A save either replaces the file or reports an error, and then leaves at most a file less. -/
theorem saveFile_cases (answers : SaveAnswers) (path content : Bytes) (files : Files) :
    (answers.allSucceed = true ∧ saveFile answers path content files =
        (.ok (), files.replaceVia (cStr (path ++ text ".tmp")) (cStr path) content)) ∨
      (answers.allSucceed = false ∧ ∃ code files', saveFile answers path content files =
        (.error code, files') ∧ (files' = files ∨ files' = files.remove (cStr (path ++ text ".tmp")))) := by
  cases succeeds : answers.allSucceed with
  | true => exact .inl ⟨rfl, saveFile_succeeded succeeds path content files⟩
  | false =>
    obtain ⟨code, failed⟩ := saveFile_failed succeeds path content files
    refine .inr ⟨rfl, code, _, failed, ?_⟩
    split_ifs
    · exact .inr rfl
    · exact .inl rfl

/-! ## FileStorage -/

structure FileStorage where
  storageRoot : Bytes

namespace FileStorage

def filePath (storage : FileStorage) (name : Bytes) : Bytes :=
  storage.storageRoot ++ text "/" ++ name

/-- `available`: the directory is made or is there already. -/
def open_ (available : Bool) (storageRoot : Bytes) : Except PerErrc FileStorage :=
  if !available then .error .physicalStorageFailure else .ok ⟨storageRoot⟩

def writeFile (storage : FileStorage) (answers : SaveAnswers) (name data : Bytes) (files : Files) :
    Except PerErrc Unit × Files :=
  saveFile answers (storage.filePath name) data files

end FileStorage

/-! ## Json values -/

inductive Json where
  | null
  | bool (value : Bool)
  /-- An integer or a real, with the text `asString` gives it. -/
  | number (printed : Bytes)
  | string (value : Bytes)
  | array (elements : List Json)
  | object (members : List (Bytes × Json))

namespace Json

/-- The member of a key. Null has no members, and no other value than an object has any. -/
def member? (value : Json) (key : Bytes) (defaultValue : Json) : Option Json :=
  match value with
  | .null => some defaultValue
  | .object members => some (((OrderedMap.ofList members).find? key).getD defaultValue)
  | _ => none

/-- The text of a value that is neither an array nor an object. -/
def text? : Json → Option Bytes
  | .null => some []
  | .bool value => some (if value then text "true" else text "false")
  | .number printed => some printed
  | .string value => some value
  | _ => none

end Json

/-- An accessor of the library gives what is there, and throws `Json::LogicError` where nothing is. -/
def Accesses {α : Type} (there : Option α) (outcome : Outcome α) : Prop :=
  match there with
  | some a => outcome = .ok a
  | none => ∃ what, outcome = .error (.thrown (.logicError what))

theorem Accesses.ne_undefined {α : Type} {there : Option α} {outcome : Outcome α}
    (accesses : Accesses there outcome) : outcome ≠ .error .undefined := by
  cases there with
  | some a =>
    rintro rfl
    cases accesses
  | none =>
    rintro rfl
    obtain ⟨what, thrown⟩ := accesses
    cases thrown

/-- The accessors of `Json::Value`, as the library documents them. -/
structure JsonValues where
  get : Json → Bytes → Json → Outcome Json
  /-- `operator[]`. -/
  resolveReference : Json → Bytes → Outcome Json
  asString : Json → Outcome Bytes
  get_accesses : ∀ value key defaultValue,
    Accesses (value.member? key defaultValue) (get value key defaultValue)
  resolveReference_accesses : ∀ value key, Accesses (value.member? key .null) (resolveReference value key)
  asString_accesses : ∀ value, Accesses value.text? (asString value)

/-- What is there, and one text for all exceptions. -/
def access {α : Type} : Option α → Outcome α
  | some a => .ok a
  | none => .error (.thrown (.logicError "Value is not convertible."))

theorem accesses_access {α : Type} (there : Option α) : Accesses there (access there) := by
  cases there with
  | some a => rfl
  | none => exact ⟨_, rfl⟩

def JsonValues.plain : JsonValues where
  get value key defaultValue := access (value.member? key defaultValue)
  resolveReference value key := access (value.member? key .null)
  asString value := access value.text?
  get_accesses _ _ _ := accesses_access _
  resolveReference_accesses _ _ := accesses_access _
  asString_accesses _ := accesses_access _

/-- The parser and the writer of the JSON library. -/
structure JsonCodec where
  parseFromStream : Bytes → Option Json
  write : Json → Bytes

/-! ## KeyValueStorage -/

structure KeyValueStorage where
  storagePath : Bytes
  root : OrderedMap Bytes Json

namespace KeyValueStorage

/-- A file that is missing or does not open makes an empty storage. -/
def open_ (codec : JsonCodec) (opens : Bool) (storagePath : Bytes) (files : Files) :
    Except PerErrc KeyValueStorage :=
  match if opens then files (cStr storagePath) else none with
  | none => .ok ⟨storagePath, .empty⟩
  | some content =>
    match codec.parseFromStream content with
    | none => .error .integrityCorrupted
    | some (.object members) => .ok ⟨storagePath, .ofList members⟩
    | some _ => .error .integrityCorrupted

def getAllKeys (storage : KeyValueStorage) : List Bytes := storage.root.keys

/-- `GetValue<std::string>`. -/
def getValue (storage : KeyValueStorage) (key : Bytes) : Except PerErrc Bytes :=
  match storage.root.find? key with
  | none => .error .keyNotFound
  | some (.string value) => .ok value
  | some _ => .error .integrityCorrupted

/-- `SetValue<std::string>`. -/
def setValue (storage : KeyValueStorage) (key value : Bytes) : KeyValueStorage :=
  { storage with root := storage.root.insert key (.string value) }

def syncToStorage (codec : JsonCodec) (storage : KeyValueStorage) (answers : SaveAnswers)
    (files : Files) : Except PerErrc Unit × Files :=
  saveFile answers storage.storagePath (codec.write (.object storage.root.entries)) files

end KeyValueStorage
end AdaptiveAutosar.Per
