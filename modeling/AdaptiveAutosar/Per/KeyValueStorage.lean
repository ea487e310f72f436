import Mathlib.Data.Rat.Defs
import AdaptiveAutosar.Foundations.DecimalText
import AdaptiveAutosar.Foundations.Transition
import AdaptiveAutosar.Per.Storage

/-! # Key-value storage as a persistent map

All calls of `ara::per::KeyValueStorage` on a backing file that nobody else changes, through any number of
openings. An exception that one of them throws ends the process, for they are all `noexcept`.
-/

namespace AdaptiveAutosar.Per
open Foundations
set_option autoImplicit false

/-! ## Numbers of the JSON library -/

/-- What `Json::Value` holds for a number: a finite double is a rational. -/
inductive Number where
  | int (value : Int64)
  | uint (value : UInt64)
  | real (value : ℚ)
  | infinite
  deriving DecidableEq

namespace Number

/-- The values of an `int`. -/
def Fits (value : ℤ) : Prop := DecimalText.intMin ≤ value ∧ value ≤ DecimalText.intMax

instance (value : ℤ) : Decidable (Fits value) := inferInstanceAs (Decidable (_ ∧ _))

/-- The integer that a number is. -/
def integer? : Number → Option ℤ
  | .int value => some value.toInt
  | .uint value => some value.toNat
  | .real value => if value.den = 1 then some value.num else none
  | .infinite => none

/-- An integer of 64 bits, with a sign or without. -/
def Integral (number : Number) : Prop :=
  ∃ value ∈ number.integer?, -9223372036854775808 ≤ value ∧ value ≤ 18446744073709551615

instance : DecidablePred Integral := fun _ => @Option.decidableExistsMem _ _ (fun _ => inferInstance) _

/-- The `int` that represents a number. -/
def int? (number : Number) : Option Int32 :=
  match number.integer? with
  | some value => if Fits value then some (.ofInt value) else none
  | none => none

theorem integral_of_int? {number : Number} {value : Int32} (represents : number.int? = some value) :
    number.Integral := by
  unfold int? at represents
  split at represents
  · rename_i integer isInteger
    split_ifs at represents with fits
    obtain ⟨above, below⟩ := fits
    rw [DecimalText.intMin] at above
    rw [DecimalText.intMax] at below
    exact ⟨integer, isInteger, by omega, by omega⟩
  · cases represents

end Number

/-- The accessors of `Json::Value` for numbers, as the library documents them. `number` gives the number of a
text. -/
structure JsonNumbers extends JsonValues where
  number : Bytes → Number
  isIntegral : Json → Bool
  asInt : Json → Outcome Int32
  asBool : Json → Outcome Bool
  isIntegral_iff : ∀ value, isIntegral value = true ↔ ∃ printed, value = .number printed ∧ (number printed).Integral
  asInt_accesses : ∀ printed, (number printed).Integral → Accesses (number printed).int? (asInt (.number printed))
  asBool_bool : ∀ value, asBool (.bool value) = .ok value

/-! ## The calls -/

namespace Json

def isString : Json → Bool
  | .string _ => true
  | _ => false

def isBool : Json → Bool
  | .bool _ => true
  | _ => false

/-- The text of an `int`. -/
def ofInt (value : Int32) : Json :=
  .number (((if value.toInt < 0 then ['-'] else []) ++ Nat.toDigits 10 value.toInt.natAbs).map
    fun c => c.toNat.toUInt8)

end Json

namespace KeyValueStorage

def hasKey (storage : KeyValueStorage) (key : Bytes) : Bool := (storage.root.find? key).isSome

def removeKey (storage : KeyValueStorage) (key : Bytes) : Except PerErrc Unit × KeyValueStorage :=
  if storage.hasKey key then (.ok (), { storage with root := storage.root.erase key })
  else (.error .keyNotFound, storage)

/-- `GetValue`, for a type with its test and its conversion. -/
def getValueAs {α : Type} (isType : Json → Bool) (asType : Json → Outcome α) (storage : KeyValueStorage)
    (key : Bytes) : Outcome (Except PerErrc α) :=
  match storage.root.find? key with
  | none => .ok (.error .keyNotFound)
  | some value => if isType value then (asType value).map .ok else .ok (.error .integrityCorrupted)

/-- `GetValue<std::string>`. -/
def getString (values : JsonValues) : KeyValueStorage → Bytes → Outcome (Except PerErrc Bytes) :=
  getValueAs Json.isString values.asString

/-- `GetValue<int>`. -/
def getInt (numbers : JsonNumbers) : KeyValueStorage → Bytes → Outcome (Except PerErrc Int32) :=
  getValueAs numbers.isIntegral numbers.asInt

/-- `GetValue<bool>`. -/
def getBool (numbers : JsonNumbers) : KeyValueStorage → Bytes → Outcome (Except PerErrc Bool) :=
  getValueAs Json.isBool numbers.asBool

/-- `SetValue<int>`. -/
def setInt (storage : KeyValueStorage) (key : Bytes) (value : Int32) : KeyValueStorage :=
  { storage with root := storage.root.insert key (.ofInt value) }

/-- `SetValue<bool>`. -/
def setBool (storage : KeyValueStorage) (key : Bytes) (value : Bool) : KeyValueStorage :=
  { storage with root := storage.root.insert key (.bool value) }

/-- The short form of the read for strings, which never throw. -/
theorem getString_eq (values : JsonValues) (storage : KeyValueStorage) (key : Bytes) :
    storage.getString values key = .ok (storage.getValue key) := by
  unfold getString getValueAs getValue
  cases storage.root.find? key with
  | none => rfl
  | some value =>
    cases value with
    | string value =>
      have read : values.asString (.string value) = .ok value := values.asString_accesses (.string value)
      simp only [Json.isString, read]
      rfl
    | _ => rfl

end KeyValueStorage

/-! ## A persistent map -/

/-- What a key is mapped to. -/
inductive Value where
  | string (value : Bytes)
  | bool (value : Bool)
  | number (value : Number)
  | other (value : Json)

namespace Value

def string? : Value → Option Bytes
  | .string value => some value
  | _ => none

def bool? : Value → Option Bool
  | .bool value => some value
  | _ => none

def int? : Value → Option Int32
  | .number value => value.int?
  | _ => none

/-- The read of a key as a type: `represents` gives the value of the type. -/
def readAs {α : Type} (represents : Value → Option α) : Option Value → Except PerErrc α
  | none => .error .keyNotFound
  | some value =>
    match represents value with
    | some a => .ok a
    | none => .error .integrityCorrupted

/-- A number that the type test takes for an integer, and that is no `int`. -/
def Overflows : Value → Prop
  | .number value => value.Integral ∧ value.int? = none
  | _ => False

instance : DecidablePred Overflows := fun value =>
  match value with
  | .number _ => @instDecidableAnd _ _ _ _
  | .string _ | .bool _ | .other _ => .isFalse id

end Value

def Json.value (numbers : JsonNumbers) : Json → Value
  | .string value => .string value
  | .bool value => .bool value
  | .number printed => .number (numbers.number printed)
  | json => .other json

/-- The map that the members of an object stand for. -/
def meaning (numbers : JsonNumbers) (root : OrderedMap Bytes Json) (key : Bytes) : Option Value :=
  (root.find? key).map (Json.value numbers)

/-- The members in the backing file: a missing file has none. -/
def backing (codec : JsonCodec) (path : Bytes) (files : Files) : Option (OrderedMap Bytes Json) :=
  match files (cStr path) with
  | none => some .empty
  | some content =>
    match codec.parseFromStream content with
    | some (.object members) => some (.ofList members)
    | _ => none

inductive StorageCall where
  | hasKey (key : Bytes)
  | getAllKeys
  | getString (key : Bytes)
  | getInt (key : Bytes)
  | getBool (key : Bytes)
  | setString (key value : Bytes)
  | setInt (key : Bytes) (value : Int32)
  | setBool (key : Bytes) (value : Bool)
  | removeKey (key : Bytes)
  | syncToStorage (answers : SaveAnswers)

inductive StorageStep where
  | open_ (opens : Bool)
  | call (call : StorageCall)

inductive Reply where
  | done
  | flag (value : Bool)
  | keys (names : List Bytes)
  | string (value : Bytes)
  | int (value : Int32)
  deriving DecidableEq

/-- A storage object while there is one and the files, with the map that the calls so far should have left
and the one that the last sync should have. -/
structure Persisted where
  storage : Option KeyValueStorage
  files : Files
  map : Bytes → Option Value
  synced : Bytes → Option Value

namespace Persisted

/-- The process ends with an exception. -/
def read {α : Type} (state : Persisted) (reply : α → Reply) :
    Outcome (Except PerErrc α) → Outcome (Except PerErrc Reply) × Persisted
  | .ok result => (.ok (result.map reply), state)
  | .error e => (.error e, { state with storage := none })

def set (state : Persisted) (storage : KeyValueStorage) (key : Bytes) (value : Value) :
    Outcome (Except PerErrc Reply) × Persisted :=
  (.ok (.ok .done),
    { state with storage := some storage, map := Function.update state.map key (some value) })

variable (codec : JsonCodec) (numbers : JsonNumbers) (path : Bytes)

def take (state : Persisted) (storage : KeyValueStorage) :
    StorageCall → Outcome (Except PerErrc Reply) × Persisted
  | .hasKey key => (.ok (.ok (.flag (storage.hasKey key))), state)
  | .getAllKeys => (.ok (.ok (.keys storage.getAllKeys)), state)
  | .getString key => state.read .string (storage.getString numbers.toJsonValues key)
  | .getInt key => state.read .int (storage.getInt numbers key)
  | .getBool key => state.read .flag (storage.getBool numbers key)
  | .setString key value => state.set (storage.setValue key value) key (.string value)
  | .setInt key value => state.set (storage.setInt key value) key (.number (.int value.toInt64))
  | .setBool key value => state.set (storage.setBool key value) key (.bool value)
  | .removeKey key =>
    let (result, storage') := storage.removeKey key
    (.ok (result.map fun _ => .done),
      { state with storage := some storage', map := Function.update state.map key none })
  | .syncToStorage answers =>
    match storage.syncToStorage codec answers state.files with
    | (.ok (), files) => (.ok (.ok .done), { state with files, synced := state.map })
    | (.error e, files) => (.ok (.error e), { state with files })

/-- A storage object is given up before the next one is opened. -/
def step (state : Persisted) : StorageStep → Except Unit (Outcome (Except PerErrc Reply) × Persisted)
  | .open_ opens =>
    match KeyValueStorage.open_ codec opens path state.files with
    | .ok storage => .ok (.ok (.ok .done), { state with storage := some storage, map := state.synced })
    | .error e => .ok (.ok (.error e), { state with storage := none })
  | .call call =>
    match state.storage with
    | none => .error ()
    | some storage => .ok (state.take codec numbers storage call)

/-- Before the first opening. -/
def start (files : Files) (root : OrderedMap Bytes Json) : Persisted :=
  ⟨none, files, meaning numbers root, meaning numbers root⟩

/-- What a persistent map answers. An opening fails only where the file does not open, and a sync that fails
leaves the content of the backing file. -/
def Right (state : Persisted) (output : Outcome (Except PerErrc Reply)) (state' : Persisted) : StorageStep → Prop
  | .open_ opens =>
    output = .ok (.ok .done) ∧ (∃ storage, state'.storage = some storage ∧
        meaning numbers storage.root = state.synced) ∨
      opens = false ∧ ∃ e, output = .ok (.error e)
  | .call (.hasKey key) => output = .ok (.ok (.flag (state.map key).isSome))
  | .call .getAllKeys => ∃ names, output = .ok (.ok (.keys names)) ∧ names.Nodup ∧
      ∀ key, key ∈ names ↔ (state.map key).isSome
  | .call (.getString key) => output = .ok ((Value.readAs Value.string? (state.map key)).map .string)
  | .call (.getInt key) => output = .ok ((Value.readAs Value.int? (state.map key)).map .int)
  | .call (.getBool key) => output = .ok ((Value.readAs Value.bool? (state.map key)).map .flag)
  | .call (.setString _ _) | .call (.setInt _ _) | .call (.setBool _ _) => output = .ok (.ok .done)
  | .call (.removeKey key) =>
    output = .ok (if (state.map key).isSome then .ok .done else .error .keyNotFound)
  | .call (.syncToStorage _) => output = .ok (.ok .done) ∨
      (∃ e, output = .ok (.error e)) ∧ state'.files (cStr path) = state.files (cStr path)

/-- A step of a run is right. -/
def Answers (taken : Taken Persisted StorageStep (Outcome (Except PerErrc Reply))) : Prop :=
  ∀ state', step codec numbers path taken.before taken.input = .ok (taken.output, state') →
    Right numbers path taken.before taken.output state' taken.input

/-- What a step needs of the JSON library: the text of an `int` is that number, and what is written is read
back. -/
def Relies (state : Persisted) : StorageStep → Prop
  | .call (.setInt _ value) => (Json.ofInt value).value numbers = .number (.int value.toInt64)
  | .call (.syncToStorage _) => ∀ storage ∈ state.storage,
      codec.parseFromStream (codec.write (.object storage.root.entries)) = some (.object storage.root.entries)
  | _ => True

/-- No read as an `int` finds a greater integer, and a file with members opens. Where the name of the
temporary file ends at a NUL of the path, no sync fails behind its opening. -/
def Sound (state : Persisted) : StorageStep → Prop
  | .call (.getInt key) => ∀ value ∈ state.map key, ¬ value.Overflows
  | .open_ opens => opens = true ∨ ∀ root ∈ backing codec path state.files, root.size = 0
  | .call (.syncToStorage answers) =>
    0 ∈ path → (state.files (cStr path)).isSome → answers.opens = true → answers.allSucceed = true
  | _ => True

instance (state : Persisted) (input : StorageStep) : Decidable (Sound codec path state input) :=
  match input with
  | .open_ _ => @instDecidableOr _ _ _ (@Option.decidableForallMem _ _ (fun _ => inferInstance) _)
  | .call (.getInt _) => @Option.decidableForallMem _ _ (fun _ => inferInstance) _
  | .call (.syncToStorage _) => inferInstanceAs (Decidable (_ → _ → _ → _))
  | .call .getAllKeys | .call (.hasKey _) | .call (.getString _) | .call (.getBool _) | .call (.setString _ _)
  | .call (.setInt _ _) | .call (.setBool _ _) | .call (.removeKey _) => .isTrue trivial

/-- The storage object and the backing file stand for the maps. -/
structure Refines (state : Persisted) : Prop where
  memory : ∀ storage, state.storage = some storage →
    storage.storagePath = path ∧ meaning numbers storage.root = state.map
  backed : ∃ root, backing codec path state.files = some root ∧ meaning numbers root = state.synced

end Persisted

/-! ## What the members stand for -/

variable {numbers : JsonNumbers}

theorem meaning_insert (root : OrderedMap Bytes Json) (key : Bytes) (json : Json) :
    meaning numbers (root.insert key json) =
      Function.update (meaning numbers root) key (some (json.value numbers)) := by
  funext k
  rw [meaning, OrderedMap.find?_insert, Function.update_apply]
  split_ifs
  · rfl
  · rfl

theorem meaning_erase (root : OrderedMap Bytes Json) (key : Bytes) :
    meaning numbers (root.erase key) = Function.update (meaning numbers root) key none := by
  funext k
  rw [meaning, OrderedMap.find?_erase, Function.update_apply]
  split_ifs
  · rfl
  · rfl

theorem meaning_isSome (root : OrderedMap Bytes Json) (key : Bytes) :
    (meaning numbers root key).isSome = (root.find? key).isSome := Option.isSome_map

/-- Only a map without members stands for the map without keys. -/
theorem size_zero_of_meaning {root : OrderedMap Bytes Json}
    (nothing : meaning numbers .empty = meaning numbers root) : root.size = 0 := by
  obtain ⟨entries, sorted⟩ := root
  cases entries with
  | nil => rfl
  | cons entry rest =>
    have there := (OrderedMap.mem_entries_iff ⟨entry :: rest, sorted⟩ entry.1 entry.2).mp List.mem_cons_self
    have read := congrFun nothing entry.1
    rw [meaning, meaning, there] at read
    cases read

namespace KeyValueStorage
variable {storage : KeyValueStorage} {key : Bytes}

/-- A read answers as the map where its test lets through what its type represents, and this is what its
conversion gives. -/
theorem getValueAs_eq {α : Type} {isType : Json → Bool} {asType : Json → Outcome α}
    {represents : Value → Option α}
    (agrees : ∀ json, storage.root.find? key = some json →
      (∃ a, represents (json.value numbers) = some a ∧ isType json = true ∧ asType json = .ok a) ∨
        represents (json.value numbers) = none ∧ isType json = false) :
    getValueAs isType asType storage key = .ok (Value.readAs represents (meaning numbers storage.root key)) := by
  unfold getValueAs meaning
  cases found : storage.root.find? key with
  | none => rfl
  | some json =>
    simp only [Option.map_some, Value.readAs]
    rcases agrees json found with represented | unrepresented
    · obtain ⟨a, represented, isType, asType⟩ := represented
      rw [represented, if_pos isType, asType]
      rfl
    · obtain ⟨unrepresented, isType⟩ := unrepresented
      rw [unrepresented, isType]
      rfl

theorem getString_meaning (key : Bytes) : storage.getString numbers.toJsonValues key =
    .ok (Value.readAs Value.string? (meaning numbers storage.root key)) := by
  refine getValueAs_eq fun json _ => ?_
  cases json with
  | string value => exact .inl ⟨value, rfl, rfl, numbers.asString_accesses (.string value)⟩
  | _ => exact .inr ⟨rfl, rfl⟩

theorem getBool_meaning (key : Bytes) : storage.getBool numbers key =
    .ok (Value.readAs Value.bool? (meaning numbers storage.root key)) := by
  refine getValueAs_eq fun json _ => ?_
  cases json with
  | bool value => exact .inl ⟨value, rfl, rfl, numbers.asBool_bool value⟩
  | _ => exact .inr ⟨rfl, rfl⟩

theorem isIntegral_number (printed : Bytes) :
    numbers.isIntegral (.number printed) = true ↔ (numbers.number printed).Integral := by
  rw [numbers.isIntegral_iff]
  constructor
  · rintro ⟨_, ⟨⟩, integral⟩
    exact integral
  · exact fun integral => ⟨printed, rfl, integral⟩

/-- Only a number passes the test for an integer. -/
theorem isIntegral_other {json : Json} (other : ∀ printed, json ≠ .number printed) :
    numbers.isIntegral json = false := by
  refine Bool.eq_false_iff.mpr fun integral => ?_
  obtain ⟨printed, same, -⟩ := (numbers.isIntegral_iff json).mp integral
  exact other printed same

theorem getInt_meaning (small : ∀ value ∈ meaning numbers storage.root key, ¬ value.Overflows) :
    storage.getInt numbers key = .ok (Value.readAs Value.int? (meaning numbers storage.root key)) := by
  refine getValueAs_eq fun json found => ?_
  cases json with
  | number printed =>
    cases represented : (numbers.number printed).int? with
    | some value =>
      have integral := Number.integral_of_int? represented
      have read := numbers.asInt_accesses printed integral
      rw [represented] at read
      exact .inl ⟨value, represented, (isIntegral_number printed).mpr integral, read⟩
    | none =>
      refine .inr ⟨represented, Bool.eq_false_iff.mpr fun integral => ?_⟩
      refine small (.number (numbers.number printed)) ?_ ⟨(isIntegral_number printed).mp integral, represented⟩
      rw [meaning, found]
      rfl
  | _ => exact .inr ⟨rfl, isIntegral_other nofun⟩

/-- The type test lets integers through that the conversion throws on. -/
theorem getInt_overflows {value : Value} (there : value ∈ meaning numbers storage.root key)
    (overflows : value.Overflows) : ∃ what, storage.getInt numbers key = .error (.thrown (.logicError what)) := by
  obtain ⟨json, found, rfl⟩ := Option.map_eq_some_iff.mp there
  cases json with
  | number printed =>
    obtain ⟨integral, unrepresented⟩ := overflows
    have read := numbers.asInt_accesses printed integral
    rw [unrepresented] at read
    obtain ⟨what, thrown⟩ := read
    refine ⟨what, ?_⟩
    simp only [getInt, getValueAs, found, (isIntegral_number printed).mpr integral, if_true, thrown]
    rfl
  | _ => exact absurd overflows id

theorem removeKey_meaning : storage.removeKey key =
      (if (meaning numbers storage.root key).isSome then .ok () else .error .keyNotFound,
        (storage.removeKey key).2) ∧
    (storage.removeKey key).2.storagePath = storage.storagePath ∧
    meaning numbers (storage.removeKey key).2.root = Function.update (meaning numbers storage.root) key none := by
  unfold removeKey hasKey
  rw [meaning_isSome]
  split_ifs with there
  · exact ⟨rfl, rfl, meaning_erase storage.root key⟩
  · refine ⟨rfl, rfl, ?_⟩
    have absent : meaning numbers storage.root key = none := by
      rw [meaning, Option.not_isSome_iff_eq_none.mp there]
      rfl
    rw [← absent, Function.update_eq_self]

theorem getAllKeys_meaning : storage.getAllKeys.Nodup ∧
    ∀ key, key ∈ storage.getAllKeys ↔ (meaning numbers storage.root key).isSome := by
  refine ⟨storage.root.keys_nodup, fun key => ?_⟩
  rw [meaning_isSome]
  exact storage.root.mem_keys_iff key

/-- Opening the file gives its members, and a file that does not open gives none. -/
theorem open_of_backing {codec : JsonCodec} {path : Bytes} {files : Files} {root : OrderedMap Bytes Json}
    (backed : backing codec path files = some root) (opens : Bool) :
    open_ codec opens path files = .ok ⟨path, if opens then root else .empty⟩ := by
  unfold open_
  cases opens with
  | false => rfl
  | true =>
    rw [if_pos rfl, if_pos rfl]
    cases found : files (cStr path) with
    | none =>
      simp only [backing, found] at backed
      cases backed
      rfl
    | some content =>
      cases parsed : codec.parseFromStream content with
      | none =>
        simp only [backing, found, parsed] at backed
        cases backed
      | some value =>
        cases value with
        | object members =>
          simp only [backing, found, parsed] at backed
          cases backed
          simp only [parsed]
        | _ =>
          simp only [backing, found, parsed] at backed
          cases backed

end KeyValueStorage

/-! ## Saving the members -/

theorem backing_congr {codec : JsonCodec} {path : Bytes} {files files' : Files}
    (same : files' (cStr path) = files (cStr path)) : backing codec path files' = backing codec path files := by
  unfold backing
  rw [same]

/-- The temporary file is another one unless the path has a NUL. -/
theorem cStr_temporary_eq_iff (path : Bytes) : cStr (path ++ text ".tmp") = cStr path ↔ 0 ∈ path := by
  constructor
  · intro same
    by_contra clean
    rw [cStr_append clean, cStr_of_notMem clean] at same
    have longer := congrArg List.length same
    have suffix : (cStr (text ".tmp")).length = 4 := by decide
    rw [List.length_append, suffix] at longer
    omega
  · exact fun ends => cStr_append_of_mem ends _

/-- A save that fails changes the target only when it removes it for its temporary file. -/
theorem saveFile_failed_target {answers : SaveAnswers} (fails : answers.allSucceed = false)
    (path content : Bytes) (files : Files) :
    (saveFile answers path content files).2 (cStr path) = files (cStr path) ↔
      (0 ∈ path → (files (cStr path)).isSome → answers.opens = false) := by
  obtain ⟨e, saved⟩ := saveFile_failed fails path content files
  rw [saved]
  cases opens : answers.opens with
  | false => exact iff_of_true rfl fun _ _ => rfl
  | true =>
    rw [if_pos rfl]
    dsimp only
    rw [FileStore.remove_at]
    by_cases ends : 0 ∈ path
    · rw [if_pos ((cStr_temporary_eq_iff path).mpr ends).symm]
      constructor
      · intro gone _ there
        rw [← gone] at there
        cases there
      · intro absent
        cases found : files (cStr path) with
        | none => rfl
        | some content =>
          have := absent ends (by rw [found]; rfl)
          cases this
    · rw [if_neg fun same => ends ((cStr_temporary_eq_iff path).mp same.symm)]
      exact iff_of_true rfl fun ends' => absurd ends' ends

/-! ## Every step -/

namespace Persisted
variable {codec : JsonCodec} {path : Bytes} {state state' : Persisted}
  {output : Outcome (Except PerErrc Reply)} {storage : KeyValueStorage}

theorem refines_start {files : Files} {root : OrderedMap Bytes Json}
    (backed : backing codec path files = some root) : Refines codec numbers path (start numbers files root) where
  memory := by
    intro storage opened
    cases opened
  backed := ⟨root, backed, rfl⟩

theorem take_removeKey (key : Bytes) : state.take codec numbers storage (.removeKey key) =
    (.ok ((storage.removeKey key).1.map fun _ => .done),
      { state with
        storage := some (storage.removeKey key).2
        map := Function.update state.map key none }) := rfl

theorem take_synced {answers : SaveAnswers} {files : Files}
    (saved : storage.syncToStorage codec answers state.files = (.ok (), files)) :
    state.take codec numbers storage (.syncToStorage answers) =
      (.ok (.ok .done), { state with files, synced := state.map }) := by
  simp only [take, saved]

theorem take_unsynced {answers : SaveAnswers} {files : Files} {e : PerErrc}
    (failed : storage.syncToStorage codec answers state.files = (.error e, files)) :
    state.take codec numbers storage (.syncToStorage answers) = (.ok (.error e), { state with files }) := by
  simp only [take, failed]

theorem Refines.set (refines : Refines codec numbers path state) {json : Json} {value : Value} {key : Bytes}
    (holds : state.storage = some storage) (stands : json.value numbers = value) :
    Refines codec numbers path
      (state.set { storage with root := storage.root.insert key json } key value).2 where
  memory := by
    intro _ same
    cases same
    obtain ⟨samePath, same⟩ := refines.memory storage holds
    exact ⟨samePath, by rw [meaning_insert, same, stands]; rfl⟩
  backed := refines.backed

theorem Refines.removeKey (refines : Refines codec numbers path state) (key : Bytes)
    (holds : state.storage = some storage) :
    Refines codec numbers path (state.take codec numbers storage (.removeKey key)).2 where
  memory := by
    intro _ same
    cases same
    obtain ⟨samePath, same⟩ := refines.memory storage holds
    have removed : _ ∧ _ ∧ meaning numbers (storage.removeKey key).2.root = _ :=
      KeyValueStorage.removeKey_meaning
    exact ⟨removed.2.1.trans samePath, removed.2.2.trans (by rw [same]; rfl)⟩
  backed := refines.backed

/-- A sync that succeeds leaves the map in the backing file. -/
theorem Refines.synced (refines : Refines codec numbers path state) (holds : state.storage = some storage)
    (restores : codec.parseFromStream (codec.write (.object storage.root.entries)) =
      some (.object storage.root.entries)) {answers : SaveAnswers} (succeeds : answers.allSucceed = true) :
    Refines codec numbers path (state.take codec numbers storage (.syncToStorage answers)).2 ∧
      (state.take codec numbers storage (.syncToStorage answers)).1 = .ok (.ok .done) := by
  obtain ⟨samePath, same⟩ := refines.memory storage holds
  rw [take_synced (saveFile_succeeded succeeds _ _ state.files)]
  refine ⟨⟨refines.memory, storage.root, ?_, same⟩, rfl⟩
  simp only [backing, samePath, FileStore.replaceVia_target, restores, OrderedMap.ofList_entries]

/-- A sync that fails leaves the backing file exactly where this is no temporary file of its own. -/
theorem Refines.unsynced (refines : Refines codec numbers path state) (holds : state.storage = some storage)
    {answers : SaveAnswers} (fails : answers.allSucceed = false) :
    ∃ e, (state.take codec numbers storage (.syncToStorage answers)).1 = .ok (.error e) ∧
      ((state.take codec numbers storage (.syncToStorage answers)).2.files (cStr path) = state.files (cStr path) ↔
        Sound codec path state (.call (.syncToStorage answers))) ∧
      (Sound codec path state (.call (.syncToStorage answers)) →
        Refines codec numbers path (state.take codec numbers storage (.syncToStorage answers)).2) := by
  obtain ⟨samePath, same⟩ := refines.memory storage holds
  obtain ⟨root, backed, synced⟩ := refines.backed
  have target := saveFile_failed_target fails path (codec.write (.object storage.root.entries)) state.files
  obtain ⟨e, failed⟩ := saveFile_failed fails path (codec.write (.object storage.root.entries)) state.files
  have sound_iff : Sound codec path state (.call (.syncToStorage answers)) ↔
      (0 ∈ path → (state.files (cStr path)).isSome → answers.opens = false) := by
    simp only [Sound, fails]
    refine forall_congr' fun _ => forall_congr' fun _ => ?_
    cases answers.opens <;> simp
  rw [← sound_iff, failed] at target
  rw [← samePath] at failed
  rw [take_unsynced failed]
  refine ⟨e, rfl, ?_, fun sound => ⟨refines.memory, root, ?_, synced⟩⟩
  · rw [samePath]
    exact target
  · refine (backing_congr ?_).trans backed
    rw [samePath]
    exact target.mpr sound

theorem Refines.read (refines : Refines codec numbers path state) (holds : state.storage = some storage)
    {α : Type} (reply : α → Reply) {represents : Value → Option α} {key : Bytes}
    {outcome : Outcome (Except PerErrc α)}
    (answers : outcome = .ok (Value.readAs represents (meaning numbers storage.root key))) :
    (state.read reply outcome).1 = .ok ((Value.readAs represents (state.map key)).map reply) ∧
      Refines codec numbers path (state.read reply outcome).2 := by
  rw [(refines.memory storage holds).2] at answers
  subst answers
  exact ⟨rfl, refines⟩

/-- A call is right exactly when it is sound, and leaves the maps then. -/
theorem Refines.call (refines : Refines codec numbers path state) (holds : state.storage = some storage)
    {call : StorageCall} (relies : Relies codec numbers state (.call call)) :
    (Right numbers path state (state.take codec numbers storage call).1 (state.take codec numbers storage call).2
        (.call call) ↔ Sound codec path state (.call call)) ∧
      (Sound codec path state (.call call) →
        Refines codec numbers path (state.take codec numbers storage call).2) := by
  obtain ⟨samePath, same⟩ := refines.memory storage holds
  cases call with
  | hasKey key =>
    refine ⟨iff_of_true ?_ trivial, fun _ => refines⟩
    rw [Right, ← same, meaning_isSome]
    rfl
  | getAllKeys =>
    refine ⟨iff_of_true ?_ trivial, fun _ => refines⟩
    rw [Right, ← same]
    exact ⟨_, rfl, KeyValueStorage.getAllKeys_meaning⟩
  | getString key =>
    have answered := refines.read holds Reply.string (KeyValueStorage.getString_meaning key)
    exact ⟨iff_of_true answered.1 trivial, fun _ => answered.2⟩
  | getBool key =>
    have answered := refines.read holds Reply.flag (KeyValueStorage.getBool_meaning key)
    exact ⟨iff_of_true answered.1 trivial, fun _ => answered.2⟩
  | getInt key =>
    by_cases sound : Sound codec path state (.call (.getInt key))
    · have small : ∀ value ∈ meaning numbers storage.root key, ¬ value.Overflows := by
        rw [same]
        exact sound
      have answered := refines.read holds Reply.int (KeyValueStorage.getInt_meaning small)
      exact ⟨iff_of_true answered.1 sound, fun _ => answered.2⟩
    · refine ⟨iff_of_false ?_ sound, fun sound' => absurd sound' sound⟩
      have found := sound
      rw [Sound] at found
      push Not at found
      obtain ⟨value, there, overflows⟩ := found
      rw [← same] at there
      obtain ⟨what, thrown⟩ := KeyValueStorage.getInt_overflows there overflows
      simp only [Right, take, thrown, Persisted.read]
      exact nofun
  | setString key value =>
    exact ⟨iff_of_true rfl trivial, fun _ => refines.set holds rfl⟩
  | setInt key value =>
    exact ⟨iff_of_true rfl trivial, fun _ => refines.set holds relies⟩
  | setBool key value =>
    exact ⟨iff_of_true rfl trivial, fun _ => refines.set holds rfl⟩
  | removeKey key =>
    refine ⟨iff_of_true ?_ trivial, fun _ => refines.removeKey key holds⟩
    have removed : storage.removeKey key = _ ∧ _ ∧ meaning numbers _ = _ := KeyValueStorage.removeKey_meaning
    rw [Right, take_removeKey, removed.1, same]
    split_ifs
    · rfl
    · rfl
  | syncToStorage answers =>
    cases succeeds : answers.allSucceed with
    | true =>
      obtain ⟨refines', done⟩ := refines.synced holds (relies storage holds) succeeds
      exact ⟨iff_of_true (.inl done) fun _ _ _ => succeeds, fun _ => refines'⟩
    | false =>
      obtain ⟨e, failed, target, keeps⟩ := refines.unsynced holds succeeds
      refine ⟨?_, keeps⟩
      rw [← target]
      constructor
      · rintro (done | ⟨-, unchanged⟩)
        · rw [failed] at done
          cases done
        · exact unchanged
      · exact fun unchanged => .inr ⟨⟨e, failed⟩, unchanged⟩

/-- A step is right exactly when it is sound, and leaves the maps then. -/
theorem Refines.step (refines : Refines codec numbers path state) {input : StorageStep}
    (relies : Relies codec numbers state input)
    (taken : step codec numbers path state input = .ok (output, state')) :
    (Right numbers path state output state' input ↔ Sound codec path state input) ∧
      (Sound codec path state input → Refines codec numbers path state') := by
  cases input with
  | open_ opens =>
    obtain ⟨root, backed, synced⟩ := refines.backed
    rw [Persisted.step, KeyValueStorage.open_of_backing backed] at taken
    cases taken
    have stands : meaning numbers (if opens then root else .empty) = state.synced ↔
        Sound codec path state (.open_ opens) := by
      rw [Sound, backed]
      cases opens with
      | true => exact iff_of_true synced (.inl rfl)
      | false =>
        rw [if_neg Bool.false_ne_true, ← synced]
        constructor
        · rintro nothing
          refine .inr fun root' same => ?_
          cases same
          exact size_zero_of_meaning nothing
        · rintro (opened | empty)
          · cases opened
          · funext key
            have none_there := OrderedMap.find?_of_size_zero (empty root rfl) key
            rw [meaning, meaning, none_there]
            rfl
    refine ⟨?_, fun sound => ⟨?_, root, backed, synced⟩⟩
    · rw [← stands]
      constructor
      · rintro (⟨-, storage, opened, same⟩ | ⟨-, e, failed⟩)
        · cases opened
          exact same
        · cases failed
      · exact fun same => .inl ⟨rfl, _, rfl, same⟩
    · intro storage opened
      cases opened
      exact ⟨rfl, stands.mpr sound⟩
  | call call =>
    rw [Persisted.step] at taken
    cases holds : state.storage with
    | none =>
      rw [holds] at taken
      cases taken
    | some storage =>
      rw [holds] at taken
      have spec := refines.call holds relies
      rw [Except.ok.inj taken] at spec
      exact spec

/-- From a file that is missing or holds an object, every answer of a run is that of a persistent map exactly
when its steps are sound. -/
theorem answers_iff_sound {files : Files} {root : OrderedMap Bytes Json}
    (backed : backing codec path files = some root)
    {trace : List (Taken Persisted StorageStep (Outcome (Except PerErrc Reply)))}
    (run : Run (step codec numbers path) (start numbers files root) trace state)
    (relies : Run.Every (Relies codec numbers) trace) :
    (∀ taken ∈ trace, Answers codec numbers path taken) ↔ Run.Every (Sound codec path) trace := by
  refine Run.all_iff_allowed_of (refines_start backed) ?_ ?_ run relies
  · intro state input output state' refines relies sound taken
    exact (refines.step relies taken).2 sound
  · intro state input output state' refines relies taken
    rw [← (refines.step relies taken).1]
    exact Run.forall_after_iff taken

/-! ## A file with a great number -/

def samplePath : Bytes := text "/k"

def sampleContent : Bytes := text "\x7b\n  \"a\" : 3000000000\n\x7d"

def sampleWritten : Bytes := text "\x7b\n  \"a\" : 3000000000,\n  \"b\" : 7\n\x7d"

def sampleMembers : List (Bytes × Json) := [(text "a", .number (text "3000000000"))]

/-- The library on the few texts that occur here. -/
def sampleCodec : JsonCodec where
  parseFromStream := fun content =>
    if content = sampleContent then some (.object sampleMembers)
    else if content = sampleWritten then
      some (.object [(text "a", .number (text "3000000000")), (text "b", .number (text "7"))])
    else none
  write := fun value =>
    match value with
    | .object [_] => sampleContent
    | _ => sampleWritten

def sampleNumber (printed : Bytes) : Number :=
  if printed = text "7" then .int 7
  else if printed = text "3000000000" then .int 3000000000
  else .infinite

def sampleAsInt : Json → Outcome Int32
  | .null => .ok 0
  | .bool value => .ok (if value then 1 else 0)
  | .number printed =>
    match (sampleNumber printed).int? with
    | some value => .ok value
    | none => .error (.thrown (.logicError "LargestInt out of Int range"))
  | _ => .error (.thrown (.logicError "Value is not convertible to Int."))

def sampleNumbers : JsonNumbers where
  toJsonValues := .plain
  number := sampleNumber
  isIntegral value :=
    match value with
    | .number printed => (sampleNumber printed).Integral
    | _ => false
  asInt := sampleAsInt
  asBool value :=
    match value with
    | .null => .ok false
    | .bool value => .ok value
    | .number printed => .ok (sampleNumber printed ≠ .int 0)
    | _ => .error (.thrown (.logicError "Value is not convertible to bool."))
  isIntegral_iff value := by
    cases value with
    | number printed => simp
    | _ => simp
  asInt_accesses printed _ := by
    rw [sampleAsInt]
    cases (sampleNumber printed).int? with
    | some value => rfl
    | none => exact ⟨_, rfl⟩
  asBool_bool _ := rfl

def sampleFiles : Files := fun path => if path = samplePath then some sampleContent else none

def sampleStart : Persisted := start sampleNumbers sampleFiles (.ofList sampleMembers)

def saved : SaveAnswers := ⟨true, true, true⟩

def notRenamed : SaveAnswers := ⟨true, true, false⟩

/-- The key that is removed behind the last sync that succeeds is there again. -/
theorem answers_iff_sound_sample : ∃ trace state,
    Run.play (step sampleCodec sampleNumbers samplePath) [] sampleStart
        [.open_ true, .call (.setInt (text "b") 7), .call (.syncToStorage saved), .call (.removeKey (text "b")),
          .call (.syncToStorage notRenamed), .call (.getInt (text "b")), .open_ true,
          .call (.getInt (text "b"))] = .ok (trace, state) ∧
      trace.map Taken.output = [.ok (.ok (.int 7)), .ok (.ok .done), .ok (.error .keyNotFound),
        .ok (.error .physicalStorageFailure), .ok (.ok .done), .ok (.ok .done), .ok (.ok .done),
        .ok (.ok .done)] ∧
      ∀ taken ∈ trace, Answers sampleCodec sampleNumbers samplePath taken := by
  obtain ⟨trace, state, played, outputs, sound, relies⟩ : ∃ trace state,
      Run.play (step sampleCodec sampleNumbers samplePath) [] sampleStart
          [.open_ true, .call (.setInt (text "b") 7), .call (.syncToStorage saved), .call (.removeKey (text "b")),
            .call (.syncToStorage notRenamed), .call (.getInt (text "b")), .open_ true,
            .call (.getInt (text "b"))] = .ok (trace, state) ∧
        trace.map Taken.output = [.ok (.ok (.int 7)), .ok (.ok .done), .ok (.error .keyNotFound),
          .ok (.error .physicalStorageFailure), .ok (.ok .done), .ok (.ok .done), .ok (.ok .done),
          .ok (.ok .done)] ∧
        Run.Every (Sound sampleCodec samplePath) trace ∧
        Run.Every (Relies sampleCodec sampleNumbers) trace := by
    refine ⟨_, _, rfl, rfl, by decide, ?_⟩
    simp only [Run.every_cons]
    refine ⟨trivial, trivial, trivial, ?_, trivial, ?_, rfl, trivial, Run.every_nil _⟩
    · rintro _ ⟨rfl⟩
      rfl
    · rintro _ ⟨rfl⟩
      rfl
  have backed : backing sampleCodec samplePath sampleFiles = some (.ofList sampleMembers) := rfl
  have run : Run (step sampleCodec sampleNumbers samplePath) sampleStart trace state := Run.of_play .start played
  exact ⟨trace, state, played, outputs, (answers_iff_sound backed run relies).mpr sound⟩

/-- The read of a number that is no `int` ends the process. -/
theorem not_always_answers : ∃ trace state,
    Run.play (step sampleCodec sampleNumbers samplePath) [] sampleStart
        [.open_ true, .call (.getInt (text "a"))] = .ok (trace, state) ∧
      trace.map Taken.output =
        [.error (.thrown (.logicError "LargestInt out of Int range")), .ok (.ok .done)] ∧
      Run.Every (Relies sampleCodec sampleNumbers) trace ∧
      ¬ ∀ taken ∈ trace, Answers sampleCodec sampleNumbers samplePath taken := by
  refine ⟨_, _, rfl, rfl, ?_, fun all => ?_⟩
  · simp only [Run.every_cons]
    exact ⟨trivial, trivial, Run.every_nil _⟩
  · have answer := all _ List.mem_cons_self _ rfl
    cases answer

end Persisted
end AdaptiveAutosar.Per
