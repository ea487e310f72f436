import Mathlib.Data.Rat.Defs
import AdaptiveAutosar.Diag.UdsServiceRouter
import AdaptiveAutosar.Foundations.DecimalText
import AdaptiveAutosar.Per.Storage

/-! # ReadDataByIdentifier

`application::helper::ReadDataByIdentifier` with its `MemoryCache`. The resource server answers with a JSON text; the
library that reads it and the arithmetic of `double` are parameters.
-/

namespace AdaptiveAutosar.Application
open Foundations Foundations.BigEndian Per Diag
set_option autoImplicit false

/-! ## MemoryCache -/

structure MemoryCache (K T : Type) [LinearOrder K] where
  lifetime : ℤ
  cachedItems : OrderedMap K (ℤ × T)

namespace MemoryCache
variable {K T : Type} [LinearOrder K]

/-- `emplace`: an item that is there stays. -/
def add (cache : MemoryCache K T) (key : K) (item : T) (now : ℤ) : MemoryCache K T :=
  match cache.cachedItems.find? key with
  | some _ => cache
  | none => { cache with cachedItems := cache.cachedItems.insert key (now, item) }

/-- An item that is expired is removed. -/
def tryGet (cache : MemoryCache K T) (key : K) (now : ℤ) : Option T × MemoryCache K T :=
  match cache.cachedItems.find? key with
  | some (time, item) =>
    if now - time < cache.lifetime then (some item, cache)
    else (none, { cache with cachedItems := cache.cachedItems.erase key })
  | none => (none, cache)

end MemoryCache

/-! ## What the service is given -/

/-- `Json::Reader`. It answers that the text does not parse, or throws when the text nests too deep. -/
structure JsonReader where
  parse : Bytes → Outcome (Option Json)
  parse_throws : ∀ document e, parse document = .error e → ∃ what, e = .thrown (.runtimeError what)

/-- The floating-point numbers. `cast` truncates to an unsigned integer of so many bits, and is undefined for a number
outside its range. -/
structure Doubles where
  Double : Type
  stod : Bytes → Outcome Double
  stod_throws : ∀ str e, stod str = .error e →
    e = .thrown (.invalidArgument "stod") ∨ e = .thrown (.outOfRange "stod")
  literal : ℚ → Double
  ofUnsignedLong : UInt64 → Double
  mul : Double → Double → Double
  cast : ℕ → Double → Option ℕ

/-- Next to the libraries: the URL of the resources, what a request to an URL is answered, and the times at which the
cache is looked up and added to. -/
structure Environment where
  reader : JsonReader
  values : JsonValues
  doubles : Doubles
  resourcesUrl : Bytes
  tryExecute : Bytes → Option Bytes
  lookupTime : ℤ
  additionTime : ℤ

def chars (str : Bytes) : String := String.ofList (str.map fun c => Char.ofNat c.toNat)

def stoul (str : Bytes) : Outcome UInt64 := DecimalText.stoul (chars str)

def castTo (doubles : Doubles) (bits : ℕ) (number : doubles.Double) : Outcome ℕ :=
  match doubles.cast bits number with
  | some integer => .ok integer
  | none => .error .undefined

/-! ## The service -/

abbrev ResponseCache := MemoryCache UInt16 Bytes

namespace ReadDataByIdentifier

def cSid : UInt8 := 0x22
def cAverageSpeedDid : UInt16 := 0xf50d
def cFuelAmountDid : UInt16 := 0xf52f
def cExternalTemperatureDid : UInt16 := 0xf546
def cAverageFuelConsumptionDid : UInt16 := 0xf55e
def cEngineCoolantTemperatureDid : UInt16 := 0xf505
def cOdometerValueDid : UInt16 := 0xf5a6
/-- In nanoseconds. -/
def cCacheLifetime : ℤ := 60000000000
def cConditionsNotCorrectNrc : UInt8 := 0x22
def cRequestOutOfRangeNrc : UInt8 := 0x31
def cDidMsbIndex : ℕ := 1
def cDidLsbIndex : ℕ := 2
def cValueKey : Bytes := text "value"
def cCompensationValue : UInt64 := 40

def getDid (requestData : Bytes) : Outcome UInt16 :=
  match requestData[cDidMsbIndex]?, requestData[cDidLsbIndex]? with
  | some msb, some lsb => .ok (word16 msb lsb)
  | _, _ => .error (.thrown (.outOfRange "vector::_M_range_check"))

def generateResponse (did : UInt16) : Bytes := (cSid + cPositiveResponseSidIncrement) :: bytes16 did

/-- `none` is `false`. -/
def tryGetResourceValue (environment : Environment) (resourceKey : Bytes) : Outcome (Option Json) :=
  match environment.tryExecute (environment.resourcesUrl ++ text "/" ++ resourceKey) with
  | none => .ok none
  | some restfulResponse => do
    match ← environment.reader.parse restfulResponse with
    | none => pure none
    | some jsonValue =>
      let resource ← environment.values.resolveReference jsonValue resourceKey
      let value ← environment.values.resolveReference resource cValueKey
      pure (some value)

/-- The resource as its text is converted. -/
def getResource (environment : Environment) (cache : ResponseCache) (did : UInt16) (resourceKey : Bytes)
    (convert : Bytes → Outcome Bytes) : Answer × ResponseCache :=
  match tryGetResourceValue environment resourceKey with
  | .error e => (.faulted e, cache)
  | .ok none => (.refused cSid cConditionsNotCorrectNrc, cache)
  | .ok (some jsonResponse) =>
    match environment.values.asString jsonResponse >>= convert with
    | .error e => (.faulted e, cache)
    | .ok converted =>
      (.response (generateResponse did ++ converted),
        cache.add did (generateResponse did ++ converted) environment.additionTime)

def convertAverageSpeed (str : Bytes) : Outcome Bytes := do
  let averageSpeed ← stoul str
  pure [averageSpeed.toUInt8]

def getAverageSpeed (environment : Environment) (cache : ResponseCache) : Answer × ResponseCache :=
  getResource environment cache cAverageSpeedDid (text "averageSpeed") convertAverageSpeed

def convertFuelAmount (doubles : Doubles) (str : Bytes) : Outcome Bytes := do
  let fuelAmountUL ← stoul str
  let fuelAmount ← castTo doubles 8 (doubles.mul (doubles.literal (255 / 100)) (doubles.ofUnsignedLong fuelAmountUL))
  pure [UInt8.ofNat fuelAmount]

def getFuelAmount (environment : Environment) (cache : ResponseCache) : Answer × ResponseCache :=
  getResource environment cache cFuelAmountDid (text "fuelAmount") (convertFuelAmount environment.doubles)

def convertTemperature (str : Bytes) : Outcome Bytes := do
  let temperatureUL ← stoul str
  pure [(temperatureUL + cCompensationValue).toUInt8]

def getExternalTemperature (environment : Environment) (cache : ResponseCache) : Answer × ResponseCache :=
  getResource environment cache cExternalTemperatureDid (text "externalTemp") convertTemperature

def convertAverageFuelConsumption (doubles : Doubles) (str : Bytes) : Outcome Bytes := do
  let averageFuelConsumption ← doubles.stod str
  let averageFuelConsumptionInt ← castTo doubles 16 (doubles.mul (doubles.literal 20) averageFuelConsumption)
  pure [UInt8.ofNat (averageFuelConsumptionInt / 256), UInt8.ofNat (averageFuelConsumptionInt % 256)]

def getAverageFuelConsumption (environment : Environment) (cache : ResponseCache) : Answer × ResponseCache :=
  getResource environment cache cAverageFuelConsumptionDid (text "averageFuelConsumption")
    (convertAverageFuelConsumption environment.doubles)

def getEngineCoolantTemperature (environment : Environment) (cache : ResponseCache) : Answer × ResponseCache :=
  getResource environment cache cEngineCoolantTemperatureDid (text "engineCoolantTemp") convertTemperature

def cConversionBases : List ℕ := [16777216, 65536, 256]

def splitOdometerValue : List ℕ → ℕ → Bytes
  | [], odometerValueInt => [UInt8.ofNat odometerValueInt]
  | base :: bases, odometerValueInt =>
    UInt8.ofNat (odometerValueInt / base) :: splitOdometerValue bases (odometerValueInt % base)

def convertOdometerValue (doubles : Doubles) (str : Bytes) : Outcome Bytes := do
  let odometerValue ← doubles.stod str
  let odometerValueInt ← castTo doubles 32 (doubles.mul (doubles.literal 10) odometerValue)
  pure (splitOdometerValue cConversionBases odometerValueInt)

def getOdometerValue (environment : Environment) (cache : ResponseCache) : Answer × ResponseCache :=
  getResource environment cache cOdometerValueDid (text "odometer") (convertOdometerValue environment.doubles)

/-- The `switch` over the identifiers. -/
def getValue (environment : Environment) (cache : ResponseCache) (did : UInt16) : Answer × ResponseCache :=
  if did = cAverageSpeedDid then getAverageSpeed environment cache
  else if did = cFuelAmountDid then getFuelAmount environment cache
  else if did = cExternalTemperatureDid then getExternalTemperature environment cache
  else if did = cAverageFuelConsumptionDid then getAverageFuelConsumption environment cache
  else if did = cEngineCoolantTemperatureDid then getEngineCoolantTemperature environment cache
  else if did = cOdometerValueDid then getOdometerValue environment cache
  else (.refused cSid cRequestOutOfRangeNrc, cache)

def handleMessage (environment : Environment) (cache : ResponseCache) (requestData : Bytes) :
    Answer × ResponseCache :=
  match getDid requestData with
  | .error e => (.faulted e, cache)
  | .ok did =>
    match cache.tryGet did environment.lookupTime with
    | (some responseData, cache) => (.response responseData, cache)
    | (none, cache) => getValue environment cache did

/-! ## The resources -/

/-- The resource behind an identifier. -/
def resourceKey (did : UInt16) : Option Bytes :=
  if did = cAverageSpeedDid then some (text "averageSpeed")
  else if did = cFuelAmountDid then some (text "fuelAmount")
  else if did = cExternalTemperatureDid then some (text "externalTemp")
  else if did = cAverageFuelConsumptionDid then some (text "averageFuelConsumption")
  else if did = cEngineCoolantTemperatureDid then some (text "engineCoolantTemp")
  else if did = cOdometerValueDid then some (text "odometer")
  else none

def convert (doubles : Doubles) (did : UInt16) : Bytes → Outcome Bytes :=
  if did = cAverageSpeedDid then convertAverageSpeed
  else if did = cFuelAmountDid then convertFuelAmount doubles
  else if did = cAverageFuelConsumptionDid then convertAverageFuelConsumption doubles
  else if did = cOdometerValueDid then convertOdometerValue doubles
  else convertTemperature

theorem getValue_eq (environment : Environment) (cache : ResponseCache) (did : UInt16) :
    getValue environment cache did =
      match resourceKey did with
      | some key => getResource environment cache did key (convert environment.doubles did)
      | none => (.refused cSid cRequestOutOfRangeNrc, cache) := by
  unfold getValue resourceKey
  split_ifs with speed fuel external consumption coolant odometer
  · rw [speed]
    rfl
  · rw [fuel]
    rfl
  · rw [external]
    rfl
  · rw [consumption]
    rfl
  · rw [coolant]
    rfl
  · rw [odometer]
    rfl
  · rfl

/-! ## What can be thrown -/

/-- What a caller that is lenient catches. -/
def Caught (lenient : Prop) (e : Fault) : Prop := lenient ∧ ∃ what, e = .thrown (.invalidArgument what)

/-- What is thrown, if anything, is caught. -/
def Contained {α : Type} (lenient : Prop) (x : Outcome α) : Prop := ∀ e, x = .error e → Caught lenient e

variable {lenient : Prop} {α β : Type}

theorem contained_ok (a : α) : Contained lenient (.ok a : Outcome α) := by
  intro e failed
  cases failed

theorem contained_error (e : Fault) : Contained lenient (.error e : Outcome α) ↔ Caught lenient e := by
  constructor
  · exact fun contained => contained e rfl
  · rintro caught _ ⟨⟩
    exact caught

theorem contained_bind {x : Outcome α} {f : α → Outcome β} :
    Contained lenient (x >>= f) ↔ Contained lenient x ∧ ∀ a, x = .ok a → Contained lenient (f a) := by
  cases x with
  | error e =>
    show Contained lenient (.error e) ↔ _
    rw [contained_error, contained_error]
    exact ⟨fun caught => ⟨caught, fun _ impossible => by cases impossible⟩, And.left⟩
  | ok a =>
    constructor
    · exact fun contained => ⟨contained_ok a, fun _ same => by cases same; exact contained⟩
    · exact fun both => both.2 a rfl

theorem not_caught_outOfRange (what : String) : ¬ Caught lenient (.thrown (.outOfRange what)) := by
  rintro ⟨-, other, same⟩
  cases same

theorem not_caught_runtimeError (what : String) : ¬ Caught lenient (.thrown (.runtimeError what)) := by
  rintro ⟨-, other, same⟩
  cases same

theorem not_caught_logicError (what : String) : ¬ Caught lenient (.thrown (.logicError what)) := by
  rintro ⟨-, other, same⟩
  cases same

theorem not_caught_undefined : ¬ Caught lenient .undefined := by
  rintro ⟨-, other, same⟩
  cases same

/-! ### Numbers -/

/-- The number that the text begins with, if there is one, is an `unsigned long`, up to its sign. -/
def FitsUnsignedLong (str : Bytes) : Prop :=
  ∀ number, DecimalText.scan (chars str) = some number → number.2 ≤ DecimalText.ulongMax

/-- The number that the text begins with, if there is one, is a `double`, and can be cast with its gain. -/
def FitsDouble (doubles : Doubles) (bits : ℕ) (gain : ℚ) (str : Bytes) : Prop :=
  doubles.stod str ≠ .error (.thrown (.outOfRange "stod")) ∧
    ∀ number, doubles.stod str = .ok number → (doubles.cast bits (doubles.mul (doubles.literal gain) number)).isSome

/-- The text of a resource, unless it is without a number, is in the range of its conversion. -/
def Convertible (doubles : Doubles) (did : UInt16) (str : Bytes) : Prop :=
  if did = cAverageFuelConsumptionDid then FitsDouble doubles 16 20 str
  else if did = cOdometerValueDid then FitsDouble doubles 32 10 str
  else FitsUnsignedLong str ∧ (did = cFuelAmountDid → ∀ number, stoul str = .ok number →
    (doubles.cast 8 (doubles.mul (doubles.literal (255 / 100)) (doubles.ofUnsignedLong number))).isSome)

/-- The text of a resource begins with a number. -/
def Numeric (doubles : Doubles) (did : UInt16) (str : Bytes) : Prop :=
  if did = cAverageFuelConsumptionDid ∨ did = cOdometerValueDid then
    doubles.stod str ≠ .error (.thrown (.invalidArgument "stod"))
  else (DecimalText.scan (chars str)).isSome

theorem contained_stoul (str : Bytes) : Contained lenient (stoul str) ↔
    (lenient ∨ (DecimalText.scan (chars str)).isSome) ∧ FitsUnsignedLong str := by
  unfold stoul FitsUnsignedLong
  obtain ⟨number, scanned, read, isNumber, inside⟩ | ⟨failed, absent⟩ | ⟨failed, number, isNumber, beyond⟩ :=
    DecimalText.stoul_cases (chars str)
  · rw [read, isNumber]
    refine iff_of_true (contained_ok number) ⟨.inr rfl, ?_⟩
    rintro _ ⟨⟩
    exact inside
  · rw [failed, absent, contained_error]
    constructor
    · exact fun caught => ⟨.inl caught.1, fun _ impossible => by cases impossible⟩
    · rintro ⟨isLenient | impossible, -⟩
      · exact ⟨isLenient, _, rfl⟩
      · cases impossible
  · rw [failed, contained_error]
    exact iff_of_false (not_caught_outOfRange _) (fun both => absurd (both.2 number isNumber) (not_le.mpr beyond))

theorem contained_castTo (doubles : Doubles) (bits : ℕ) (number : doubles.Double) :
    Contained lenient (castTo doubles bits number) ↔ (doubles.cast bits number).isSome := by
  unfold castTo
  cases doubles.cast bits number with
  | none =>
    exact iff_of_false (fun contained => not_caught_undefined ((contained_error _).mp contained)) Bool.noConfusion
  | some integer => exact iff_of_true (contained_ok integer) rfl

theorem contained_stod (doubles : Doubles) (str : Bytes) : Contained lenient (doubles.stod str) ↔
    (lenient ∨ doubles.stod str ≠ .error (.thrown (.invalidArgument "stod"))) ∧
      doubles.stod str ≠ .error (.thrown (.outOfRange "stod")) := by
  cases read : doubles.stod str with
  | ok number =>
    exact iff_of_true (contained_ok number) ⟨.inr (fun same => by cases same), fun same => by cases same⟩
  | error e =>
    rw [contained_error]
    rcases doubles.stod_throws str e read with rfl | rfl
    · constructor
      · exact fun caught => ⟨.inl caught.1, fun same => by cases same⟩
      · rintro ⟨isLenient | impossible, -⟩
        · exact ⟨isLenient, _, rfl⟩
        · exact absurd rfl impossible
    · exact iff_of_false (not_caught_outOfRange _) (fun both => both.2 rfl)

/-- A conversion that begins with `std::stoul` and ends with what is always converted. -/
theorem contained_stoul_bind (str : Bytes) {next : UInt64 → Outcome Bytes}
    (always : ∀ number, Contained lenient (next number)) :
    Contained lenient (stoul str >>= next) ↔
      (lenient ∨ (DecimalText.scan (chars str)).isSome) ∧ FitsUnsignedLong str := by
  rw [contained_bind, contained_stoul]
  exact and_iff_left fun number _ => always number

/-- A conversion that begins with `std::stod` and casts the number with its gain. -/
theorem contained_stod_bind (doubles : Doubles) (bits : ℕ) (gain : ℚ) (str : Bytes) (last : ℕ → Bytes) :
    Contained lenient (doubles.stod str >>= fun number =>
        castTo doubles bits (doubles.mul (doubles.literal gain) number) >>= fun integer => pure (last integer)) ↔
      (lenient ∨ doubles.stod str ≠ .error (.thrown (.invalidArgument "stod"))) ∧
        FitsDouble doubles bits gain str := by
  rw [contained_bind, contained_stod, and_assoc, FitsDouble]
  refine and_congr_right fun _ => and_congr_right fun _ => forall₂_congr fun number _ => ?_
  rw [contained_bind, contained_castTo]
  exact and_iff_left fun integer _ => contained_ok _

theorem contained_convert (doubles : Doubles) (did : UInt16) (str : Bytes) :
    Contained lenient (convert doubles did str) ↔
      (lenient ∨ Numeric doubles did str) ∧ Convertible doubles did str := by
  unfold convert Numeric Convertible
  by_cases consumption : did = cAverageFuelConsumptionDid
  · subst consumption
    exact contained_stod_bind doubles 16 20 str
      fun integer => [UInt8.ofNat (integer / 256), UInt8.ofNat (integer % 256)]
  · by_cases odometer : did = cOdometerValueDid
    · subst odometer
      exact contained_stod_bind doubles 32 10 str (splitOdometerValue cConversionBases)
    · rw [if_neg consumption, if_neg odometer, if_neg (not_or.mpr ⟨consumption, odometer⟩), if_neg consumption,
        if_neg odometer]
      by_cases fuel : did = cFuelAmountDid
      · subst fuel
        show Contained lenient (stoul str >>= fun number => castTo doubles 8 _ >>= fun integer => pure _) ↔ _
        rw [contained_bind, contained_stoul, and_assoc]
        refine and_congr_right fun _ => and_congr_right fun _ => ?_
        rw [forall_prop_of_true rfl]
        refine forall₂_congr fun number _ => ?_
        rw [contained_bind, contained_castTo]
        exact and_iff_left fun integer _ => contained_ok _
      · rw [if_neg fuel, and_iff_left (fun isFuel => absurd isFuel fuel)]
        by_cases speed : did = cAverageSpeedDid
        · rw [if_pos speed]
          exact contained_stoul_bind str fun number => contained_ok _
        · rw [if_neg speed]
          exact contained_stoul_bind str fun number => contained_ok _

/-! ### The answers of the server -/

/-- The value of the resource in the document has this text. -/
def Holds (document : Json) (key str : Bytes) : Prop :=
  ∃ resource value, document.member? key .null = some resource ∧ resource.member? cValueKey .null = some value ∧
    value.text? = some str

/-- What an accessor does not find is an exception that is never caught, so it has to be there. -/
theorem contained_access_bind {there : Option α} {x : Outcome α} {f : α → Outcome β} (accesses : Accesses there x) :
    Contained lenient (x >>= f) ↔ ∃ a, there = some a ∧ Contained lenient (f a) := by
  cases there with
  | none =>
    obtain ⟨what, rfl⟩ := accesses
    refine iff_of_false (fun contained => ?_) (fun ⟨_, impossible, _⟩ => by cases impossible)
    exact not_caught_logicError what ((contained_error _).mp contained)
  | some a =>
    cases accesses
    constructor
    · exact fun contained => ⟨a, rfl, contained⟩
    · rintro ⟨_, ⟨⟩, contained⟩
      exact contained

/-- When the resource server is asked for the identifier: it does not answer, or its answer does not parse, or it holds
a value that can be converted. -/
def Answers (lenient : Prop) (environment : Environment) (did : UInt16) (key : Bytes) : Prop :=
  ∀ document, environment.tryExecute (environment.resourcesUrl ++ text "/" ++ key) = some document →
    environment.reader.parse document = .ok none ∨
      ∃ parsed str, environment.reader.parse document = .ok (some parsed) ∧ Holds parsed key str ∧
        (lenient ∨ Numeric environment.doubles did str) ∧ Convertible environment.doubles did str

/-- The exception, if the answer is one, is caught. -/
def AnswerContained (lenient : Prop) (answer : Answer) : Prop := ∀ e, answer = .faulted e → Caught lenient e

theorem answerContained_faulted (e : Fault) : AnswerContained lenient (.faulted e) ↔ Caught lenient e := by
  constructor
  · exact fun contained => contained e rfl
  · rintro caught _ ⟨⟩
    exact caught

theorem answerContained_response (responseData : Bytes) : AnswerContained lenient (.response responseData) := by
  intro e same
  cases same

section Resource
variable {environment : Environment} {cache : ResponseCache} {did : UInt16} {key document : Bytes}

theorem getResource_unanswered (unanswered : tryGetResourceValue environment key = .ok none)
    (cache : ResponseCache) (did : UInt16) (convert : Bytes → Outcome Bytes) :
    AnswerContained lenient (getResource environment cache did key convert).1 := by
  rw [getResource, unanswered]
  exact answerContained_response _

theorem getResource_error {e : Fault} (failed : tryGetResourceValue environment key = .error e)
    (cache : ResponseCache) (did : UInt16) (convert : Bytes → Outcome Bytes) :
    AnswerContained lenient (getResource environment cache did key convert).1 ↔ Caught lenient e := by
  rw [getResource, failed]
  exact answerContained_faulted e

theorem getResource_value {value : Json} (answered : tryGetResourceValue environment key = .ok (some value))
    (cache : ResponseCache) (did : UInt16) (convert : Bytes → Outcome Bytes) :
    AnswerContained lenient (getResource environment cache did key convert).1 ↔
      Contained lenient (environment.values.asString value >>= convert) := by
  rw [getResource, answered]
  dsimp only
  cases environment.values.asString value >>= convert with
  | error e => exact (answerContained_faulted e).trans (contained_error e).symm
  | ok converted => exact iff_of_true (answerContained_response _) (contained_ok converted)

/-- Of a document that parses the value is looked up and converted. -/
theorem getResource_parsed {parsed : Json}
    (answered : environment.tryExecute (environment.resourcesUrl ++ text "/" ++ key) = some document)
    (parses : environment.reader.parse document = .ok (some parsed)) (cache : ResponseCache) (did : UInt16)
    (convert : Bytes → Outcome Bytes) :
    AnswerContained lenient (getResource environment cache did key convert).1 ↔
      Contained lenient (environment.values.resolveReference parsed key >>= fun resource =>
        environment.values.resolveReference resource cValueKey >>= fun value =>
          environment.values.asString value >>= convert) := by
  have made : tryGetResourceValue environment key =
      environment.values.resolveReference parsed key >>= fun resource =>
        environment.values.resolveReference resource cValueKey >>= fun value => pure (some value) := by
    rw [tryGetResourceValue, answered]
    dsimp only
    rw [parses]
    rfl
  cases resolved : environment.values.resolveReference parsed key with
  | error e =>
    rw [resolved] at made
    exact (getResource_error made cache did convert).trans (contained_error e).symm
  | ok resource =>
    rw [resolved] at made
    show _ ↔ Contained lenient (environment.values.resolveReference resource cValueKey >>= _)
    replace made : tryGetResourceValue environment key =
      (environment.values.resolveReference resource cValueKey >>= fun value => pure (some value)) := made
    cases resolvedValue : environment.values.resolveReference resource cValueKey with
    | error e =>
      rw [resolvedValue] at made
      exact (getResource_error made cache did convert).trans (contained_error e).symm
    | ok value =>
      rw [resolvedValue] at made
      exact getResource_value made cache did convert

/-- The value that a document holds has to be there, and to be converted. -/
theorem contained_holds (values : JsonValues) (parsed : Json) (key : Bytes) (convert : Bytes → Outcome Bytes) :
    Contained lenient (values.resolveReference parsed key >>= fun resource =>
        values.resolveReference resource cValueKey >>= fun value => values.asString value >>= convert) ↔
      ∃ str, Holds parsed key str ∧ Contained lenient (convert str) := by
  rw [contained_access_bind (values.resolveReference_accesses parsed key)]
  constructor
  · rintro ⟨resource, resolved, contained⟩
    obtain ⟨value, resolvedValue, contained⟩ :=
      (contained_access_bind (values.resolveReference_accesses resource cValueKey)).mp contained
    obtain ⟨str, isText, contained⟩ := (contained_access_bind (values.asString_accesses value)).mp contained
    exact ⟨str, ⟨resource, value, resolved, resolvedValue, isText⟩, contained⟩
  · rintro ⟨str, ⟨resource, value, resolved, resolvedValue, isText⟩, contained⟩
    refine ⟨resource, resolved, ?_⟩
    refine (contained_access_bind (values.resolveReference_accesses resource cValueKey)).mpr
      ⟨value, resolvedValue, ?_⟩
    exact (contained_access_bind (values.asString_accesses value)).mpr ⟨str, isText, contained⟩

theorem getResource_contained_iff (environment : Environment) (cache : ResponseCache) (did : UInt16) (key : Bytes) :
    AnswerContained lenient (getResource environment cache did key (convert environment.doubles did)).1 ↔
      Answers lenient environment did key := by
  unfold Answers
  cases answered : environment.tryExecute (environment.resourcesUrl ++ text "/" ++ key) with
  | none =>
    have unanswered : tryGetResourceValue environment key = .ok none := by rw [tryGetResourceValue, answered]
    exact iff_of_true (getResource_unanswered unanswered cache did _) (fun _ impossible => by cases impossible)
  | some document =>
    have only (good : Bytes → Prop) : (∀ other, some document = some other → good other) ↔ good document :=
      ⟨fun all => all document rfl, fun here _ same => Option.some.inj same ▸ here⟩
    rw [only]
    cases parses : environment.reader.parse document with
    | error e =>
      obtain ⟨what, rfl⟩ := environment.reader.parse_throws document e parses
      have failed : tryGetResourceValue environment key = .error (.thrown (.runtimeError what)) := by
        rw [tryGetResourceValue, answered]
        dsimp only
        rw [parses]
        rfl
      rw [getResource_error failed]
      refine iff_of_false (not_caught_runtimeError what) ?_
      rintro (impossible | ⟨_, _, impossible, -⟩) <;> cases impossible
    | ok parsed =>
      cases parsed with
      | none =>
        have unanswered : tryGetResourceValue environment key = .ok none := by
          rw [tryGetResourceValue, answered]
          dsimp only
          rw [parses]
          rfl
        exact iff_of_true (getResource_unanswered unanswered cache did _) (.inl rfl)
      | some parsed =>
        rw [getResource_parsed answered parses, contained_holds]
        constructor
        · rintro ⟨str, holds, contained⟩
          exact .inr ⟨parsed, str, rfl, holds, (contained_convert _ did str).mp contained⟩
        · rintro (impossible | ⟨_, str, ⟨⟩, holds, converts⟩)
          · cases impossible
          · exact ⟨str, holds, (contained_convert _ did str).mpr converts⟩

end Resource

/-! ### The service -/

theorem getDid_eq_ok (requestData : Bytes) : (∃ did, getDid requestData = .ok did) ↔ 3 ≤ requestData.length := by
  match requestData with
  | [] | [_] | [_, _] => exact iff_of_false (fun ⟨_, impossible⟩ => by cases impossible) (by simp)
  | _ :: msb :: lsb :: _ => exact iff_of_true ⟨_, rfl⟩ (by simp)

theorem getValue_contained_iff (environment : Environment) (cache : ResponseCache) (did : UInt16) :
    AnswerContained lenient (getValue environment cache did).1 ↔
      ∀ key, resourceKey did = some key → Answers lenient environment did key := by
  rw [getValue_eq]
  cases resourceKey did with
  | none => exact iff_of_true (answerContained_response _) (fun _ impossible => by cases impossible)
  | some key =>
    refine (getResource_contained_iff environment cache did key).trans ?_
    exact ⟨fun answers _ same => Option.some.inj same ▸ answers, fun all => all key rfl⟩

/-- An exception of the service is caught exactly when the request has an identifier and, if the server is asked for
it, the answer is one that the service can use. -/
theorem handleMessage_contained_iff (environment : Environment) (cache : ResponseCache) (requestData : Bytes) :
    AnswerContained lenient (handleMessage environment cache requestData).1 ↔
      3 ≤ requestData.length ∧ ∀ did key, getDid requestData = .ok did →
        (cache.tryGet did environment.lookupTime).1 = none → resourceKey did = some key →
          Answers lenient environment did key := by
  unfold handleMessage
  rw [← getDid_eq_ok]
  cases given : getDid requestData with
  | error e =>
    have short : ¬ Caught lenient e := by
      unfold getDid at given
      split at given
      · cases given
      · cases given
        exact not_caught_outOfRange _
    exact iff_of_false (fun contained => short ((answerContained_faulted e).mp contained))
      (fun ⟨⟨_, impossible⟩, _⟩ => by cases impossible)
  | ok did =>
    dsimp only
    rcases looked : cache.tryGet did environment.lookupTime with ⟨cached, after⟩
    cases cached with
    | some responseData =>
      refine iff_of_true (answerContained_response responseData) ⟨⟨did, rfl⟩, ?_⟩
      rintro _ key ⟨⟩ stale
      rw [looked] at stale
      cases stale
    | none =>
      refine (getValue_contained_iff environment after did).trans ?_
      constructor
      · intro answers
        refine ⟨⟨did, rfl⟩, ?_⟩
        intro _ key same _
        cases same
        exact answers key
      · rintro ⟨-, answers⟩ key
        exact answers did key rfl (by rw [looked])

end ReadDataByIdentifier
end AdaptiveAutosar.Application
