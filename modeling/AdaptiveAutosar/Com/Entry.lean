import AdaptiveAutosar.Com.Option

/-! # Message entries

`ara::com::entry`: the entry classes, their option admission, serialisation and
`EntryDeserializer`. A `std::unique_ptr<entry::Entry>` holds one of the two subclasses, `AnyEntry`;
its virtual members are the ones defined by cases on it.
-/

namespace AdaptiveAutosar.Com
open Foundations Foundations.BigEndian
set_option autoImplicit false

inductive EntryType where
  | finding
  | offering
  | subscribing
  | acknowledging
  deriving DecidableEq, Repr

namespace EntryType

def code : EntryType → UInt8
  | finding => 0x00
  | offering => 0x01
  | subscribing => 0x06
  | acknowledging => 0x07

/-- The enumerator a byte names, if it names one. -/
def ofCode (byte : UInt8) : Option EntryType :=
  [finding, offering, subscribing, acknowledging].find? (fun type => type.code == byte)

theorem ofCode_code (type : EntryType) : ofCode type.code = some type := by
  cases type <;> decide

theorem ofCode_eq_some {byte : UInt8} {type : EntryType} :
    ofCode byte = some type ↔ byte = type.code := by
  constructor
  · intro h
    have := List.find?_some h
    exact (eq_of_beq this).symm
  · rintro rfl
    exact ofCode_code type

end EntryType

structure Entry where
  type : EntryType
  firstOptions : List EntryOption
  secondOptions : List EntryOption
  serviceId : UInt16
  instanceId : UInt16
  majorVersion : UInt8
  ttl : UInt32
  deriving DecidableEq, Repr

structure ServiceEntry extends Entry where
  minorVersion : UInt32
  deriving DecidableEq, Repr

def cCounterMax : UInt8 := 0x0f

/-- The constructor throws above `cCounterMax`. -/
structure EventgroupEntry extends Entry where
  counter : UInt8
  eventgroupId : UInt16
  counter_le : counter ≤ cCounterMax
  deriving DecidableEq, Repr

inductive AnyEntry where
  | service (entry : ServiceEntry)
  | eventgroup (entry : EventgroupEntry)
  deriving DecidableEq, Repr

namespace AnyEntry

def toEntry : AnyEntry → Entry
  | service entry => entry.toEntry
  | eventgroup entry => entry.toEntry

/-- The same object with other base fields. -/
def withEntry : AnyEntry → Entry → AnyEntry
  | service entry, base => .service { entry with toEntry := base }
  | eventgroup entry, base => .eventgroup { entry with toEntry := base }

end AnyEntry

/-! ## Constructors and factories -/

def cInfiniteTtl : UInt32 := 0xffffff
def cStopOfferTTL : UInt32 := 0x000000
def cSubscribeEventTTL : UInt32 := 0xffffff
def cNackTTL : UInt32 := 0x000000
def cUnsubscribeEventTTL : UInt32 := 0x000000

def Entry.make (type : EntryType) (serviceId instanceId : UInt16) (ttl : UInt32)
    (majorVersion : UInt8) : Entry :=
  { type, firstOptions := [], secondOptions := [], serviceId, instanceId, majorVersion, ttl }

namespace ServiceEntry

def make (type : EntryType) (serviceId instanceId : UInt16) (ttl : UInt32) (majorVersion : UInt8)
    (minorVersion : UInt32) : ServiceEntry :=
  { toEntry := Entry.make type serviceId instanceId ttl majorVersion, minorVersion }

def createFindServiceEntry (serviceId : UInt16) (ttl : UInt32) (instanceId : UInt16)
    (majorVersion : UInt8) (minorVersion : UInt32) : Outcome ServiceEntry :=
  if ttl = 0 then .error (.thrown (.invalidArgument "TTL cannot be zero."))
  else .ok (make .finding serviceId instanceId ttl majorVersion minorVersion)

def createOfferServiceEntry (serviceId instanceId : UInt16) (majorVersion : UInt8)
    (minorVersion ttl : UInt32) : Outcome ServiceEntry :=
  if ttl = 0 then .error (.thrown (.invalidArgument "TTL cannot be zero."))
  else .ok (make .offering serviceId instanceId ttl majorVersion minorVersion)

def createStopOfferEntry (serviceId instanceId : UInt16) (majorVersion : UInt8)
    (minorVersion : UInt32) : ServiceEntry :=
  make .offering serviceId instanceId cStopOfferTTL majorVersion minorVersion

end ServiceEntry

namespace EventgroupEntry

def make (type : EntryType) (serviceId instanceId : UInt16) (ttl : UInt32) (majorVersion : UInt8)
    (counter : UInt8) (eventgroupId : UInt16) : Outcome EventgroupEntry :=
  if h : counter ≤ cCounterMax then
    .ok { toEntry := Entry.make type serviceId instanceId ttl majorVersion, counter, eventgroupId,
          counter_le := h }
  else .error (.thrown (.outOfRange "The counter is out of range."))

def createSubscribeEventEntry (serviceId instanceId : UInt16) (majorVersion : UInt8)
    (counter : UInt8) (eventgroupId : UInt16) : Outcome EventgroupEntry :=
  make .subscribing serviceId instanceId cSubscribeEventTTL majorVersion counter eventgroupId

def createUnsubscribeEventEntry (serviceId instanceId : UInt16) (majorVersion : UInt8)
    (counter : UInt8) (eventgroupId : UInt16) : Outcome EventgroupEntry :=
  make .subscribing serviceId instanceId cUnsubscribeEventTTL majorVersion counter eventgroupId

def createAcknowledgeEntry (entry : EventgroupEntry) : Outcome EventgroupEntry :=
  make .acknowledging entry.serviceId entry.instanceId entry.ttl entry.majorVersion entry.counter
    entry.eventgroupId

def createNegativeAcknowledgeEntry (entry : EventgroupEntry) : Outcome EventgroupEntry :=
  make .acknowledging entry.serviceId entry.instanceId cNackTTL entry.majorVersion entry.counter
    entry.eventgroupId

def isAcknowledge (entry : EventgroupEntry) : Bool :=
  entry.type = .acknowledging && entry.ttl > cNackTTL

end EventgroupEntry

/-! ## Option admission -/

def Entry.containsOption (entry : Entry) (optionType : OptionType) : Bool :=
  entry.firstOptions.any (fun option => option.type = optionType) ||
    entry.secondOptions.any (fun option => option.type = optionType)

def Entry.validateOption (entry : Entry) (type : OptionType) : Bool :=
  match type with
  | .configuration => !entry.containsOption .configuration
  | .loadBalancing => !entry.containsOption .loadBalancing
  | .iPv4SdEndpoint => false
  | .iPv6SdEndpoint => false
  | _ => true

def ServiceEntry.validateOption (entry : ServiceEntry) (type : OptionType) : Bool :=
  entry.toEntry.validateOption type && (type != .iPv4Multicast && type != .iPv6Multicast)

def EventgroupEntry.validateOption (entry : EventgroupEntry) (type : OptionType) : Bool :=
  if entry.toEntry.validateOption type then
    match type with
    | .iPv4Endpoint | .iPv6Endpoint => entry.type = .subscribing
    | .iPv4Multicast | .iPv6Multicast =>
      if entry.isAcknowledge then !entry.containsOption type else false
    | _ => false
  else false

namespace AnyEntry

def validateOption : AnyEntry → OptionType → Bool
  | service entry => entry.validateOption
  | eventgroup entry => entry.validateOption

def addFirstOption (entry : AnyEntry) (firstOption : EntryOption) : Outcome AnyEntry :=
  if entry.validateOption firstOption.type then
    .ok (entry.withEntry { entry.toEntry with
      firstOptions := entry.toEntry.firstOptions ++ [firstOption] })
  else .error (.thrown (.invalidArgument "The option cannot be added."))

def addSecondOption (entry : AnyEntry) (secondOption : EntryOption) : Outcome AnyEntry :=
  if entry.validateOption secondOption.type then
    .ok (entry.withEntry { entry.toEntry with
      secondOptions := entry.toEntry.secondOptions ++ [secondOption] })
  else .error (.thrown (.invalidArgument "The option cannot be added."))

end AnyEntry

/-! ## Serialisation -/

/-- The payload and the option index as the call leaves it in its reference argument. -/
def Entry.basePayload (entry : Entry) (optionIndex : UInt8) : Bytes × UInt8 :=
  let result := [entry.type.code]
  let result := result ++ [optionIndex]
  let firstOptionsSize := UInt8.ofNat entry.firstOptions.length
  let optionIndex := optionIndex + firstOptionsSize
  let result := result ++ [optionIndex]
  let secondOptionsSize := UInt8.ofNat entry.secondOptions.length
  let optionIndex := optionIndex + secondOptionsSize
  let result := result ++ [(firstOptionsSize <<< 4) ||| secondOptionsSize]
  let result := injectShort result entry.serviceId
  let result := injectShort result entry.instanceId
  let majorVersion := (entry.majorVersion.toUInt32 <<< 24) ||| entry.ttl
  (injectInteger result majorVersion, optionIndex)

def AnyEntry.payload (entry : AnyEntry) (optionIndex : UInt8) : Bytes × UInt8 :=
  match entry with
  | service entry =>
    let (result, optionIndex) := entry.toEntry.basePayload optionIndex
    (injectInteger result entry.minorVersion, optionIndex)
  | eventgroup entry =>
    let (result, optionIndex) := entry.toEntry.basePayload optionIndex
    (injectShort (injectShort result entry.counter.toUInt16) entry.eventgroupId, optionIndex)

/-! ## Deserialisation -/

def ServiceEntry.deserialize (type : EntryType) (serviceId instanceId : UInt16) (ttl : UInt32)
    (majorVersion : UInt8) : Cursor UInt8 ServiceEntry := do
  let minorVersion ← extractInteger
  match type with
  | .finding => Cursor.lift (createFindServiceEntry serviceId ttl instanceId majorVersion minorVersion)
  | .offering =>
    if ttl > 0 then
      Cursor.lift (createOfferServiceEntry serviceId instanceId majorVersion minorVersion ttl)
    else pure (createStopOfferEntry serviceId instanceId majorVersion minorVersion)
  | _ => Cursor.lift (.error (.thrown (.outOfRange
      "The entry type does not belong to service entry series.")))

def EventgroupEntry.deserialize (type : EntryType) (serviceId instanceId : UInt16) (ttl : UInt32)
    (majorVersion : UInt8) : Cursor UInt8 EventgroupEntry := do
  Cursor.skip 1
  let counter ← Cursor.checked
  let eventgroupId ← extractShort
  match type with
  | .subscribing =>
    if ttl > cUnsubscribeEventTTL then
      Cursor.lift (createSubscribeEventEntry serviceId instanceId majorVersion counter eventgroupId)
    else
      Cursor.lift (createUnsubscribeEventEntry serviceId instanceId majorVersion counter eventgroupId)
  | .acknowledging =>
    Cursor.lift (make type serviceId instanceId ttl majorVersion counter eventgroupId)
  | _ => Cursor.lift (.error (.thrown (.outOfRange
      "The entry type does not belong to service entry series.")))

namespace EntryDeserializer

/-- The switch on the entry type, behind the fields all entries share. -/
def body (type : UInt8) (serviceId instanceId : UInt16) (ttl : UInt32) (majorVersion : UInt8) :
    Cursor UInt8 AnyEntry :=
  match EntryType.ofCode type with
  | some .finding => .service <$> ServiceEntry.deserialize .finding serviceId instanceId ttl majorVersion
  | some .offering => .service <$> ServiceEntry.deserialize .offering serviceId instanceId ttl majorVersion
  | some .subscribing =>
    .eventgroup <$> EventgroupEntry.deserialize .subscribing serviceId instanceId ttl majorVersion
  | some .acknowledging =>
    .eventgroup <$> EventgroupEntry.deserialize .acknowledging serviceId instanceId ttl majorVersion
  | none => Cursor.lift (.error (.thrown (.outOfRange "Entry type is not supported for deserializing.")))

/-- The entry, and the numbers of its first and second options. -/
def deserialize : Cursor UInt8 (AnyEntry × UInt8 × UInt8) := do
  let type ← Cursor.checked
  Cursor.skip 2
  let optionsNumbers ← Cursor.checked
  let serviceId ← extractShort
  let instanceId ← extractShort
  let combinedMajorVersionTtl ← extractInteger
  let majorVersion := (combinedMajorVersionTtl >>> 24).toUInt8
  let ttl := combinedMajorVersionTtl &&& 0x00ffffff
  let entry ← body type serviceId instanceId ttl majorVersion
  pure (entry, optionsNumbers >>> 4, optionsNumbers &&& 0x0f)

end EntryDeserializer

/-! ## Admission as a property of the option lists -/

namespace AnyEntry

def options (entry : AnyEntry) : List EntryOption :=
  entry.toEntry.firstOptions ++ entry.toEntry.secondOptions

/-- The types an entry of this class, type and TTL admits at all. -/
def Allows : AnyEntry → OptionType → Bool
  | service _, type => type ∉ [OptionType.iPv4Multicast, .iPv6Multicast, .iPv4SdEndpoint, .iPv6SdEndpoint]
  | eventgroup entry, type =>
    (entry.type = .subscribing ∧ type ∈ [OptionType.iPv4Endpoint, .iPv6Endpoint]) ∨
      (entry.isAcknowledge ∧ type ∈ [OptionType.iPv4Multicast, .iPv6Multicast])

/-- The types an entry holds at most once. -/
def Single (type : OptionType) : Bool :=
  type ∈ [OptionType.configuration, .loadBalancing, .iPv4Multicast, .iPv6Multicast]

theorem containsOption_iff (entry : Entry) (type : OptionType) :
    entry.containsOption type = true ↔
      ∃ option ∈ entry.firstOptions ++ entry.secondOptions, option.type = type := by
  simp only [Entry.containsOption, Bool.or_eq_true, List.any_eq_true, decide_eq_true_eq,
    List.mem_append]
  constructor
  · rintro (⟨o, h, ht⟩ | ⟨o, h, ht⟩)
    · exact ⟨o, .inl h, ht⟩
    · exact ⟨o, .inr h, ht⟩
  · rintro ⟨o, h | h, ht⟩
    · exact .inl ⟨o, h, ht⟩
    · exact .inr ⟨o, h, ht⟩

theorem validateOption_eq (entry : AnyEntry) (type : OptionType) :
    entry.validateOption type =
      (entry.Allows type && !(Single type && entry.toEntry.containsOption type)) := by
  cases entry with
  | service entry =>
    cases type <;> simp [validateOption, ServiceEntry.validateOption, Entry.validateOption, Allows,
      Single, toEntry]
  | eventgroup entry =>
    cases type <;> simp [validateOption, EventgroupEntry.validateOption, Entry.validateOption, Allows,
      Single, toEntry]

end AnyEntry

end AdaptiveAutosar.Com
