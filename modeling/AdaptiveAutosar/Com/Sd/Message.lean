import AdaptiveAutosar.Com.EntryRecord
import AdaptiveAutosar.Com.SomeIpMessage

/-! # Service discovery messages

`ara::com::someip::sd::SomeIpSdMessage`. Entries and options are written into two arrays at once
and read back with two cursors: an entry's record holds the numbers of its options, the options
follow each other in their own array in the order of the entries.

Offsets are of type `std::size_t`. They stay below 2^34 here, so they are natural numbers; the bound
of the entry loop is a `uint32_t` and keeps its wrap around.
-/

namespace AdaptiveAutosar.Com
open Foundations Foundations.BigEndian
set_option autoImplicit false

structure SomeIpSdMessage extends SomeIpMessage where
  rebooted : Bool
  entries : List AnyEntry
  deriving DecidableEq, Repr

namespace SomeIpSdMessage

def cMessageId : UInt32 := 0xffff8100
def cClientId : UInt16 := 0x0000
def cProtocolVersion : UInt8 := 0x01
def cInterfaceVersion : UInt8 := 0x01
def cMessageType : SomeIpMessageType := .notification
def cRebootedFlag : UInt32 := 0xc0000000
def cNotRebootedFlag : UInt32 := 0x40000000

def make : Outcome SomeIpSdMessage := do
  let base ← SomeIpMessage.makeRequest cMessageId cClientId cProtocolVersion cInterfaceVersion
    cMessageType 1
  pure { toSomeIpMessage := base, rebooted := true, entries := [] }

def getEntriesLength (message : SomeIpSdMessage) : UInt32 :=
  let cEntrySize : UInt32 := 16
  UInt32.ofNat message.entries.length * cEntrySize

def addOptionLength (result : UInt32) (option : EntryOption) : UInt32 :=
  let cOptionLengthFieldSize : UInt32 := 3
  result + (cOptionLengthFieldSize + option.length.toUInt32)

def getOptionsLength (message : SomeIpSdMessage) : UInt32 :=
  message.entries.foldl (fun result entry =>
    entry.toEntry.secondOptions.foldl addOptionLength
      (entry.toEntry.firstOptions.foldl addOptionLength result)) 0

def addEntry (message : SomeIpSdMessage) (entry : AnyEntry) : SomeIpSdMessage :=
  { message with entries := message.entries ++ [entry] }

def length (message : SomeIpSdMessage) : UInt32 :=
  let cLengthFieldSize : UInt32 := 4
  let cGeneralHeaderSize : UInt32 := 8
  let cSdHeaderSize : UInt32 := 4
  let entriesLength := cLengthFieldSize + message.getEntriesLength
  let optionsLength := cLengthFieldSize + message.getOptionsLength
  cGeneralHeaderSize + cSdHeaderSize + entriesLength + optionsLength

def setSessionId (message : SomeIpSdMessage) (sessionId : UInt16) : Outcome SomeIpSdMessage :=
  if sessionId = 0 then
    .error (.thrown (.invalidArgument "Session ID cannot be zero for the SD message."))
  else .ok { message with toSomeIpMessage := message.toSomeIpMessage.setSessionId sessionId }

def incrementSessionId (message : SomeIpSdMessage) : Bool × SomeIpSdMessage :=
  let (wrapped, base) := message.toSomeIpMessage.incrementSessionId
  (wrapped, { message with toSomeIpMessage := base, rebooted := message.rebooted && !wrapped })

/-! ## Serialisation -/

/-- The locals of the loop over the entries. -/
structure Serial where
  lastOptionIndex : UInt8
  entriesPayload : Bytes
  optionsPayload : Bytes
  deriving DecidableEq, Repr

def appendOption (serial : Serial) (option : EntryOption) : Serial :=
  { serial with
    optionsPayload := serial.optionsPayload ++ option.payload
    lastOptionIndex := serial.lastOptionIndex + 1 }

/-- `Entry::Payload` takes the index by reference and moves it; the option loops move it again. -/
def appendEntry (serial : Serial) (entry : AnyEntry) : Serial :=
  let (entryPayload, lastOptionIndex) := entry.payload serial.lastOptionIndex
  let serial := { serial with entriesPayload := serial.entriesPayload ++ entryPayload, lastOptionIndex }
  let serial := entry.toEntry.firstOptions.foldl appendOption serial
  entry.toEntry.secondOptions.foldl appendOption serial

def payload (message : SomeIpSdMessage) : Bytes :=
  let result := message.toSomeIpMessage.payload message.length
  let result := injectInteger result (if message.rebooted then cRebootedFlag else cNotRebootedFlag)
  let serial := message.entries.foldl appendEntry ⟨0, [], []⟩
  let result := injectInteger result message.getEntriesLength
  let result := result ++ serial.entriesPayload
  let result := injectInteger result message.getOptionsLength
  result ++ serial.optionsPayload

/-! ## Deserialisation -/

/-- Read `n` options and add each of them to the entry. -/
def deserializeOptions (add : AnyEntry → EntryOption → Outcome AnyEntry) :
    ℕ → AnyEntry → Cursor UInt8 AnyEntry
  | 0, entry => pure entry
  | n + 1, entry => do
    let option ← OptionDeserializer.deserialize
    let entry ← Cursor.lift (add entry option)
    deserializeOptions add n entry

/-- The loop over the entries. A round consumes sixteen bytes or throws, so as many rounds as the
payload has bytes are enough. -/
def deserializeEntries (payload : Bytes) (entryOffsetMax : ℕ) :
    ℕ → ℕ → ℕ → List AnyEntry → Outcome (List AnyEntry)
  | 0, entryOffset, _, entries =>
    if entryOffset < entryOffsetMax then .error .diverged else .ok entries
  | rounds + 1, entryOffset, optionOffset, entries =>
    if entryOffset < entryOffsetMax then do
      let ((entry, numberOfFirstOptions, numberOfSecondOptions), entryOffset) ←
        EntryDeserializer.deserialize payload entryOffset
      let (entry, optionOffset) ←
        deserializeOptions AnyEntry.addFirstOption numberOfFirstOptions.toNat entry payload optionOffset
      let (entry, optionOffset) ←
        deserializeOptions AnyEntry.addSecondOption numberOfSecondOptions.toNat entry payload optionOffset
      deserializeEntries payload entryOffsetMax rounds entryOffset optionOffset (entries ++ [entry])
    else .ok entries

def cSomeIpSdPduOffset : ℕ := 16
def cOptionsLengthFieldSize : ℕ := 4

def rebootedOf (rebootFlag : UInt32) : Outcome Bool :=
  if rebootFlag = cRebootedFlag then .ok true
  else if rebootFlag = cNotRebootedFlag then .ok false
  else .error (.thrown (.outOfRange "The serialized reboot flag is out of range."))

def deserialize (payload : Bytes) : Outcome SomeIpSdMessage := do
  let result ← make
  let base ← SomeIpMessage.deserialize payload
  let (rebootFlag, entryOffset) ← extractInteger payload cSomeIpSdPduOffset
  let rebooted ← rebootedOf rebootFlag
  let (entriesLength, entryOffset) ← extractInteger payload entryOffset
  let entryOffsetMax := UInt32.ofNat (entryOffset + entriesLength.toNat)
  let optionOffset := entryOffset + entriesLength.toNat + cOptionsLengthFieldSize
  let entries ← deserializeEntries payload entryOffsetMax.toNat payload.length entryOffset optionOffset
    result.entries
  pure { toSomeIpMessage := base, rebooted, entries }

/-! ## Messages of the public API -/

inductive Built : SomeIpSdMessage → Prop where
  | make {message : SomeIpSdMessage} (h : make = .ok message) : Built message
  | addEntry {message : SomeIpSdMessage} {entry : AnyEntry} (hm : Built message)
      (he : entry.Built) : Built (message.addEntry entry)
  | setSessionId {message message' : SomeIpSdMessage} {sessionId : UInt16} (hm : Built message)
      (h : message.setSessionId sessionId = .ok message') : Built message'
  | incrementSessionId {message : SomeIpSdMessage} (hm : Built message) :
      Built message.incrementSessionId.2
  | deserialize {payload : Bytes} {message : SomeIpSdMessage} (h : deserialize payload = .ok message) :
      Built message

theorem make_eq : make = .ok ⟨⟨cMessageId, cClientId, 1, cProtocolVersion, cInterfaceVersion,
    cMessageType, .eOK⟩, true, []⟩ := rfl

end SomeIpSdMessage

end AdaptiveAutosar.Com
