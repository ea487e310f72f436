import AdaptiveAutosar.Com.PayloadHelper

/-! # Entry options

`ara::com::option`: the option classes, their serialisation and `OptionDeserializer`. `Option` is
an abstract class open to further subclasses; `EntryOption.other` stands for an object of a class
this repository does not have, with the answers of its virtual `Length()` and `Payload()`.
-/

namespace AdaptiveAutosar.Com
open Foundations Foundations.BigEndian
set_option autoImplicit false

inductive OptionType where
  | configuration
  | loadBalancing
  | iPv4Endpoint
  | iPv6Endpoint
  | iPv4Multicast
  | iPv6Multicast
  | iPv4SdEndpoint
  | iPv6SdEndpoint
  deriving DecidableEq, Repr

namespace OptionType

def code : OptionType → UInt8
  | configuration => 0x01
  | loadBalancing => 0x02
  | iPv4Endpoint => 0x04
  | iPv6Endpoint => 0x06
  | iPv4Multicast => 0x14
  | iPv6Multicast => 0x16
  | iPv4SdEndpoint => 0x24
  | iPv6SdEndpoint => 0x26

/-- The enumerator a byte names, if it names one. -/
def ofCode (byte : UInt8) : Option OptionType :=
  [configuration, loadBalancing, iPv4Endpoint, iPv6Endpoint, iPv4Multicast, iPv6Multicast,
    iPv4SdEndpoint, iPv6SdEndpoint].find? (fun type => type.code == byte)

theorem ofCode_code (type : OptionType) : ofCode type.code = some type := by
  cases type <;> decide

theorem code_of_ofCode {byte : UInt8} {type : OptionType} (h : ofCode byte = some type) :
    type.code = byte := by
  have := List.find?_some h
  exact eq_of_beq this

theorem ofCode_eq_some {byte : UInt8} {type : OptionType} : ofCode byte = some type ↔ byte = type.code :=
  ⟨fun h => (code_of_ofCode h).symm, fun h => h ▸ ofCode_code type⟩

end OptionType

/-- The type is cast from a byte without a check, so its values are all the bytes. -/
structure Layer4ProtocolType where
  code : UInt8
  deriving DecidableEq, Repr

namespace Layer4ProtocolType
def tcp : Layer4ProtocolType := ⟨0x06⟩
def udp : Layer4ProtocolType := ⟨0x11⟩
end Layer4ProtocolType

/-! ## The option classes -/

def cMulticastOctetMin : UInt8 := 224
def cMulticastOctetMax : UInt8 := 239

def Ipv4Address.IsMulticast (ipAddress : Ipv4Address) : Prop :=
  cMulticastOctetMin ≤ ipAddress.octet0 ∧ ipAddress.octet0 ≤ cMulticastOctetMax

instance (ipAddress : Ipv4Address) : Decidable ipAddress.IsMulticast := by
  unfold Ipv4Address.IsMulticast
  infer_instance

/-- The constructor is private: an object has come out of one of the three factories. -/
structure Ipv4EndpointOption where
  type : OptionType
  discardable : Bool
  ipAddress : Ipv4Address
  l4Proto : Layer4ProtocolType
  port : UInt16
  made : type = .iPv4Endpoint ∨
    (type = .iPv4Multicast ∧ ipAddress.IsMulticast ∧ l4Proto = .udp) ∨ type = .iPv4SdEndpoint
  deriving DecidableEq, Repr

structure LoadBalancingOption where
  discardable : Bool
  priority : UInt16
  weight : UInt16
  deriving DecidableEq, Repr

inductive EntryOption where
  | ipv4Endpoint (option : Ipv4EndpointOption)
  | loadBalancing (option : LoadBalancingOption)
  | other (type : OptionType) (discardable : Bool) (length : UInt16) (payload : Bytes)
  deriving DecidableEq, Repr

namespace Ipv4EndpointOption

def length (_ : Ipv4EndpointOption) : UInt16 := 9

def createUnitcastEndpoint (discardable : Bool) (ipAddress : Ipv4Address)
    (protocol : Layer4ProtocolType) (port : UInt16) : Ipv4EndpointOption :=
  ⟨.iPv4Endpoint, discardable, ipAddress, protocol, port, .inl rfl⟩

def createMulticastEndpoint (discardable : Bool) (ipAddress : Ipv4Address) (port : UInt16) :
    Outcome Ipv4EndpointOption :=
  if h : ipAddress.IsMulticast then
    .ok ⟨.iPv4Multicast, discardable, ipAddress, .udp, port, .inr (.inl ⟨rfl, h, rfl⟩)⟩
  else .error (.thrown (.invalidArgument "IP address is out of range."))

def createSdEndpoint (discardable : Bool) (ipAddress : Ipv4Address)
    (protocol : Layer4ProtocolType) (port : UInt16) : Ipv4EndpointOption :=
  ⟨.iPv4SdEndpoint, discardable, ipAddress, protocol, port, .inr (.inr rfl)⟩

end Ipv4EndpointOption

namespace LoadBalancingOption

def length (_ : LoadBalancingOption) : UInt16 := 5

end LoadBalancingOption

/-! ## Serialisation -/

/-- `Option::BasePayload`. -/
def optionBasePayload (length : UInt16) (type : OptionType) (discardable : Bool) : Bytes :=
  injectShort [] length ++ [type.code] ++ [if discardable then 1 else 0]

def Ipv4EndpointOption.payload (option : Ipv4EndpointOption) : Bytes :=
  let result := optionBasePayload option.length option.type option.discardable
  let result := Ipv4Address.inject result option.ipAddress
  let result := result ++ [0x00]
  let result := result ++ [option.l4Proto.code]
  injectShort result option.port

def LoadBalancingOption.payload (option : LoadBalancingOption) : Bytes :=
  let result := optionBasePayload option.length .loadBalancing option.discardable
  let result := injectShort result option.priority
  injectShort result option.weight

theorem Ipv4EndpointOption.payload_eq (option : Ipv4EndpointOption) :
    option.payload = [0, 9, option.type.code, if option.discardable then 1 else 0] ++
      (option.ipAddress.octets ++ [0, option.l4Proto.code] ++ bytes16 option.port) := by
  simp only [payload, optionBasePayload, length, Ipv4Address.inject, injectShort, List.append_assoc,
    List.nil_append]
  rfl

theorem LoadBalancingOption.payload_eq (option : LoadBalancingOption) :
    option.payload = [0, 5, OptionType.loadBalancing.code, if option.discardable then 1 else 0] ++
      (bytes16 option.priority ++ bytes16 option.weight) := by
  simp only [payload, optionBasePayload, length, injectShort, List.append_assoc, List.nil_append]
  rfl

namespace EntryOption

def type : EntryOption → OptionType
  | ipv4Endpoint option => option.type
  | loadBalancing _ => .loadBalancing
  | other type _ _ _ => type

def discardable : EntryOption → Bool
  | ipv4Endpoint option => option.discardable
  | loadBalancing option => option.discardable
  | other _ discardable _ _ => discardable

def length : EntryOption → UInt16
  | ipv4Endpoint option => option.length
  | loadBalancing option => option.length
  | other _ _ length _ => length

def payload : EntryOption → Bytes
  | ipv4Endpoint option => option.payload
  | loadBalancing option => option.payload
  | other _ _ _ payload => payload

/-- An option of one of the two classes of the repository. -/
def IsOwn : EntryOption → Prop
  | ipv4Endpoint _ => True
  | loadBalancing _ => True
  | other _ _ _ _ => False

instance (option : EntryOption) : Decidable option.IsOwn := by
  cases option <;> unfold IsOwn <;> infer_instance

end EntryOption

/-! ## Deserialisation -/

def Ipv4EndpointOption.deserialize (type : OptionType) (discardable : Bool) :
    Cursor UInt8 Ipv4EndpointOption := do
  let ipAddress ← Ipv4Address.extract
  Cursor.skip 1
  let protocol ← Cursor.checked
  let port ← extractShort
  match type with
  | .iPv4Endpoint => pure (createUnitcastEndpoint discardable ipAddress ⟨protocol⟩ port)
  | .iPv4Multicast => Cursor.lift (createMulticastEndpoint discardable ipAddress port)
  | .iPv4SdEndpoint => pure (createSdEndpoint discardable ipAddress ⟨protocol⟩ port)
  | _ => Cursor.lift (.error (.thrown (.outOfRange
      "The option type does not belong to IPv4 endpoint option series.")))

def LoadBalancingOption.deserialize (discardable : Bool) : Cursor UInt8 LoadBalancingOption := do
  let priority ← extractShort
  let weight ← extractShort
  pure ⟨discardable, priority, weight⟩

namespace OptionDeserializer

/-- The rest of the record, behind its type and its flag. -/
def body (type : UInt8) (discardable : Bool) : Cursor UInt8 EntryOption :=
  match OptionType.ofCode type with
  | some .iPv4Endpoint => .ipv4Endpoint <$> Ipv4EndpointOption.deserialize .iPv4Endpoint discardable
  | some .iPv4Multicast => .ipv4Endpoint <$> Ipv4EndpointOption.deserialize .iPv4Multicast discardable
  | some .iPv4SdEndpoint => .ipv4Endpoint <$> Ipv4EndpointOption.deserialize .iPv4SdEndpoint discardable
  | some .loadBalancing => .loadBalancing <$> LoadBalancingOption.deserialize discardable
  | _ => Cursor.lift (.error (.thrown (.outOfRange "Option type is not supported for deserializing.")))

def deserialize : Cursor UInt8 EntryOption := do
  Cursor.skip 2
  let type ← Cursor.checked
  let discardable ← Cursor.checked
  body type (discardable != 0)

end OptionDeserializer

/-! ## What the deserializers make of a record -/

theorem Ipv4EndpointOption.deserialize_endpoint (discardable : Bool) (o0 o1 o2 o3 r p b0 b1 : UInt8) :
    (deserialize .iPv4Endpoint discardable).Yields [o0, o1, o2, o3, r, p, b0, b1]
      (.ok (createUnitcastEndpoint discardable ⟨o0, o1, o2, o3⟩ ⟨p⟩ (word16 b0 b1))) :=
  (Ipv4Address.extract_yields o0 o1 o2 o3).bind ((Cursor.Yields.skip [r]).bind
    ((Cursor.Yields.checked p).bind ((extractShort_yields b0 b1).bind (Cursor.Yields.pure _))))

theorem Ipv4EndpointOption.deserialize_multicast (discardable : Bool) (o0 o1 o2 o3 r p b0 b1 : UInt8) :
    (deserialize .iPv4Multicast discardable).Yields [o0, o1, o2, o3, r, p, b0, b1]
      (createMulticastEndpoint discardable ⟨o0, o1, o2, o3⟩ (word16 b0 b1)) :=
  (Ipv4Address.extract_yields o0 o1 o2 o3).bind ((Cursor.Yields.skip [r]).bind
    ((Cursor.Yields.checked p).bind ((extractShort_yields b0 b1).bind (Cursor.Yields.lift _))))

theorem Ipv4EndpointOption.deserialize_sdEndpoint (discardable : Bool) (o0 o1 o2 o3 r p b0 b1 : UInt8) :
    (deserialize .iPv4SdEndpoint discardable).Yields [o0, o1, o2, o3, r, p, b0, b1]
      (.ok (createSdEndpoint discardable ⟨o0, o1, o2, o3⟩ ⟨p⟩ (word16 b0 b1))) :=
  (Ipv4Address.extract_yields o0 o1 o2 o3).bind ((Cursor.Yields.skip [r]).bind
    ((Cursor.Yields.checked p).bind ((extractShort_yields b0 b1).bind (Cursor.Yields.pure _))))

/-- Any record of the type, however its fields look, is too short below eight bytes. -/
theorem Ipv4EndpointOption.deserialize_truncated (type : OptionType) (discardable : Bool) :
    (deserialize type discardable).Truncated 8 :=
  Ipv4Address.extract_advances.truncated (n := 4) fun _ => (Cursor.Advances.skip 1).truncated (n := 3)
    fun _ => Cursor.Advances.checked.truncated (n := 2) fun _ => extractShort_truncated.bind _

theorem LoadBalancingOption.deserialize_yields (discardable : Bool) (b0 b1 b2 b3 : UInt8) :
    (deserialize discardable).Yields [b0, b1, b2, b3] (.ok ⟨discardable, word16 b0 b1, word16 b2 b3⟩) :=
  (extractShort_yields b0 b1).bind ((extractShort_yields b2 b3).bind (Cursor.Yields.pure _))

theorem LoadBalancingOption.deserialize_truncated (discardable : Bool) :
    (deserialize discardable).Truncated 4 :=
  extractShort_advances.truncated (n := 2) fun _ => extractShort_truncated.bind _

namespace OptionDeserializer

theorem deserialize_header {rec : Bytes} {r : Outcome EntryOption} (l0 l1 t d : UInt8)
    (h : (body t (d != 0)).Yields rec r) : deserialize.Yields ([l0, l1, t, d] ++ rec) r :=
  (Cursor.Yields.skip [l0, l1]).bind ((Cursor.Yields.checked t).bind ((Cursor.Yields.checked d).bind h))

/-- Behind its header the deserializer runs the switch on the type. -/
theorem deserialize_at {buffer : Bytes} {offset : ℕ} {l0 l1 t d : UInt8}
    (h : Cursor.HoldsAt buffer offset [l0, l1, t, d]) :
    deserialize buffer offset = body t (d != 0) buffer (offset + 4) := by
  obtain ⟨hl, htd⟩ := @Cursor.HoldsAt.append _ _ [l0, l1] [t, d] _ h
  obtain ⟨ht, hd⟩ := @Cursor.HoldsAt.append _ _ [t] [d] _ htd
  have h1 := (Cursor.Yields.skip [l0, l1]).then_at (fun _ => do
    let type ← Cursor.checked
    let discardable ← Cursor.checked
    body type (discardable != 0)) hl
  have h2 := (Cursor.Yields.checked t).then_at (fun type => do
    let discardable ← Cursor.checked
    body type (discardable != 0)) ht
  have h3 := (Cursor.Yields.checked d).then_at (fun discardable => body t (discardable != 0)) hd
  exact h1.trans (h2.trans h3)

theorem deserialize_truncated : deserialize.Truncated 4 :=
  (Cursor.Advances.skip 2).truncated (n := 2) fun _ => Cursor.Advances.checked.truncated (n := 1)
    fun _ => Cursor.Truncated.checked.bind _

theorem body_ipv4 {type : OptionType}
    (ht : type = .iPv4Endpoint ∨ type = .iPv4Multicast ∨ type = .iPv4SdEndpoint) (discardable : Bool) :
    body type.code discardable = .ipv4Endpoint <$> Ipv4EndpointOption.deserialize type discardable := by
  simp only [body, OptionType.ofCode_code]
  rcases ht with rfl | rfl | rfl <;> rfl

theorem body_loadBalancing (discardable : Bool) :
    body OptionType.loadBalancing.code discardable =
      .loadBalancing <$> LoadBalancingOption.deserialize discardable := rfl

/-- The deserializer gives back every option of the repository's own classes. -/
theorem deserialize_payload (option : EntryOption) (h : option.IsOwn) :
    deserialize.Yields option.payload (.ok option) := by
  have flag : ∀ b : Bool, ((if b then 1 else 0 : UInt8) != 0) = b := by decide
  cases option with
  | other => exact h.elim
  | loadBalancing option =>
    obtain ⟨discardable, priority, weight⟩ := option
    have hb := (LoadBalancingOption.deserialize_yields discardable (priority >>> 8).toUInt8
      priority.toUInt8 (weight >>> 8).toUInt8 weight.toUInt8).map EntryOption.loadBalancing
    rw [word16_bytes16, word16_bytes16] at hb
    rw [EntryOption.payload, LoadBalancingOption.payload_eq]
    refine deserialize_header _ _ _ _ ?_
    rw [body_loadBalancing, flag]
    exact hb
  | ipv4Endpoint option =>
    obtain ⟨type, discardable, ⟨o0, o1, o2, o3⟩, proto, port, made⟩ := option
    rw [EntryOption.payload, Ipv4EndpointOption.payload_eq]
    refine deserialize_header _ _ _ _ ?_
    have ht : type = .iPv4Endpoint ∨ type = .iPv4Multicast ∨ type = .iPv4SdEndpoint :=
      made.imp_right (Or.imp_left And.left)
    rw [body_ipv4 ht, flag]
    rcases made with rfl | ⟨rfl, hm, rfl⟩ | rfl
    · have hb := (Ipv4EndpointOption.deserialize_endpoint discardable o0 o1 o2 o3 0 proto.code
        (port >>> 8).toUInt8 port.toUInt8).map EntryOption.ipv4Endpoint
      rw [word16_bytes16] at hb
      exact hb
    · have hb := (Ipv4EndpointOption.deserialize_multicast discardable o0 o1 o2 o3 0
        Layer4ProtocolType.udp.code (port >>> 8).toUInt8 port.toUInt8).map EntryOption.ipv4Endpoint
      rw [word16_bytes16, Ipv4EndpointOption.createMulticastEndpoint, dif_pos hm] at hb
      exact hb
    · have hb := (Ipv4EndpointOption.deserialize_sdEndpoint discardable o0 o1 o2 o3 0 proto.code
        (port >>> 8).toUInt8 port.toUInt8).map EntryOption.ipv4Endpoint
      rw [word16_bytes16] at hb
      exact hb

end OptionDeserializer

/-- The announced length of an own option leaves out its length field and its type. -/
theorem EntryOption.payload_length (option : EntryOption) (h : option.IsOwn) :
    option.payload.length = 3 + option.length.toNat := by
  cases option with
  | other => exact h.elim
  | loadBalancing option => rw [payload, LoadBalancingOption.payload_eq]; rfl
  | ipv4Endpoint option => rw [payload, Ipv4EndpointOption.payload_eq]; rfl

end AdaptiveAutosar.Com
