import AdaptiveAutosar.Com.Sd.RoundTrip

/-! # Entry and option records in a byte string

The records a byte string holds are read off it here without the reader: `EntryAt` and `OptionAt`
say that a complete record of a known kind stands at an offset, `OptionsClean` and `EntriesClean`
that a run of them is admissible, `OptionsRejected` and `EntriesRejected` that such a run ends at a
record that is complete and not admissible. At one record and at the options of one entry, the reader
answers the first kind with what it read, the second with `std::invalid_argument`, and everything
else with `std::out_of_range`.
-/

namespace AdaptiveAutosar.Com
open Foundations Foundations.BigEndian Foundations.Cursor
set_option autoImplicit false

namespace SomeIpSdMessage

/-! ## Records in a byte string -/

structure EntryShape where
  type : EntryType
  ttl : UInt32
  firstOptions : UInt8
  secondOptions : UInt8

inductive EntryAt (p : Bytes) (offset : ℕ) : EntryShape → Prop where
  | intro (type : EntryType) (i1 i2 n s0 s1 j0 j1 c0 c1 c2 c3 m0 m1 m2 m3 : UInt8)
      (h : HoldsAt p offset
        [type.code, i1, i2, n, s0, s1, j0, j1, c0, c1, c2, c3, m0, m1, m2, m3])
      (hcounter : type = .subscribing ∨ type = .acknowledging → m1 ≤ cCounterMax) :
      EntryAt p offset ⟨type, word32 c0 c1 c2 c3 &&& 0x00ffffff, n >>> 4, n &&& 0x0f⟩

/-- A find entry has a TTL. -/
def EntryShape.Admissible (shape : EntryShape) : Prop := ¬ (shape.type = .finding ∧ shape.ttl = 0)

/-- The options an entry takes, given the types of those it has. -/
def EntryShape.Takes (shape : EntryShape) (seen : List OptionType) : OptionType → Prop
  | .iPv4Endpoint => shape.type ≠ .acknowledging
  | .loadBalancing => (shape.type = .finding ∨ shape.type = .offering) ∧ .loadBalancing ∉ seen
  | .iPv4Multicast => shape.type = .acknowledging ∧ shape.ttl ≠ 0 ∧ .iPv4Multicast ∉ seen
  | _ => False

structure OptionShape where
  type : OptionType
  octet : UInt8
  size : ℕ

inductive OptionAt (p : Bytes) (offset : ℕ) : OptionShape → Prop where
  | ipv4 (type : OptionType) (l0 l1 d a0 a1 a2 a3 r l4 p0 p1 : UInt8)
      (ht : type = .iPv4Endpoint ∨ type = .iPv4Multicast ∨ type = .iPv4SdEndpoint)
      (h : HoldsAt p offset [l0, l1, type.code, d, a0, a1, a2, a3, r, l4, p0, p1]) :
      OptionAt p offset ⟨type, a0, 12⟩
  | loadBalancing (l0 l1 d b0 b1 b2 b3 : UInt8)
      (h : HoldsAt p offset [l0, l1, OptionType.loadBalancing.code, d, b0, b1, b2, b3]) :
      OptionAt p offset ⟨.loadBalancing, b0, 8⟩

/-- The address of a multicast option is a multicast address. -/
def OptionShape.AddressValid (shape : OptionShape) : Prop :=
  shape.type = .iPv4Multicast → cMulticastOctetMin ≤ shape.octet ∧ shape.octet ≤ cMulticastOctetMax

/-! ## Runs of records -/

section Runs
variable (p : Bytes)

/-- `n` options the entry takes, from one offset to the next. -/
inductive OptionsClean (shape : EntryShape) : ℕ → List OptionType → ℕ → List OptionType → ℕ → Prop where
  | done (seen : List OptionType) (o : ℕ) : OptionsClean shape 0 seen o seen o
  | option {n o o' : ℕ} {seen seen' : List OptionType} {s : OptionShape} (hs : OptionAt p o s)
      (ha : s.AddressValid) (ht : shape.Takes seen s.type)
      (h : OptionsClean shape n (seen ++ [s.type]) (o + s.size) seen' o') :
      OptionsClean shape (n + 1) seen o seen' o'

/-- Among the next `n` options one is complete and not admissible, and those before it are clean. -/
inductive OptionsRejected (shape : EntryShape) : ℕ → List OptionType → ℕ → Prop where
  | address {n o : ℕ} {seen : List OptionType} {s : OptionShape} (hs : OptionAt p o s)
      (ha : ¬ s.AddressValid) : OptionsRejected shape (n + 1) seen o
  | notTaken {n o : ℕ} {seen : List OptionType} {s : OptionShape} (hs : OptionAt p o s)
      (ha : s.AddressValid) (ht : ¬ shape.Takes seen s.type) : OptionsRejected shape (n + 1) seen o
  | later {n o : ℕ} {seen : List OptionType} {s : OptionShape} (hs : OptionAt p o s)
      (ha : s.AddressValid) (ht : shape.Takes seen s.type)
      (h : OptionsRejected shape n (seen ++ [s.type]) (o + s.size)) :
      OptionsRejected shape (n + 1) seen o

/-- Clean entries with their options, from two offsets until the entry offset reaches the bound. -/
inductive EntriesClean (bound : ℕ) : ℕ → ℕ → ℕ → ℕ → Prop where
  | done {a o : ℕ} (h : ¬ a < bound) : EntriesClean bound a o a o
  | entry {a o o1 o2 a' o' : ℕ} {shape : EntryShape} {seen1 seen2 : List OptionType} (hlt : a < bound)
      (hs : EntryAt p a shape) (ha : shape.Admissible)
      (hfirst : OptionsClean p shape shape.firstOptions.toNat [] o seen1 o1)
      (hsecond : OptionsClean p shape shape.secondOptions.toNat seen1 o1 seen2 o2)
      (h : EntriesClean bound (a + 16) o2 a' o') : EntriesClean bound a o a' o'

inductive EntriesRejected (bound : ℕ) : ℕ → ℕ → Prop where
  | entry {a o : ℕ} {shape : EntryShape} (hlt : a < bound) (hs : EntryAt p a shape)
      (ha : ¬ shape.Admissible) : EntriesRejected bound a o
  | firstOption {a o : ℕ} {shape : EntryShape} (hlt : a < bound) (hs : EntryAt p a shape)
      (ha : shape.Admissible) (h : OptionsRejected p shape shape.firstOptions.toNat [] o) :
      EntriesRejected bound a o
  | secondOption {a o o1 : ℕ} {shape : EntryShape} {seen1 : List OptionType} (hlt : a < bound)
      (hs : EntryAt p a shape) (ha : shape.Admissible)
      (hfirst : OptionsClean p shape shape.firstOptions.toNat [] o seen1 o1)
      (h : OptionsRejected p shape shape.secondOptions.toNat seen1 o1) : EntriesRejected bound a o
  | later {a o o1 o2 : ℕ} {shape : EntryShape} {seen1 seen2 : List OptionType} (hlt : a < bound)
      (hs : EntryAt p a shape) (ha : shape.Admissible)
      (hfirst : OptionsClean p shape shape.firstOptions.toNat [] o seen1 o1)
      (hsecond : OptionsClean p shape shape.secondOptions.toNat seen1 o1 seen2 o2)
      (h : EntriesRejected bound (a + 16) o2) : EntriesRejected bound a o

end Runs

/-! ## The reader at one option -/

theorem OptionAt.read {p : Bytes} {offset : ℕ} {shape : OptionShape} (h : OptionAt p offset shape)
    (ha : shape.AddressValid) :
    ∃ option, OptionDeserializer.deserialize p offset = .ok (option, offset + shape.size) ∧
      option.type = shape.type ∧ option.payload.length = shape.size := by
  cases h with
  | ipv4 type l0 l1 d a0 a1 a2 a3 r l4 p0 p1 ht h =>
    have hread {option : Ipv4EndpointOption} (hy : (Ipv4EndpointOption.deserialize type (d != 0)).Yields
        [a0, a1, a2, a3, r, l4, p0, p1] (.ok option)) :
        OptionDeserializer.deserialize p offset = .ok (.ipv4Endpoint option, offset + 12) := by
      have hb := hy.map EntryOption.ipv4Endpoint
      rw [← OptionDeserializer.body_ipv4 ht] at hb
      exact (OptionDeserializer.deserialize_header l0 l1 _ d hb).at h
    have hlength (option : Ipv4EndpointOption) : (EntryOption.ipv4Endpoint option).payload.length = 12 :=
      (EntryOption.ipv4Endpoint option).payload_length trivial
    rcases ht with rfl | rfl | rfl
    · exact ⟨_, hread (Ipv4EndpointOption.deserialize_endpoint _ a0 a1 a2 a3 r l4 p0 p1), rfl,
        hlength _⟩
    · have hm : Ipv4Address.IsMulticast ⟨a0, a1, a2, a3⟩ := ha rfl
      have hy := Ipv4EndpointOption.deserialize_multicast (d != 0) a0 a1 a2 a3 r l4 p0 p1
      rw [Ipv4EndpointOption.createMulticastEndpoint, dif_pos hm] at hy
      exact ⟨_, hread hy, rfl, hlength _⟩
    · exact ⟨_, hread (Ipv4EndpointOption.deserialize_sdEndpoint _ a0 a1 a2 a3 r l4 p0 p1), rfl,
        hlength _⟩
  | loadBalancing l0 l1 d b0 b1 b2 b3 h =>
    have hb := (LoadBalancingOption.deserialize_yields (d != 0) b0 b1 b2 b3).map
      EntryOption.loadBalancing
    rw [← OptionDeserializer.body_loadBalancing] at hb
    exact ⟨_, (OptionDeserializer.deserialize_header l0 l1 _ d hb).at h, rfl, rfl⟩

theorem OptionAt.read_address {p : Bytes} {offset : ℕ} {shape : OptionShape}
    (h : OptionAt p offset shape) (ha : ¬ shape.AddressValid) :
    ThrowsInvalidArgument (OptionDeserializer.deserialize p offset) := by
  cases h with
  | ipv4 type l0 l1 d a0 a1 a2 a3 r l4 p0 p1 ht h =>
    obtain ⟨rfl, hoctet⟩ := Classical.not_imp.mp ha
    have hm : ¬ Ipv4Address.IsMulticast ⟨a0, a1, a2, a3⟩ := hoctet
    have hy := Ipv4EndpointOption.deserialize_multicast (d != 0) a0 a1 a2 a3 r l4 p0 p1
    rw [Ipv4EndpointOption.createMulticastEndpoint, dif_neg hm] at hy
    have hb := hy.map EntryOption.ipv4Endpoint
    rw [← OptionDeserializer.body_ipv4 ht] at hb
    exact ⟨_, (OptionDeserializer.deserialize_header l0 l1 _ d hb).at h⟩
  | loadBalancing l0 l1 d b0 b1 b2 b3 h =>
    refine absurd ?_ ha
    intro ht
    cases ht

theorem option_cases (p : Bytes) (offset : ℕ) :
    ThrowsOutOfRange (OptionDeserializer.deserialize p offset) ∨ ∃ shape, OptionAt p offset shape := by
  by_cases hlt : p.length < offset + 4
  · exact .inl (OptionDeserializer.deserialize_truncated p offset hlt)
  obtain ⟨rec, hrec, hl⟩ := exists_record (Nat.le_of_not_lt hlt)
  match rec, hl with
  | [l0, l1, t, d], _ =>
    have hat := OptionDeserializer.deserialize_at hrec
    -- a complete record begins with these four bytes
    have hhead {rest : Bytes} {l0' l1' t' d' : UInt8}
        (h : HoldsAt p offset ([l0', l1', t', d'] ++ rest)) : [l0, l1, t, d] = [l0', l1', t', d'] :=
      hrec.eq h.append.1 rfl
    by_cases hlb : t = OptionType.loadBalancing.code
    · by_cases h8 : p.length < offset + 4 + 4
      · left
        rw [hat, hlb, OptionDeserializer.body_loadBalancing]
        exact (LoadBalancingOption.deserialize_truncated _).map _ _ _ h8
      · obtain ⟨rec8, hrec8, hl8⟩ := exists_record (Nat.le_of_not_lt h8 : offset + 8 ≤ p.length)
        match rec8, hl8 with
        | [l0', l1', t', d', b0, b1, b2, b3], _ =>
          have heq := @hhead [b0, b1, b2, b3] _ _ _ _ hrec8
          simp only [List.cons.injEq] at heq
          rw [← heq.2.2.1, hlb] at hrec8
          exact .inr ⟨_, .loadBalancing l0' l1' d' b0 b1 b2 b3 hrec8⟩
    · by_cases hip : ∃ type : OptionType, t = type.code ∧
          (type = .iPv4Endpoint ∨ type = .iPv4Multicast ∨ type = .iPv4SdEndpoint)
      · obtain ⟨type, htype, ht⟩ := hip
        by_cases h12 : p.length < offset + 4 + 8
        · left
          rw [hat, htype, OptionDeserializer.body_ipv4 ht]
          exact (Ipv4EndpointOption.deserialize_truncated _ _).map _ _ _ h12
        · obtain ⟨rec12, hrec12, hl12⟩ :=
            exists_record (Nat.le_of_not_lt h12 : offset + 12 ≤ p.length)
          match rec12, hl12 with
          | [l0', l1', t', d', a0, a1, a2, a3, r, l4, p0, p1], _ =>
            have heq := @hhead [a0, a1, a2, a3, r, l4, p0, p1] _ _ _ _ hrec12
            simp only [List.cons.injEq] at heq
            rw [← heq.2.2.1, htype] at hrec12
            exact .inr ⟨_, .ipv4 type l0' l1' d' a0 a1 a2 a3 r l4 p0 p1 ht hrec12⟩
      · left
        rw [hat]
        unfold OptionDeserializer.body
        cases hcode : OptionType.ofCode t with
        | none => exact throwsOutOfRange_error _
        | some type =>
          have htype := OptionType.ofCode_eq_some.mp hcode
          have hnot : ¬ (type = .iPv4Endpoint ∨ type = .iPv4Multicast ∨ type = .iPv4SdEndpoint) :=
            fun h => hip ⟨type, htype, h⟩
          cases type with
          | iPv4Endpoint => exact absurd (.inl rfl) hnot
          | iPv4Multicast => exact absurd (.inr (.inl rfl)) hnot
          | iPv4SdEndpoint => exact absurd (.inr (.inr rfl)) hnot
          | loadBalancing => exact absurd htype hlb
          | configuration => exact throwsOutOfRange_error _
          | iPv6Endpoint => exact throwsOutOfRange_error _
          | iPv6Multicast => exact throwsOutOfRange_error _
          | iPv6SdEndpoint => exact throwsOutOfRange_error _

/-! ## The reader at one entry -/

/-- The class, the type and the TTL an entry has from its record. -/
def OfType (type : EntryType) (ttl : UInt32) : AnyEntry → Prop
  | .service _ => type = .finding ∨ type = .offering
  | .eventgroup entry =>
    entry.type = type ∧ (type = .subscribing ∨ (type = .acknowledging ∧ entry.ttl = ttl))

theorem recordEntry_ok {type : EntryType} {ttl : UInt32} {majorVersion m0 m1 m2 m3 : UInt8}
    (serviceId instanceId : UInt16) (hfind : ¬ (type = .finding ∧ ttl = 0))
    (hcounter : type = .subscribing ∨ type = .acknowledging → m1 ≤ cCounterMax) :
    ∃ entry, EntryDeserializer.recordEntry type.code serviceId instanceId ttl majorVersion m0 m1 m2 m3 =
      .ok entry ∧ OfType type ttl entry ∧ entry.options = [] := by
  unfold EntryDeserializer.recordEntry
  rw [EntryType.ofCode_code]
  cases type with
  | finding =>
    have h0 : ¬ ttl = 0 := fun h => hfind ⟨rfl, h⟩
    refine ⟨.service (ServiceEntry.make .finding serviceId instanceId ttl majorVersion
      (word32 m0 m1 m2 m3)), ?_, .inl rfl, rfl⟩
    simp only [ServiceEntry.createFindServiceEntry, h0, if_false]
    rfl
  | offering => exact ⟨_, rfl, .inr rfl, rfl⟩
  | subscribing =>
    have hc := hcounter (.inl rfl)
    simp only [EventgroupEntry.make, hc, dif_pos]
    exact ⟨_, rfl, ⟨rfl, .inl rfl⟩, rfl⟩
  | acknowledging =>
    have hc := hcounter (.inr rfl)
    simp only [EventgroupEntry.make, hc, dif_pos]
    exact ⟨_, rfl, ⟨rfl, .inr ⟨rfl, rfl⟩⟩, rfl⟩

theorem EntryAt.read {p : Bytes} {a : ℕ} {shape : EntryShape} (h : EntryAt p a shape)
    (ha : shape.Admissible) :
    ∃ entry, EntryDeserializer.deserialize p a =
        .ok ((entry, shape.firstOptions, shape.secondOptions), a + 16) ∧
      OfType shape.type shape.ttl entry ∧ entry.options = [] := by
  cases h with
  | intro type i1 i2 n s0 s1 j0 j1 c0 c1 c2 c3 m0 m1 m2 m3 h hcounter =>
    obtain ⟨entry, hr, htype, hnil⟩ := @recordEntry_ok type (word32 c0 c1 c2 c3 &&& 0x00ffffff)
      (word32 c0 c1 c2 c3 >>> 24).toUInt8 m0 m1 m2 m3 (word16 s0 s1) (word16 j0 j1) ha hcounter
    have hb := EntryDeserializer.body_yields type.code (word16 s0 s1) (word16 j0 j1)
      (word32 c0 c1 c2 c3 &&& 0x00ffffff) (word32 c0 c1 c2 c3 >>> 24).toUInt8 m0 m1 m2 m3
    rw [hr] at hb
    exact ⟨entry, (EntryDeserializer.deserialize_header _ i1 i2 n s0 s1 j0 j1 c0 c1 c2 c3 hb).at h,
      htype, hnil⟩

theorem EntryAt.read_inadmissible {p : Bytes} {a : ℕ} {shape : EntryShape} (h : EntryAt p a shape)
    (ha : ¬ shape.Admissible) : ThrowsInvalidArgument (EntryDeserializer.deserialize p a) := by
  cases h with
  | intro type i1 i2 n s0 s1 j0 j1 c0 c1 c2 c3 m0 m1 m2 m3 h hcounter =>
    obtain ⟨rfl, h0⟩ := not_not.mp ha
    have hb := EntryDeserializer.body_yields EntryType.finding.code (word16 s0 s1) (word16 j0 j1)
      (word32 c0 c1 c2 c3 &&& 0x00ffffff) (word32 c0 c1 c2 c3 >>> 24).toUInt8 m0 m1 m2 m3
    have hr : EntryDeserializer.recordEntry EntryType.finding.code (word16 s0 s1) (word16 j0 j1)
        (word32 c0 c1 c2 c3 &&& 0x00ffffff) (word32 c0 c1 c2 c3 >>> 24).toUInt8 m0 m1 m2 m3 =
        .error (.thrown (.invalidArgument "TTL cannot be zero.")) := by
      have h0' : (word32 c0 c1 c2 c3 &&& 0x00ffffff) = 0 := h0
      unfold EntryDeserializer.recordEntry
      rw [EntryType.ofCode_code]
      simp only [ServiceEntry.createFindServiceEntry, h0', if_true]
      rfl
    rw [hr] at hb
    exact ⟨_, (EntryDeserializer.deserialize_header _ i1 i2 n s0 s1 j0 j1 c0 c1 c2 c3 hb).at h⟩

theorem entry_cases (p : Bytes) (a : ℕ) :
    ThrowsOutOfRange (EntryDeserializer.deserialize p a) ∨ ∃ shape, EntryAt p a shape := by
  by_cases hlt : p.length < a + 16
  · exact .inl (EntryDeserializer.deserialize_truncated p a hlt)
  obtain ⟨t, i1, i2, n, s0, s1, j0, j1, c0, c1, c2, c3, m0, m1, m2, m3, hrec, hd⟩ :=
    EntryDeserializer.deserialize_record (Nat.le_of_not_lt hlt)
  cases ht : EntryType.ofCode t with
  | none =>
    left
    rw [hd]
    simp only [EntryDeserializer.recordEntry, ht]
    exact throwsOutOfRange_error _
  | some type =>
    have hcode := EntryType.ofCode_eq_some.mp ht
    rw [hcode] at hrec
    by_cases hcounter : type = .subscribing ∨ type = .acknowledging → m1 ≤ cCounterMax
    · exact .inr ⟨_, .intro type i1 i2 n s0 s1 j0 j1 c0 c1 c2 c3 m0 m1 m2 m3 hrec hcounter⟩
    · left
      obtain ⟨hkind, hc⟩ := Classical.not_imp.mp hcounter
      rw [hd]
      simp only [EntryDeserializer.recordEntry, ht]
      rcases hkind with rfl | rfl
      · simp only [EventgroupEntry.make, hc, dif_neg, not_false_eq_true]
        exact throwsOutOfRange_error _
      · simp only [EventgroupEntry.make, hc, dif_neg, not_false_eq_true]
        exact throwsOutOfRange_error _

/-! ## The reader at the options of an entry -/

/-- An entry read so far: its kind, the types of its options and the bytes these took. -/
structure Tracks (entry : AnyEntry) (shape : EntryShape) (seen : List OptionType) (o o' : ℕ) : Prop where
  kind : OfType shape.type shape.ttl entry
  seen_iff : ∀ type, (∃ option ∈ entry.options, option.type = type) ↔ type ∈ seen
  size : o + (optionRecords entry).length = o'

theorem OptionAt.type_cases {p : Bytes} {o : ℕ} {s : OptionShape} (h : OptionAt p o s) :
    s.type = .iPv4Endpoint ∨ s.type = .iPv4Multicast ∨ s.type = .iPv4SdEndpoint ∨
      s.type = .loadBalancing := by
  cases h with
  | ipv4 type l0 l1 d a0 a1 a2 a3 r l4 p0 p1 ht h =>
    rcases ht with h | h | h
    · exact .inl h
    · exact .inr (.inl h)
    · exact .inr (.inr (.inl h))
  | loadBalancing => exact .inr (.inr (.inr rfl))

/-- What a record admits is what the entry read from it admits. -/
theorem Tracks.validateOption_iff {entry : AnyEntry} {shape : EntryShape} {seen : List OptionType}
    {o o' : ℕ} (h : Tracks entry shape seen o o') {p : Bytes} {a : ℕ} {s : OptionShape}
    (hs : OptionAt p a s) : entry.validateOption s.type = true ↔ shape.Takes seen s.type := by
  have hc : entry.toEntry.containsOption s.type = true ↔ s.type ∈ seen :=
    (AnyEntry.containsOption_iff _ _).trans (h.seen_iff s.type)
  have hkind := h.kind
  rw [AnyEntry.validateOption_eq]
  cases entry with
  | service entry =>
    have hkind : shape.type = .finding ∨ shape.type = .offering := hkind
    rcases hs.type_cases with ht | ht | ht | ht
    · rw [ht] at hc ⊢
      rcases hkind with hk | hk <;>
        simp [AnyEntry.Allows, AnyEntry.Single, EntryShape.Takes, hk]
    · rw [ht] at hc ⊢
      rcases hkind with hk | hk <;>
        simp [AnyEntry.Allows, AnyEntry.Single, EntryShape.Takes, hk]
    · rw [ht] at hc ⊢
      simp [AnyEntry.Allows, EntryShape.Takes]
    · rw [ht] at hc ⊢
      simp [AnyEntry.Allows, AnyEntry.Single, EntryShape.Takes, hkind, ← hc]
  | eventgroup entry =>
    have hkind : entry.type = shape.type ∧
      (shape.type = .subscribing ∨ (shape.type = .acknowledging ∧ entry.ttl = shape.ttl)) := hkind
    have hpos (ttl : UInt32) : cNackTTL < ttl ↔ ¬ ttl = 0 := by
      rw [UInt32.lt_iff_toNat_lt, ← UInt32.toNat_inj]
      exact Nat.pos_iff_ne_zero
    rcases hs.type_cases with ht | ht | ht | ht
    · rw [ht] at hc ⊢
      rcases hkind.2 with hk | ⟨hk, httl⟩ <;>
        simp [AnyEntry.Allows, AnyEntry.Single, EntryShape.Takes, hk, hkind.1]
    · rw [ht] at hc ⊢
      rcases hkind.2 with hk | ⟨hk, httl⟩
      · simp [AnyEntry.Allows, EntryShape.Takes, EventgroupEntry.isAcknowledge, hk, hkind.1]
      · simp [AnyEntry.Allows, AnyEntry.Single, EntryShape.Takes, EventgroupEntry.isAcknowledge, hk,
          hkind.1, hpos, httl, ← hc]
    · rw [ht] at hc ⊢
      simp [AnyEntry.Allows, EntryShape.Takes]
    · rw [ht] at hc ⊢
      rcases hkind.2 with hk | ⟨hk, httl⟩ <;>
        simp [AnyEntry.Allows, EntryShape.Takes, hk]

/-- What the two functions that add an option have in common. -/
structure Adds (add : AnyEntry → EntryOption → Outcome AnyEntry) : Prop where
  adds : ∀ entry option, entry.validateOption option.type = true →
    ∃ first second, add entry option = .ok (entry.withOptions first second) ∧
      (first ++ second).Perm (option :: entry.options)
  refuse : ∀ entry option, ¬ entry.validateOption option.type = true →
    ThrowsInvalidArgument (add entry option)

theorem adds_addFirstOption : Adds AnyEntry.addFirstOption := by
  refine ⟨?_, ?_⟩
  · intro entry option hv
    refine ⟨_, _, AnyEntry.addFirstOption_eq_ok.mpr ⟨hv, rfl⟩, ?_⟩
    rw [List.append_assoc]
    exact List.perm_middle
  · intro entry option hv
    refine ⟨"The option cannot be added.", ?_⟩
    simp only [AnyEntry.addFirstOption, hv]
    rfl

theorem adds_addSecondOption : Adds AnyEntry.addSecondOption := by
  refine ⟨?_, ?_⟩
  · intro entry option hv
    refine ⟨_, _, AnyEntry.addSecondOption_eq_ok.mpr ⟨hv, rfl⟩, ?_⟩
    rw [← List.append_assoc]
    exact List.perm_append_singleton _ _
  · intro entry option hv
    refine ⟨"The option cannot be added.", ?_⟩
    simp only [AnyEntry.addSecondOption, hv]
    rfl

section OptionLoop
variable {add : AnyEntry → EntryOption → Outcome AnyEntry} {p : Bytes} {shape : EntryShape}

theorem deserializeOptions_step (hadd : Adds add) {entry : AnyEntry} {seen : List OptionType}
    {o0 o : ℕ} {s : OptionShape} (htracks : Tracks entry shape seen o0 o) (hs : OptionAt p o s)
    (ha : s.AddressValid) (ht : shape.Takes seen s.type) (n : ℕ) :
    ∃ entry', deserializeOptions add (n + 1) entry p o =
        deserializeOptions add n entry' p (o + s.size) ∧
      Tracks entry' shape (seen ++ [s.type]) o0 (o + s.size) := by
  obtain ⟨option, hread, htype, hsize⟩ := hs.read ha
  have hv : entry.validateOption option.type = true := by
    rw [htype]
    exact (htracks.validateOption_iff hs).mpr ht
  obtain ⟨first, second, hok, hperm⟩ := hadd.adds entry option hv
  refine ⟨entry.withOptions first second, ?_, ?_, ?_, ?_⟩
  · have hlift : Cursor.lift (add entry option) p (o + s.size) =
        .ok (entry.withOptions first second, o + s.size) := by
      rw [hok]
      rfl
    have h1 := Cursor.bind_apply_ok (f := fun option => do
      let entry ← Cursor.lift (add entry option)
      deserializeOptions add n entry) hread
    have h2 := Cursor.bind_apply_ok (f := fun entry => deserializeOptions add n entry) hlift
    exact h1.trans h2
  · have hkind := htracks.kind
    cases entry <;> exact hkind
  · intro type
    rw [AnyEntry.withOptions_options, List.mem_append, List.mem_singleton, ← htracks.seen_iff, ← htype]
    constructor
    · rintro ⟨x, hx, rfl⟩
      rcases List.mem_cons.mp (hperm.mem_iff.mp hx) with rfl | hx
      · exact .inr rfl
      · exact .inl ⟨x, hx, rfl⟩
    · rintro (⟨x, hx, rfl⟩ | rfl)
      · exact ⟨x, hperm.mem_iff.mpr (List.mem_cons_of_mem _ hx), rfl⟩
      · exact ⟨option, hperm.mem_iff.mpr List.mem_cons_self, rfl⟩
  · have hlength := (hperm.flatMap_right EntryOption.payload).length_eq
    have htotal := htracks.size
    simp only [optionRecords, AnyEntry.withOptions_options] at hlength htotal ⊢
    rw [hlength, List.flatMap_cons, List.length_append, hsize]
    omega

theorem deserializeOptions_clean (hadd : Adds add) {n o o' o0 : ℕ} {seen seen' : List OptionType}
    (h : OptionsClean p shape n seen o seen' o') {entry : AnyEntry}
    (htracks : Tracks entry shape seen o0 o) :
    ∃ entry', deserializeOptions add n entry p o = .ok (entry', o') ∧
      Tracks entry' shape seen' o0 o' := by
  induction h generalizing entry with
  | done seen o => exact ⟨entry, rfl, htracks⟩
  | @option n o o' seen seen' s hs ha ht h ih =>
    obtain ⟨next, hstep, hnext⟩ := deserializeOptions_step hadd htracks hs ha ht n
    rw [hstep]
    exact ih hnext

theorem deserializeOptions_rejected (hadd : Adds add) {n o o0 : ℕ} {seen : List OptionType}
    (h : OptionsRejected p shape n seen o) {entry : AnyEntry} (htracks : Tracks entry shape seen o0 o) :
    ThrowsInvalidArgument (deserializeOptions add n entry p o) := by
  induction h generalizing entry with
  | @address n o seen s hs ha =>
    obtain ⟨what, hw⟩ := hs.read_address ha
    exact ⟨what, Cursor.bind_apply_error hw⟩
  | @notTaken n o seen s hs ha ht =>
    obtain ⟨option, hread, htype, -⟩ := hs.read ha
    have hv : ¬ entry.validateOption option.type = true := by
      rw [htype]
      exact fun h => ht ((htracks.validateOption_iff hs).mp h)
    obtain ⟨what, hw⟩ := hadd.refuse entry option hv
    have hlift : Cursor.lift (add entry option) p (o + s.size) =
        .error (.thrown (.invalidArgument what)) := by
      rw [hw]
      rfl
    have h1 := Cursor.bind_apply_ok (f := fun option => do
      let entry ← Cursor.lift (add entry option)
      deserializeOptions add n entry) hread
    exact ⟨what, h1.trans (Cursor.bind_apply_error hlift)⟩
  | @later n o seen s hs ha ht h ih =>
    obtain ⟨next, hstep, hnext⟩ := deserializeOptions_step hadd htracks hs ha ht n
    rw [hstep]
    exact ih hnext

theorem deserializeOptions_cases (hadd : Adds add) {o o0 : ℕ} {seen : List OptionType} (n : ℕ)
    {entry : AnyEntry} (htracks : Tracks entry shape seen o0 o) :
    ThrowsOutOfRange (deserializeOptions add n entry p o) ∨ OptionsRejected p shape n seen o ∨
      ∃ seen' o', OptionsClean p shape n seen o seen' o' := by
  induction n generalizing entry seen o with
  | zero => exact .inr (.inr ⟨seen, o, .done seen o⟩)
  | succ n ih =>
    rcases option_cases p o with ⟨what, hw⟩ | ⟨s, hs⟩
    · exact .inl ⟨what, Cursor.bind_apply_error hw⟩
    by_cases ha : s.AddressValid
    · by_cases ht : shape.Takes seen s.type
      · obtain ⟨next, hstep, hnext⟩ := deserializeOptions_step hadd htracks hs ha ht n
        rcases ih hnext with h | h | ⟨seen', o', h⟩
        · rw [hstep]
          exact .inl h
        · exact .inr (.inl (.later hs ha ht h))
        · exact .inr (.inr ⟨seen', o', .option hs ha ht h⟩)
      · exact .inr (.inl (.notTaken hs ha ht))
    · exact .inr (.inl (.address hs ha))

end OptionLoop

end SomeIpSdMessage

end AdaptiveAutosar.Com
