import AdaptiveAutosar.Com.Entry

/-! # The sixteen bytes of an entry

What `EntryDeserializer` makes of a record, what an entry writes, and that the one undoes the other
for every entry the public API can build. Options are not in the record, only their numbers.
-/

namespace AdaptiveAutosar.Com
open Foundations Foundations.BigEndian
set_option autoImplicit false

/-! ## Reading a record -/

theorem ServiceEntry.deserialize_finding (serviceId instanceId : UInt16) (ttl : UInt32)
    (majorVersion : UInt8) (m0 m1 m2 m3 : UInt8) :
    (deserialize .finding serviceId instanceId ttl majorVersion).Yields [m0, m1, m2, m3]
      (createFindServiceEntry serviceId ttl instanceId majorVersion (word32 m0 m1 m2 m3)) :=
  (extractInteger_yields m0 m1 m2 m3).bind (Cursor.Yields.lift _)

theorem ServiceEntry.deserialize_offering (serviceId instanceId : UInt16) (ttl : UInt32)
    (majorVersion : UInt8) (m0 m1 m2 m3 : UInt8) :
    (deserialize .offering serviceId instanceId ttl majorVersion).Yields [m0, m1, m2, m3]
      (.ok (make .offering serviceId instanceId ttl majorVersion (word32 m0 m1 m2 m3))) := by
  refine (extractInteger_yields m0 m1 m2 m3).bind ?_
  by_cases h : ttl > 0
  · have hne : ttl ≠ 0 := fun h0 => by rw [h0] at h; exact absurd h (by decide)
    simp only [h, if_true, createOfferServiceEntry, hne, if_false]
    exact Cursor.Yields.lift _
  · have h0 : ttl = cStopOfferTTL := by
      apply UInt32.toNat_inj.mp
      have hle := UInt32.lt_iff_toNat_lt.not.mp h
      exact Nat.le_zero.mp (Nat.le_of_not_lt hle)
    simp only [h, createStopOfferEntry]
    rw [h0]
    exact Cursor.Yields.pure _

theorem EventgroupEntry.deserialize_subscribing (serviceId instanceId : UInt16) (ttl : UInt32)
    (majorVersion : UInt8) (r counter e0 e1 : UInt8) :
    (deserialize .subscribing serviceId instanceId ttl majorVersion).Yields [r, counter, e0, e1]
      (make .subscribing serviceId instanceId
        (if ttl > cUnsubscribeEventTTL then cSubscribeEventTTL else cUnsubscribeEventTTL)
        majorVersion counter (word16 e0 e1)) := by
  refine (Cursor.Yields.skip [r]).bind ((Cursor.Yields.checked counter).bind
    ((extractShort_yields e0 e1).bind ?_))
  by_cases h : ttl > cUnsubscribeEventTTL
  · simp only [h, if_true]
    exact Cursor.Yields.lift _
  · simp only [h, if_false]
    exact Cursor.Yields.lift _

theorem EventgroupEntry.deserialize_acknowledging (serviceId instanceId : UInt16) (ttl : UInt32)
    (majorVersion : UInt8) (r counter e0 e1 : UInt8) :
    (deserialize .acknowledging serviceId instanceId ttl majorVersion).Yields [r, counter, e0, e1]
      (make .acknowledging serviceId instanceId ttl majorVersion counter (word16 e0 e1)) :=
  (Cursor.Yields.skip [r]).bind ((Cursor.Yields.checked counter).bind
    ((extractShort_yields e0 e1).bind (Cursor.Yields.lift _)))

namespace EntryDeserializer

theorem deserialize_header {rec : Bytes} {r : Outcome AnyEntry}
    (t i1 i2 n s0 s1 j0 j1 c0 c1 c2 c3 : UInt8)
    (h : (body t (word16 s0 s1) (word16 j0 j1) (word32 c0 c1 c2 c3 &&& 0x00ffffff)
      (word32 c0 c1 c2 c3 >>> 24).toUInt8).Yields rec r) :
    deserialize.Yields ([t, i1, i2, n, s0, s1, j0, j1, c0, c1, c2, c3] ++ rec)
      (r.map (fun entry => (entry, n >>> 4, n &&& 0x0f))) := by
  have hlast := h.map (fun entry => (entry, n >>> 4, n &&& 0x0f))
  exact (Cursor.Yields.checked t).bind ((Cursor.Yields.skip [i1, i2]).bind
    ((Cursor.Yields.checked n).bind ((extractShort_yields s0 s1).bind
      ((extractShort_yields j0 j1).bind ((extractInteger_yields c0 c1 c2 c3).bind hlast)))))

/-- What the last four bytes make of the fields before them. -/
def recordEntry (type : UInt8) (serviceId instanceId : UInt16) (ttl : UInt32)
    (majorVersion m0 m1 m2 m3 : UInt8) : Outcome AnyEntry :=
  match EntryType.ofCode type with
  | some .finding => (ServiceEntry.createFindServiceEntry serviceId ttl instanceId majorVersion
      (word32 m0 m1 m2 m3)).map .service
  | some .offering => .ok (.service (ServiceEntry.make .offering serviceId instanceId ttl majorVersion
      (word32 m0 m1 m2 m3)))
  | some .subscribing => (EventgroupEntry.make .subscribing serviceId instanceId
      (if ttl > cUnsubscribeEventTTL then cSubscribeEventTTL else cUnsubscribeEventTTL)
      majorVersion m1 (word16 m2 m3)).map .eventgroup
  | some .acknowledging => (EventgroupEntry.make .acknowledging serviceId instanceId ttl majorVersion
      m1 (word16 m2 m3)).map .eventgroup
  | none => .error (.thrown (.outOfRange "Entry type is not supported for deserializing."))

theorem body_yields (type : UInt8) (serviceId instanceId : UInt16) (ttl : UInt32)
    (majorVersion m0 m1 m2 m3 : UInt8) :
    (body type serviceId instanceId ttl majorVersion).Yields [m0, m1, m2, m3]
      (recordEntry type serviceId instanceId ttl majorVersion m0 m1 m2 m3) := by
  unfold body recordEntry
  cases EntryType.ofCode type with
  | none =>
    intro pre post
    rfl
  | some t =>
    cases t with
    | finding => exact (ServiceEntry.deserialize_finding _ _ _ _ m0 m1 m2 m3).map _
    | offering => exact (ServiceEntry.deserialize_offering _ _ _ _ m0 m1 m2 m3).map _
    | subscribing => exact (EventgroupEntry.deserialize_subscribing _ _ _ _ m0 m1 m2 m3).map _
    | acknowledging => exact (EventgroupEntry.deserialize_acknowledging _ _ _ _ m0 m1 m2 m3).map _

theorem body_truncated (type : UInt8) (serviceId instanceId : UInt16) (ttl : UInt32)
    (majorVersion : UInt8) : (body type serviceId instanceId ttl majorVersion).Truncated 4 := by
  have service (t : EntryType) :
      (ServiceEntry.deserialize t serviceId instanceId ttl majorVersion).Truncated 4 :=
    extractInteger_truncated.bind _
  have eventgroup (t : EntryType) :
      (EventgroupEntry.deserialize t serviceId instanceId ttl majorVersion).Truncated 4 :=
    (Cursor.Advances.skip 1).truncated (n := 3) fun _ => Cursor.Advances.checked.truncated (n := 2)
      fun _ => extractShort_truncated.bind _
  unfold body
  cases EntryType.ofCode type with
  | none => exact Cursor.Truncated.throw _ _
  | some t =>
    cases t with
    | finding => exact (service _).map _
    | offering => exact (service _).map _
    | subscribing => exact (eventgroup _).map _
    | acknowledging => exact (eventgroup _).map _

theorem deserialize_truncated : deserialize.Truncated 16 :=
  Cursor.Advances.checked.truncated (n := 15) fun _ => (Cursor.Advances.skip 2).truncated (n := 13)
    fun _ => Cursor.Advances.checked.truncated (n := 12) fun _ =>
      extractShort_advances.truncated (n := 10) fun _ => extractShort_advances.truncated (n := 8)
        fun _ => extractInteger_advances.truncated (n := 4) fun _ => (body_truncated _ _ _ _ _).bind _

end EntryDeserializer

/-! ## Writing a record -/

namespace AnyEntry

def firstOptionsSize (entry : AnyEntry) : UInt8 := UInt8.ofNat entry.toEntry.firstOptions.length

def secondOptionsSize (entry : AnyEntry) : UInt8 := UInt8.ofNat entry.toEntry.secondOptions.length

/-- The last four bytes of the record. -/
def tail : AnyEntry → Bytes
  | service entry => bytes32 entry.minorVersion
  | eventgroup entry => bytes16 entry.counter.toUInt16 ++ bytes16 entry.eventgroupId

theorem payload_record (entry : AnyEntry) (optionIndex : UInt8) :
    (entry.payload optionIndex).1 =
      [entry.toEntry.type.code, optionIndex, optionIndex + entry.firstOptionsSize,
        (entry.firstOptionsSize <<< 4) ||| entry.secondOptionsSize] ++
      bytes16 entry.toEntry.serviceId ++ bytes16 entry.toEntry.instanceId ++
      bytes32 ((entry.toEntry.majorVersion.toUInt32 <<< 24) ||| entry.toEntry.ttl) ++ entry.tail := by
  cases entry with
  | service entry =>
    simp only [payload, Entry.basePayload, injectShort, injectInteger, List.append_assoc]
    rfl
  | eventgroup entry =>
    simp only [payload, Entry.basePayload, injectShort, injectInteger, List.append_assoc]
    rfl

/-- The call moves the index it is given past the options of the entry. -/
theorem payload_index (entry : AnyEntry) (optionIndex : UInt8) :
    (entry.payload optionIndex).2 = optionIndex + entry.firstOptionsSize + entry.secondOptionsSize := by
  cases entry <;> rfl

theorem payload_length (entry : AnyEntry) (optionIndex : UInt8) :
    (entry.payload optionIndex).1.length = 16 := by
  rw [payload_record]
  cases entry <;> rfl

end AnyEntry

/-! ## Entries of the public API -/

namespace AnyEntry

/-- What the factories make, `EntryDeserializer` returns, and adding options leaves. -/
inductive Built : AnyEntry → Prop where
  | findService {serviceId instanceId : UInt16} {ttl minorVersion : UInt32} {majorVersion : UInt8}
      {entry : ServiceEntry} (h : ServiceEntry.createFindServiceEntry serviceId ttl instanceId
        majorVersion minorVersion = .ok entry) : Built (.service entry)
  | offerService {serviceId instanceId : UInt16} {ttl minorVersion : UInt32} {majorVersion : UInt8}
      {entry : ServiceEntry} (h : ServiceEntry.createOfferServiceEntry serviceId instanceId
        majorVersion minorVersion ttl = .ok entry) : Built (.service entry)
  | stopOffer (serviceId instanceId : UInt16) (majorVersion : UInt8) (minorVersion : UInt32) :
      Built (.service (ServiceEntry.createStopOfferEntry serviceId instanceId majorVersion minorVersion))
  | subscribeEvent {serviceId instanceId eventgroupId : UInt16} {majorVersion counter : UInt8}
      {entry : EventgroupEntry} (h : EventgroupEntry.createSubscribeEventEntry serviceId instanceId
        majorVersion counter eventgroupId = .ok entry) : Built (.eventgroup entry)
  | unsubscribeEvent {serviceId instanceId eventgroupId : UInt16} {majorVersion counter : UInt8}
      {entry : EventgroupEntry} (h : EventgroupEntry.createUnsubscribeEventEntry serviceId instanceId
        majorVersion counter eventgroupId = .ok entry) : Built (.eventgroup entry)
  | acknowledge {entry result : EventgroupEntry} (hentry : Built (.eventgroup entry))
      (h : EventgroupEntry.createAcknowledgeEntry entry = .ok result) : Built (.eventgroup result)
  | negativeAcknowledge {entry result : EventgroupEntry} (hentry : Built (.eventgroup entry))
      (h : EventgroupEntry.createNegativeAcknowledgeEntry entry = .ok result) :
      Built (.eventgroup result)
  | deserialized {payload : Bytes} {offset offset' : ℕ} {entry : AnyEntry} {n1 n2 : UInt8}
      (h : EntryDeserializer.deserialize payload offset = .ok ((entry, n1, n2), offset')) : Built entry
  | addFirstOption {entry entry' : AnyEntry} {option : EntryOption} (hentry : Built entry)
      (h : entry.addFirstOption option = .ok entry') : Built entry'
  | addSecondOption {entry entry' : AnyEntry} {option : EntryOption} (hentry : Built entry)
      (h : entry.addSecondOption option = .ok entry') : Built entry'

/-- The class, type and TTL of an entry belong together. -/
def Sound : AnyEntry → Prop
  | service entry => (entry.type = .finding ∧ entry.ttl ≠ 0) ∨ entry.type = .offering
  | eventgroup entry =>
    (entry.type = .subscribing ∧ (entry.ttl = cSubscribeEventTTL ∨ entry.ttl = cUnsubscribeEventTTL)) ∨
      entry.type = .acknowledging

/-- Two options may stand in one entry. -/
def Compatible (a b : EntryOption) : Prop := Single a.type = true → a.type ≠ b.type

/-- `Admitted` for an entry of any type and TTL. -/
structure Guarded (entry : AnyEntry) : Prop where
  allowed : ∀ option ∈ entry.options, entry.Allows option.type = true
  compatible : entry.options.Pairwise Compatible

structure Admitted (entry : AnyEntry) : Prop where
  sound : entry.Sound
  allowed : ∀ option ∈ entry.options, entry.Allows option.type = true
  compatible : entry.options.Pairwise Compatible

theorem sound_of_record {type : UInt8} {serviceId instanceId : UInt16} {ttl : UInt32}
    {majorVersion m0 m1 m2 m3 : UInt8} {entry : AnyEntry}
    (h : EntryDeserializer.recordEntry type serviceId instanceId ttl majorVersion m0 m1 m2 m3 =
      .ok entry) : entry.Sound ∧ entry.options = [] := by
  unfold EntryDeserializer.recordEntry at h
  cases ht : EntryType.ofCode type with
  | none => simp [ht] at h
  | some t =>
    simp only [ht] at h
    cases t with
    | finding =>
      by_cases h0 : ttl = 0
      · simp [ServiceEntry.createFindServiceEntry, h0, Except.map] at h
      · simp only [ServiceEntry.createFindServiceEntry, h0, if_false, Except.map,
          Except.ok.injEq] at h
        subst h
        exact ⟨.inl ⟨rfl, h0⟩, rfl⟩
    | offering =>
      simp only [Except.ok.injEq] at h
      subst h
      exact ⟨.inr rfl, rfl⟩
    | subscribing =>
      by_cases hc : m1 ≤ cCounterMax
      · simp only [EventgroupEntry.make, hc, dif_pos, Except.map, Except.ok.injEq] at h
        subst h
        refine ⟨.inl ⟨rfl, ?_⟩, rfl⟩
        simp only [Entry.make]
        by_cases h0 : ttl > cUnsubscribeEventTTL
        · simp only [h0, if_true]
          exact .inl trivial
        · simp only [h0, if_false]
          exact .inr trivial
      · simp [EventgroupEntry.make, hc, Except.map] at h
    | acknowledging =>
      by_cases hc : m1 ≤ cCounterMax
      · simp only [EventgroupEntry.make, hc, dif_pos, Except.map, Except.ok.injEq] at h
        subst h
        exact ⟨.inr rfl, rfl⟩
      · simp [EventgroupEntry.make, hc, Except.map] at h

end AnyEntry

namespace EntryDeserializer

theorem deserialize_record {buffer : Bytes} {offset : ℕ} (h : offset + 16 ≤ buffer.length) :
    ∃ t i1 i2 n s0 s1 j0 j1 c0 c1 c2 c3 m0 m1 m2 m3,
      Cursor.HoldsAt buffer offset
        [t, i1, i2, n, s0, s1, j0, j1, c0, c1, c2, c3, m0, m1, m2, m3] ∧
      deserialize buffer offset =
        (recordEntry t (word16 s0 s1) (word16 j0 j1) (word32 c0 c1 c2 c3 &&& 0x00ffffff)
          (word32 c0 c1 c2 c3 >>> 24).toUInt8 m0 m1 m2 m3).map
        (fun entry => ((entry, n >>> 4, n &&& 0x0f), offset + 16)) := by
  obtain ⟨rec, hrec, hl⟩ := Cursor.exists_record h
  match rec, hl with
  | [t, i1, i2, n, s0, s1, j0, j1, c0, c1, c2, c3, m0, m1, m2, m3], _ =>
    refine ⟨t, i1, i2, n, s0, s1, j0, j1, c0, c1, c2, c3, m0, m1, m2, m3, hrec, ?_⟩
    rw [(deserialize_header t i1 i2 n s0 s1 j0 j1 c0 c1 c2 c3
      (body_yields t _ _ _ _ m0 m1 m2 m3)).at hrec]
    cases recordEntry t (word16 s0 s1) (word16 j0 j1) (word32 c0 c1 c2 c3 &&& 0x00ffffff)
      (word32 c0 c1 c2 c3 >>> 24).toUInt8 m0 m1 m2 m3 <;> rfl

theorem deserialize_sound {buffer : Bytes} {offset offset' : ℕ} {entry : AnyEntry} {n1 n2 : UInt8}
    (h : deserialize buffer offset = .ok ((entry, n1, n2), offset')) :
    entry.Sound ∧ entry.options = [] := by
  by_cases hlt : buffer.length < offset + 16
  · obtain ⟨what, hw⟩ := deserialize_truncated buffer offset hlt
    rw [hw] at h
    cases h
  · obtain ⟨t, i1, i2, n, s0, s1, j0, j1, c0, c1, c2, c3, m0, m1, m2, m3, -, hd⟩ :=
      deserialize_record (Nat.le_of_not_lt hlt)
    rw [hd] at h
    cases hr : recordEntry t (word16 s0 s1) (word16 j0 j1) (word32 c0 c1 c2 c3 &&& 0x00ffffff)
      (word32 c0 c1 c2 c3 >>> 24).toUInt8 m0 m1 m2 m3 with
    | error e =>
      rw [hr] at h
      cases h
    | ok e =>
      rw [hr] at h
      cases h
      exact AnyEntry.sound_of_record hr

end EntryDeserializer

namespace AnyEntry

def withOptions (entry : AnyEntry) (firstOptions secondOptions : List EntryOption) : AnyEntry :=
  entry.withEntry { entry.toEntry with firstOptions, secondOptions }

/-- The entry without its options: what its record holds of it besides their numbers. -/
def bare (entry : AnyEntry) : AnyEntry := entry.withOptions [] []

section WithOptions
variable (entry : AnyEntry) (first second first' second' : List EntryOption)

@[simp] theorem withOptions_firstOptions :
    (entry.withOptions first second).toEntry.firstOptions = first := by
  cases entry <;> rfl

@[simp] theorem withOptions_secondOptions :
    (entry.withOptions first second).toEntry.secondOptions = second := by
  cases entry <;> rfl

@[simp] theorem withOptions_options : (entry.withOptions first second).options = first ++ second := by
  cases entry <;> rfl

@[simp] theorem withOptions_withOptions :
    (entry.withOptions first second).withOptions first' second' = entry.withOptions first' second' := by
  cases entry <;> rfl

@[simp] theorem withOptions_self :
    entry.withOptions entry.toEntry.firstOptions entry.toEntry.secondOptions = entry := by
  cases entry <;> rfl

@[simp] theorem withOptions_allows : (entry.withOptions first second).Allows = entry.Allows := by
  cases entry <;> rfl

theorem withOptions_sound : (entry.withOptions first second).Sound ↔ entry.Sound := by
  cases entry <;> exact Iff.rfl

end WithOptions

theorem Compatible.symm {a b : EntryOption} (h : Compatible a b) : Compatible b a := by
  intro hs heq
  rw [heq] at hs
  exact h hs heq.symm

/-- An option is admitted when the entry allows its type and holds no option it cannot stand by. -/
theorem validateOption_iff (entry : AnyEntry) (option : EntryOption) :
    entry.validateOption option.type = true ↔
      entry.Allows option.type = true ∧ ∀ o ∈ entry.options, Compatible option o := by
  rw [validateOption_eq, Bool.and_eq_true, Bool.not_eq_true', Bool.and_eq_false_iff]
  refine and_congr_right fun _ => ?_
  constructor
  · rintro (hs | hc) o ho hsingle heq
    · rw [hs] at hsingle
      cases hsingle
    · have h := (containsOption_iff entry.toEntry option.type).mpr ⟨o, ho, heq.symm⟩
      rw [hc] at h
      cases h
  · intro h
    by_cases hs : Single option.type = true
    · right
      by_contra hc
      obtain ⟨o, ho, heq⟩ := (containsOption_iff _ _).mp (Bool.not_eq_false _ ▸ hc)
      exact h o ho hs heq.symm
    · exact .inl (Bool.not_eq_true _ ▸ hs)

theorem addFirstOption_eq_ok {entry entry' : AnyEntry} {option : EntryOption} :
    entry.addFirstOption option = .ok entry' ↔ entry.validateOption option.type = true ∧
      entry' = entry.withOptions (entry.toEntry.firstOptions ++ [option])
        entry.toEntry.secondOptions := by
  unfold addFirstOption
  by_cases hv : entry.validateOption option.type = true
  · simp only [hv, if_true, Except.ok.injEq, true_and]
    exact eq_comm
  · simp [hv]

theorem addSecondOption_eq_ok {entry entry' : AnyEntry} {option : EntryOption} :
    entry.addSecondOption option = .ok entry' ↔ entry.validateOption option.type = true ∧
      entry' = entry.withOptions entry.toEntry.firstOptions
        (entry.toEntry.secondOptions ++ [option]) := by
  unfold addSecondOption
  by_cases hv : entry.validateOption option.type = true
  · simp only [hv, if_true, Except.ok.injEq, true_and]
    exact eq_comm
  · simp [hv]

theorem guarded_of_nil {entry : AnyEntry} (fresh : entry.options = []) : entry.Guarded := by
  constructor
  · rw [fresh]
    exact fun _ h => by cases h
  · rw [fresh]
    exact .nil

theorem Guarded.withOption {entry : AnyEntry} (guarded : entry.Guarded) {option : EntryOption}
    (valid : entry.validateOption option.type = true) {first second : List EntryOption}
    (perm : (first ++ second).Perm (option :: entry.options)) : (entry.withOptions first second).Guarded := by
  obtain ⟨allows, apart⟩ := (validateOption_iff entry option).mp valid
  constructor
  · intro other there
    rw [withOptions_allows]
    rw [withOptions_options, perm.mem_iff] at there
    rcases List.mem_cons.mp there with rfl | there
    · exact allows
    · exact guarded.allowed other there
  · rw [withOptions_options, perm.pairwise_iff Compatible.symm]
    exact List.pairwise_cons.mpr ⟨apart, guarded.compatible⟩

theorem Admitted.withOption {entry : AnyEntry} (h : entry.Admitted) {option : EntryOption}
    (hv : entry.validateOption option.type = true) {first second : List EntryOption}
    (hp : (first ++ second).Perm (option :: entry.options)) :
    (entry.withOptions first second).Admitted := by
  have guarded : entry.Guarded := ⟨h.allowed, h.compatible⟩
  obtain ⟨allowed, compatible⟩ := guarded.withOption hv hp
  exact ⟨(withOptions_sound _ _ _).mpr h.sound, allowed, compatible⟩

theorem Admitted.of_nil {entry : AnyEntry} (hs : entry.Sound) (ho : entry.options = []) :
    entry.Admitted := by
  obtain ⟨allowed, compatible⟩ := guarded_of_nil ho
  exact ⟨hs, allowed, compatible⟩

theorem eventgroup_make_ok {type : EntryType} {serviceId instanceId : UInt16} {ttl : UInt32}
    {majorVersion counter : UInt8} {eventgroupId : UInt16} {entry : EventgroupEntry}
    (h : EventgroupEntry.make type serviceId instanceId ttl majorVersion counter eventgroupId =
      .ok entry) :
    entry.toEntry = Entry.make type serviceId instanceId ttl majorVersion := by
  unfold EventgroupEntry.make at h
  by_cases hc : counter ≤ cCounterMax
  · simp only [hc, dif_pos, Except.ok.injEq] at h
    rw [← h]
  · simp [hc] at h

/-- The invariant of the public API: every entry it builds is sound and holds admitted options. -/
theorem Built.admitted {entry : AnyEntry} (h : Built entry) : entry.Admitted := by
  have eventgroup {type : EntryType} {serviceId instanceId eventgroupId : UInt16} {ttl : UInt32}
      {majorVersion counter : UInt8} {entry : EventgroupEntry} (h : EventgroupEntry.make type serviceId
        instanceId ttl majorVersion counter eventgroupId = .ok entry)
      (ht : (type = .subscribing ∧ (ttl = cSubscribeEventTTL ∨ ttl = cUnsubscribeEventTTL)) ∨
        type = .acknowledging) : (AnyEntry.eventgroup entry).Admitted := by
    have hm := eventgroup_make_ok h
    refine Admitted.of_nil ?_ ?_
    · show (entry.toEntry.type = .subscribing ∧ (entry.toEntry.ttl = cSubscribeEventTTL ∨
        entry.toEntry.ttl = cUnsubscribeEventTTL)) ∨ entry.toEntry.type = .acknowledging
      rw [hm]
      exact ht
    · show entry.toEntry.firstOptions ++ entry.toEntry.secondOptions = []
      rw [hm]
      rfl
  induction h with
  | @findService serviceId instanceId ttl minorVersion majorVersion entry h =>
    unfold ServiceEntry.createFindServiceEntry at h
    by_cases h0 : ttl = 0
    · simp [h0] at h
    · simp only [h0, if_false, Except.ok.injEq] at h
      subst h
      exact Admitted.of_nil (.inl ⟨rfl, h0⟩) rfl
  | @offerService serviceId instanceId ttl minorVersion majorVersion entry h =>
    unfold ServiceEntry.createOfferServiceEntry at h
    by_cases h0 : ttl = 0
    · simp [h0] at h
    · simp only [h0, if_false, Except.ok.injEq] at h
      subst h
      exact Admitted.of_nil (.inr rfl) rfl
  | stopOffer => exact Admitted.of_nil (.inr rfl) rfl
  | subscribeEvent h => exact eventgroup h (.inl ⟨rfl, .inl rfl⟩)
  | unsubscribeEvent h => exact eventgroup h (.inl ⟨rfl, .inr rfl⟩)
  | acknowledge _ h => exact eventgroup h (.inr rfl)
  | negativeAcknowledge _ h => exact eventgroup h (.inr rfl)
  | deserialized h =>
    obtain ⟨hs, ho⟩ := EntryDeserializer.deserialize_sound h
    exact Admitted.of_nil hs ho
  | @addFirstOption entry entry' option _ h ih =>
    obtain ⟨hv, rfl⟩ := addFirstOption_eq_ok.mp h
    refine ih.withOption hv ?_
    rw [List.append_assoc]
    exact List.perm_middle
  | @addSecondOption entry entry' option _ h ih =>
    obtain ⟨hv, rfl⟩ := addSecondOption_eq_ok.mp h
    refine ih.withOption hv ?_
    rw [← List.append_assoc]
    exact List.perm_append_singleton _ _

/-! ## Round trip of the record -/

theorem size_nibble {options : List EntryOption} (h : options.length ≤ 15) :
    (UInt8.ofNat options.length).toNat = options.length := by
  simp only [UInt8.toNat_ofNat']
  omega

theorem recordEntry_tail (entry : AnyEntry) (h : entry.Sound) :
    ∃ m0 m1 m2 m3, entry.tail = [m0, m1, m2, m3] ∧
      EntryDeserializer.recordEntry entry.toEntry.type.code entry.toEntry.serviceId
        entry.toEntry.instanceId entry.toEntry.ttl entry.toEntry.majorVersion m0 m1 m2 m3 =
      .ok entry.bare := by
  cases entry with
  | service entry =>
    obtain ⟨⟨type, first, second, serviceId, instanceId, majorVersion, ttl⟩, minorVersion⟩ := entry
    refine ⟨_, _, _, _, rfl, ?_⟩
    unfold EntryDeserializer.recordEntry
    rw [EntryType.ofCode_code, word32_bytes32]
    rcases h with ⟨rfl, ht⟩ | rfl
    · have h0 : ttl ≠ 0 := ht
      show (ServiceEntry.createFindServiceEntry serviceId ttl instanceId majorVersion
        minorVersion).map AnyEntry.service = _
      rw [ServiceEntry.createFindServiceEntry, if_neg h0]
      rfl
    · rfl
  | eventgroup entry =>
    obtain ⟨⟨type, first, second, serviceId, instanceId, majorVersion, ttl⟩, counter, eventgroupId,
      hc⟩ := entry
    refine ⟨_, _, _, _, rfl, ?_⟩
    unfold EntryDeserializer.recordEntry
    rw [EntryType.ofCode_code, word16_bytes16]
    have hcounter : counter.toUInt16.toUInt8 = counter := by simp
    rw [hcounter]
    rcases h with ⟨rfl, rfl | rfl⟩ | rfl
    · simp only [toEntry, EventgroupEntry.make, hc, dif_pos]
      rfl
    · simp only [toEntry, EventgroupEntry.make, hc, dif_pos]
      rfl
    · simp only [toEntry, EventgroupEntry.make, hc, dif_pos]
      rfl

/-- Reading an entry's record gives back the entry without its options, and their numbers. -/
theorem deserialize_payload (entry : AnyEntry) (optionIndex : UInt8) (h : entry.Sound)
    (httl : entry.toEntry.ttl.toNat < 2 ^ 24) (hfirst : entry.toEntry.firstOptions.length ≤ 15)
    (hsecond : entry.toEntry.secondOptions.length ≤ 15) :
    EntryDeserializer.deserialize.Yields (entry.payload optionIndex).1
      (.ok (entry.bare, entry.firstOptionsSize, entry.secondOptionsSize)) := by
  have h1 : entry.firstOptionsSize.toNat < 16 := by
    rw [firstOptionsSize, size_nibble hfirst]; omega
  have h2 : entry.secondOptionsSize.toNat < 16 := by
    rw [secondOptionsSize, size_nibble hsecond]; omega
  obtain ⟨m0, m1, m2, m3, htail, hrec⟩ := recordEntry_tail entry h
  have hbody := EntryDeserializer.body_yields entry.toEntry.type.code entry.toEntry.serviceId
    entry.toEntry.instanceId entry.toEntry.ttl entry.toEntry.majorVersion m0 m1 m2 m3
  rw [hrec] at hbody
  rw [payload_record, htail]
  -- the record as `payload_record` spells it, its packed fields read back below
  have hread := @EntryDeserializer.deserialize_header [m0, m1, m2, m3] (.ok entry.bare)
    entry.toEntry.type.code optionIndex (optionIndex + entry.firstOptionsSize)
    ((entry.firstOptionsSize <<< 4) ||| entry.secondOptionsSize)
    (entry.toEntry.serviceId >>> 8).toUInt8 entry.toEntry.serviceId.toUInt8
    (entry.toEntry.instanceId >>> 8).toUInt8 entry.toEntry.instanceId.toUInt8
    (((entry.toEntry.majorVersion.toUInt32 <<< 24) ||| entry.toEntry.ttl) >>> 24).toUInt8
    (((entry.toEntry.majorVersion.toUInt32 <<< 24) ||| entry.toEntry.ttl) >>> 16).toUInt8
    (((entry.toEntry.majorVersion.toUInt32 <<< 24) ||| entry.toEntry.ttl) >>> 8).toUInt8
    ((entry.toEntry.majorVersion.toUInt32 <<< 24) ||| entry.toEntry.ttl).toUInt8
  rw [word16_bytes16, word16_bytes16, word32_bytes32, packed24_high _ _ httl, packed24_low _ _ httl]
    at hread
  have hall := hread hbody
  rw [nibbles_high _ _ h1 h2, nibbles_low _ _ h1 h2] at hall
  simp only [bytes32, packed24_high _ _ httl]
  exact hall

end AnyEntry

end AdaptiveAutosar.Com
