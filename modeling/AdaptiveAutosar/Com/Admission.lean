import AdaptiveAutosar.Com.EntryRecord
import AdaptiveAutosar.Foundations.Transition

/-! # What the entries let in

The options that any calls of `AddFirstOption` and `AddSecondOption` leave in an entry, and the fields
that its record has no room for.
-/

namespace AdaptiveAutosar.Com
open Foundations
set_option autoImplicit false

inductive AddOption where
  | first (option : EntryOption)
  | second (option : EntryOption)
  deriving DecidableEq, Repr

namespace AnyEntry

def addOption (entry : AnyEntry) : AddOption → Outcome AnyEntry
  | .first option => entry.addFirstOption option
  | .second option => entry.addSecondOption option

/-- `ValidateOption` stands before `push_back`: a call that throws has not touched the entry. -/
def add (entry : AnyEntry) (call : AddOption) : Outcome (Outcome Unit × AnyEntry) :=
  match entry.addOption call with
  | .ok entry' => .ok (.ok (), entry')
  | .error fault => .ok (.error fault, entry)

def countOf (entry : AnyEntry) (type : OptionType) : ℕ := entry.options.countP (fun option => option.type = type)

/-- What the classes admit, over both runs of options. -/
structure Admissible (entry : AnyEntry) : Prop where
  configuration : entry.countOf .configuration ≤ 1
  loadBalancing : entry.countOf .loadBalancing ≤ 1
  sdEndpoint : entry.countOf .iPv4SdEndpoint = 0 ∧ entry.countOf .iPv6SdEndpoint = 0
  service : ∀ service, entry = .service service →
    entry.countOf .iPv4Multicast = 0 ∧ entry.countOf .iPv6Multicast = 0
  endpoint : ∀ eventgroup, entry = .eventgroup eventgroup →
    0 < entry.countOf .iPv4Endpoint ∨ 0 < entry.countOf .iPv6Endpoint → eventgroup.type = .subscribing
  multicast : ∀ eventgroup, entry = .eventgroup eventgroup →
    0 < entry.countOf .iPv4Multicast ∨ 0 < entry.countOf .iPv6Multicast →
      eventgroup.type = .acknowledging ∧ 0 < eventgroup.ttl
  perVersion : ∀ eventgroup, entry = .eventgroup eventgroup →
    entry.countOf .iPv4Multicast ≤ 1 ∧ entry.countOf .iPv6Multicast ≤ 1

variable {entry entry' : AnyEntry}

theorem Guarded.countOf_eq_zero (guarded : entry.Guarded) {type : OptionType}
    (refused : entry.Allows type = false) : entry.countOf type = 0 := by
  rw [countOf, List.countP_eq_zero]
  intro option there same
  have allowed := guarded.allowed option there
  rw [of_decide_eq_true same, refused] at allowed
  cases allowed

theorem count_le_one {options : List EntryOption} (compatible : options.Pairwise Compatible)
    {type : OptionType} (single : Single type = true) :
    options.countP (fun option => option.type = type) ≤ 1 := by
  induction compatible with
  | nil => exact Nat.zero_le 1
  | @cons option rest apart _ ih =>
    by_cases same : option.type = type
    · subst same
      have none_left : rest.countP (fun other => other.type = option.type) = 0 := by
        rw [List.countP_eq_zero]
        exact fun other there again => apart other there single (of_decide_eq_true again).symm
      rw [List.countP_cons, none_left]
      simp
    · rw [List.countP_cons_of_neg (by simpa using same)]
      exact ih

theorem Guarded.admissible (guarded : entry.Guarded) : entry.Admissible := by
  have once {type : OptionType} (single : Single type = true) : entry.countOf type ≤ 1 :=
    count_le_one guarded.compatible single
  constructor
  case configuration => exact once rfl
  case loadBalancing => exact once rfl
  case sdEndpoint =>
    cases entry with
    | service => exact ⟨guarded.countOf_eq_zero rfl, guarded.countOf_eq_zero rfl⟩
    | eventgroup =>
      exact ⟨guarded.countOf_eq_zero (by simp [Allows]), guarded.countOf_eq_zero (by simp [Allows])⟩
  case service =>
    rintro service rfl
    exact ⟨guarded.countOf_eq_zero rfl, guarded.countOf_eq_zero rfl⟩
  case endpoint =>
    rintro eventgroup rfl some_endpoint
    by_contra other
    rw [guarded.countOf_eq_zero (by simp [Allows, other]), guarded.countOf_eq_zero (by simp [Allows, other])]
      at some_endpoint
    simp at some_endpoint
  case multicast =>
    rintro eventgroup rfl some_multicast
    have positive : eventgroup.isAcknowledge = true := by
      by_contra other
      rw [guarded.countOf_eq_zero (by simp [Allows, other]), guarded.countOf_eq_zero (by simp [Allows, other])]
        at some_multicast
      simp at some_multicast
    simpa [EventgroupEntry.isAcknowledge, cNackTTL] using positive
  case perVersion => exact fun _ _ => ⟨once rfl, once rfl⟩

theorem Guarded.addOption (guarded : entry.Guarded) {call : AddOption}
    (added : entry.addOption call = .ok entry') : entry'.Guarded := by
  cases call with
  | first option =>
    obtain ⟨valid, rfl⟩ := addFirstOption_eq_ok.mp added
    refine guarded.withOption valid ?_
    rw [List.append_assoc]
    exact List.perm_middle
  | second option =>
    obtain ⟨valid, rfl⟩ := addSecondOption_eq_ok.mp added
    refine guarded.withOption valid ?_
    rw [← List.append_assoc]
    exact List.perm_append_singleton _ _

/-- A call adds its option, or it throws and changes nothing. -/
theorem add_cases {call : AddOption} {result : Outcome Unit} (taken : entry.add call = .ok (result, entry')) :
    result = .ok () ∧ entry.addOption call = .ok entry' ∨ (∃ fault, result = .error fault) ∧ entry' = entry := by
  unfold add at taken
  cases added : entry.addOption call with
  | ok after =>
    rw [added] at taken
    cases taken
    exact .inl ⟨rfl, rfl⟩
  | error fault =>
    rw [added] at taken
    cases taken
    exact .inr ⟨⟨fault, rfl⟩, rfl⟩

theorem Guarded.add (guarded : entry.Guarded) {call : AddOption} {result : Outcome Unit}
    (taken : entry.add call = .ok (result, entry')) : entry'.Guarded := by
  rcases add_cases taken with ⟨-, added⟩ | ⟨-, rfl⟩
  · exact guarded.addOption added
  · exact guarded

/-- Whatever calls are made on an entry without options, what they leave in it is admissible, and the
rejected ones leave the entry as it is. -/
theorem admissible_of_run {init : AnyEntry} (fresh : init.options = [])
    {trace : List (Taken AnyEntry AddOption (Outcome Unit))} (run : Run AnyEntry.add init trace entry) :
    entry.Admissible ∧ ∀ taken ∈ trace, ∀ fault, taken.output = .error fault →
      ∀ after, taken.before.add taken.input = .ok (taken.output, after) → after = taken.before := by
  have guarded : entry.Guarded :=
    run.reached (guarded_of_nil fresh) fun _ _ _ _ guarded taken => guarded.add taken
  refine ⟨guarded.admissible, ?_⟩
  rintro ⟨before, call, _⟩ - fault rfl after taken
  rcases add_cases taken with ⟨added, -⟩ | ⟨-, same⟩
  · cases added
  · exact same

theorem admissible_of_run_sample :
    (∃ trace entry, Run.play AnyEntry.add [] (.service (ServiceEntry.make .offering 1 1 3 1 0))
      [.first (.loadBalancing ⟨false, 1, 2⟩), .second (.loadBalancing ⟨false, 3, 4⟩)] = .ok (trace, entry) ∧
        entry.options = [.loadBalancing ⟨false, 1, 2⟩] ∧ entry.Admissible) := by
  obtain ⟨trace, entry, played, options⟩ : ∃ trace entry,
      Run.play AnyEntry.add [] (.service (ServiceEntry.make .offering 1 1 3 1 0))
        [.first (.loadBalancing ⟨false, 1, 2⟩), .second (.loadBalancing ⟨false, 3, 4⟩)] = .ok (trace, entry) ∧
      entry.options = [.loadBalancing ⟨false, 1, 2⟩] := ⟨_, _, rfl, rfl⟩
  exact ⟨trace, entry, played, options, (admissible_of_run rfl (Run.of_play .start played)).1⟩

/-! ## Fields of the record -/

/-- The record decodes to the major version, the TTL and the numbers of options that went into it. -/
def KeepsFields (entry : AnyEntry) : Prop :=
  ∀ optionIndex, ∃ decoded firstOptions secondOptions,
    EntryDeserializer.deserialize.Yields (entry.payload optionIndex).1
      (.ok (decoded, firstOptions, secondOptions)) ∧
    decoded.toEntry.majorVersion = entry.toEntry.majorVersion ∧ decoded.toEntry.ttl = entry.toEntry.ttl ∧
    firstOptions.toNat = entry.toEntry.firstOptions.length ∧
    secondOptions.toNat = entry.toEntry.secondOptions.length

/-- The record has 24 bits for the TTL and four for either number of options. -/
structure Representable (entry : AnyEntry) : Prop where
  ttl : entry.toEntry.ttl.toNat < 2 ^ 24
  firstOptions : entry.toEntry.firstOptions.length ≤ 15
  secondOptions : entry.toEntry.secondOptions.length ≤ 15

theorem ttl_of_record {type : UInt8} {serviceId instanceId : UInt16} {ttl : UInt32}
    {majorVersion m0 m1 m2 m3 : UInt8} (inside : ttl.toNat < 2 ^ 24)
    (read : EntryDeserializer.recordEntry type serviceId instanceId ttl majorVersion m0 m1 m2 m3 = .ok entry) :
    entry.toEntry.ttl.toNat < 2 ^ 24 := by
  have eventgroup {type : EntryType} {ttl : UInt32} {counter : UInt8} {eventgroupId : UInt16}
      (inside : ttl.toNat < 2 ^ 24) (read : (EventgroupEntry.make type serviceId instanceId ttl majorVersion
        counter eventgroupId).map AnyEntry.eventgroup = .ok entry) : entry.toEntry.ttl.toNat < 2 ^ 24 := by
    cases made : EventgroupEntry.make type serviceId instanceId ttl majorVersion counter eventgroupId with
    | error fault =>
      rw [made] at read
      cases read
    | ok eventgroup =>
      rw [made] at read
      cases read
      show eventgroup.toEntry.ttl.toNat < 2 ^ 24
      rw [eventgroup_make_ok made]
      exact inside
  unfold EntryDeserializer.recordEntry at read
  cases kind : EntryType.ofCode type with
  | none => simp [kind] at read
  | some type =>
    simp only [kind] at read
    cases type with
    | finding =>
      by_cases zero : ttl = 0
      · simp [ServiceEntry.createFindServiceEntry, zero, Except.map] at read
      · simp only [ServiceEntry.createFindServiceEntry, zero, if_false, Except.map, Except.ok.injEq] at read
        subst read
        exact inside
    | offering =>
      cases read
      exact inside
    | subscribing =>
      refine eventgroup ?_ read
      split <;> decide
    | acknowledging => exact eventgroup inside read

theorem deserialize_fits {buffer : Bytes} {offset offset' : ℕ} {first second : UInt8}
    (read : EntryDeserializer.deserialize buffer offset = .ok ((entry, first, second), offset')) :
    entry.toEntry.ttl.toNat < 2 ^ 24 ∧ first.toNat ≤ 15 ∧ second.toNat ≤ 15 := by
  by_cases short : buffer.length < offset + 16
  · obtain ⟨what, threw⟩ := EntryDeserializer.deserialize_truncated buffer offset short
    rw [threw] at read
    cases read
  · obtain ⟨t, i1, i2, n, s0, s1, j0, j1, c0, c1, c2, c3, m0, m1, m2, m3, -, record⟩ :=
      EntryDeserializer.deserialize_record (Nat.le_of_not_lt short)
    rw [record] at read
    cases made : EntryDeserializer.recordEntry t (BigEndian.word16 s0 s1) (BigEndian.word16 j0 j1)
      (BigEndian.word32 c0 c1 c2 c3 &&& 0x00ffffff) (BigEndian.word32 c0 c1 c2 c3 >>> 24).toUInt8 m0 m1 m2 m3 with
    | error fault =>
      rw [made] at read
      cases read
    | ok entry =>
      rw [made] at read
      cases read
      refine ⟨ttl_of_record ?_ made, ?_, ?_⟩
      · rw [UInt32.toNat_and]
        exact Nat.and_lt_two_pow _ (by decide)
      · rw [UInt8.toNat_shiftRight, Nat.shiftRight_eq_div_pow]
        have := n.toNat_lt
        show n.toNat / 2 ^ 4 ≤ 15
        omega
      · rw [UInt8.toNat_and]
        exact Nat.and_le_right

/-- An entry of the API keeps its fields exactly when the record has room for them. -/
theorem keepsFields_iff (built : entry.Built) : entry.KeepsFields ↔ entry.Representable := by
  constructor
  · intro keeps
    obtain ⟨decoded, first, second, yields, -, ttl, firstOptions, secondOptions⟩ := keeps 0
    have read := yields [] []
    obtain ⟨inside, few, few'⟩ := deserialize_fits read
    exact ⟨ttl ▸ inside, firstOptions ▸ few, secondOptions ▸ few'⟩
  · intro fits optionIndex
    refine ⟨entry.bare, entry.firstOptionsSize, entry.secondOptionsSize,
      deserialize_payload entry optionIndex built.admitted.sound fits.ttl fits.firstOptions fits.secondOptions,
      ?_, ?_, size_nibble fits.firstOptions, size_nibble fits.secondOptions⟩
    · cases entry <;> rfl
    · cases entry <;> rfl

/-- An offer with an endpoint in its first run and a load balancing option in its second. -/
theorem keepsFields_iff_sample : ∃ offer addressed entry,
    ServiceEntry.createOfferServiceEntry 1 2 3 4 5 = .ok offer ∧
      (AnyEntry.service offer).addFirstOption
        (.ipv4Endpoint (.createUnitcastEndpoint false ⟨10, 0, 0, 1⟩ .tcp 8080)) = .ok addressed ∧
      addressed.addSecondOption (.loadBalancing ⟨false, 1, 2⟩) = .ok entry ∧ entry.KeepsFields := by
  have offered : ServiceEntry.createOfferServiceEntry 1 2 3 4 5 = .ok _ := rfl
  have first : (AnyEntry.service (.make .offering 1 2 5 3 4)).addFirstOption
      (.ipv4Endpoint (.createUnitcastEndpoint false ⟨10, 0, 0, 1⟩ .tcp 8080)) = .ok _ := rfl
  refine ⟨_, _, _, offered, first, rfl, ?_⟩
  exact (keepsFields_iff (.addSecondOption (.addFirstOption (.offerService offered) first)
    (rfl : AnyEntry.addSecondOption _ (.loadBalancing ⟨false, 1, 2⟩) = _))).mpr ⟨by decide, by decide, by decide⟩

/-- An offer of major version 1 comes out as a stop offer of major version 3. -/
theorem not_always_keepsFields : ∃ entry,
    ServiceEntry.createOfferServiceEntry 1 1 1 0 0x02000000 = .ok entry ∧
      ¬ (AnyEntry.service entry).KeepsFields := by
  refine ⟨_, rfl, fun keeps => ?_⟩
  obtain ⟨decoded, first, second, yields, -, ttl, -⟩ := keeps 0
  have inside := (deserialize_fits (yields [] [])).1
  rw [ttl] at inside
  exact absurd inside (by decide)

end AnyEntry
end AdaptiveAutosar.Com
