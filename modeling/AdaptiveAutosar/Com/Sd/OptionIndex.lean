import AdaptiveAutosar.Com.Sd.RoundTrip

/-! # Option indices of a written message

The record of an entry begins with its type, the index of its first option and the index of its
second option. `Payload` moves the running index twice past the options of every entry: once in
`Entry::BasePayload` and once more in its own loops over the options.
-/

namespace AdaptiveAutosar.Com
open Foundations Foundations.BigEndian
set_option autoImplicit false

namespace SomeIpSdMessage

/-- The options serialised before those of the `k`-th entry. -/
def optionsBefore (message : SomeIpSdMessage) (k : ℕ) : ℕ := optionsCount (message.entries.take k)

/-- The byte at a position in the record of the `k`-th entry. -/
def entryByte (message : SomeIpSdMessage) (k position : ℕ) : Option ℕ :=
  (message.payload[24 + 16 * k + position]?).map UInt8.toNat

/-- Every non-empty run of options begins at the index its entry names. -/
def IndicesRight (message : SomeIpSdMessage) : Prop :=
  ∀ k entry, message.entries[k]? = some entry →
    (entry.toEntry.firstOptions ≠ [] →
      message.entryByte k 1 = some (message.optionsBefore k)) ∧
    (entry.toEntry.secondOptions ≠ [] →
      message.entryByte k 2 =
        some (message.optionsBefore k + entry.toEntry.firstOptions.length))

/-! ## What the bytes hold -/

theorem optionsCount_cons (entry : AnyEntry) (entries : List AnyEntry) :
    optionsCount (entry :: entries) = entry.options.length + optionsCount entries := by
  simp only [optionsCount, List.map_cons, List.sum_cons]

theorem optionsCount_take_le (entries : List AnyEntry) (k : ℕ) :
    optionsCount (entries.take k) ≤ optionsCount entries := by
  induction entries generalizing k with
  | nil => simp [optionsCount]
  | cons entry entries ih =>
    cases k with
    | zero => simp [optionsCount]
    | succ k =>
      rw [List.take_succ_cons, optionsCount_cons, optionsCount_cons]
      have := ih k
      omega

/-- The record of the `k`-th entry, written with twice the number of the options before it. -/
theorem entryRecords_getElem? (entries : List AnyEntry) (index : UInt8) (k position : ℕ)
    (entry : AnyEntry) (hk : entries[k]? = some entry) (hp : position < 16) :
    (entryRecords entries index)[16 * k + position]? =
      (entry.payload (index + UInt8.ofNat (2 * optionsCount (entries.take k)))).1[position]? := by
  induction entries generalizing index k with
  | nil => simp at hk
  | cons head entries ih =>
    have hl := head.payload_length index
    cases k with
    | zero =>
      simp only [List.getElem?_cons_zero, Option.some.injEq] at hk
      subst hk
      rw [entryRecords, List.getElem?_append_left (by omega)]
      simp [optionsCount]
    | succ k =>
      simp only [List.getElem?_cons_succ] at hk
      have hindex : index + UInt8.ofNat (2 * head.options.length) +
          UInt8.ofNat (2 * optionsCount (entries.take k)) =
          index + UInt8.ofNat (2 * optionsCount ((head :: entries).take (k + 1))) := by
        apply UInt8.toNat_inj.mp
        rw [List.take_succ_cons, optionsCount_cons]
        simp only [UInt8.toNat_add, UInt8.toNat_ofNat']
        omega
      have hpos : 16 * (k + 1) + position - 16 = 16 * k + position := by omega
      rw [entryRecords, List.getElem?_append_right (by omega), hl, hpos, ih _ k hk, hindex]

theorem payload_getElem? (message : SomeIpSdMessage) (k position : ℕ) (entry : AnyEntry)
    (hk : message.entries[k]? = some entry) (hp : position < 16) :
    message.payload[24 + 16 * k + position]? =
      (entry.payload (UInt8.ofNat (2 * message.optionsBefore k))).1[position]? := by
  have hlt : k < message.entries.length := (List.getElem?_eq_some_iff.mp hk).1
  have hlen := entryRecords_length message.entries 0
  rw [payload_eq, List.getElem?_append_right (by rw [SomeIpMessage.payload_length]; omega),
    SomeIpMessage.payload_length, List.getElem?_append_right (by rw [bytes32_length]; omega),
    bytes32_length, List.getElem?_append_right (by rw [bytes32_length]; omega), bytes32_length,
    List.getElem?_append_left (by omega)]
  have hpos : 24 + 16 * k + position - 16 - 4 - 4 = 16 * k + position := by omega
  rw [hpos, entryRecords_getElem? message.entries 0 k position entry hk hp, UInt8.zero_add]
  rfl

theorem entryByte_first (message : SomeIpSdMessage) (k : ℕ) (entry : AnyEntry)
    (hk : message.entries[k]? = some entry) :
    message.entryByte k 1 = some (2 * message.optionsBefore k % 256) := by
  unfold entryByte
  rw [payload_getElem? message k 1 entry hk (by omega), AnyEntry.payload_record]
  simp [UInt8.toNat_ofNat']

theorem entryByte_second (message : SomeIpSdMessage) (k : ℕ) (entry : AnyEntry)
    (hk : message.entries[k]? = some entry) :
    message.entryByte k 2 =
      some ((2 * message.optionsBefore k + entry.toEntry.firstOptions.length) % 256) := by
  unfold entryByte
  rw [payload_getElem? message k 2 entry hk (by omega), AnyEntry.payload_record]
  simp [AnyEntry.firstOptionsSize, UInt8.toNat_ofNat']

/-! ## When the indices are right -/

theorem optionsCount_eq_zero_iff (entries : List AnyEntry) :
    optionsCount entries = 0 ↔ ∀ entry ∈ entries, entry.options = [] := by
  induction entries with
  | nil => simp [optionsCount]
  | cons entry entries ih =>
    rw [optionsCount_cons, Nat.add_eq_zero_iff, ih, List.length_eq_zero_iff, List.forall_mem_cons]

theorem optionsBefore_eq_zero_iff (message : SomeIpSdMessage) (k : ℕ) :
    message.optionsBefore k = 0 ↔
      ∀ j entry, j < k → message.entries[j]? = some entry → entry.options = [] := by
  unfold optionsBefore
  rw [optionsCount_eq_zero_iff]
  constructor
  · intro h j entry hj he
    have hmem : entry ∈ message.entries.take k := by
      refine List.mem_iff_getElem?.mpr ⟨j, ?_⟩
      rw [List.getElem?_take_of_lt hj]
      exact he
    exact h entry hmem
  · intro h entry hmem
    obtain ⟨j, hj⟩ := List.mem_iff_getElem?.mp hmem
    have hjk : j < k := by
      by_contra hge
      rw [List.getElem?_take_eq_none (by omega)] at hj
      cases hj
    rw [List.getElem?_take_of_lt hjk] at hj
    exact h j entry hjk hj

/-- With fewer than 256 options the running index is right at an entry exactly when no option was
written before it. -/
theorem index_right_iff (message : SomeIpSdMessage) (hcount : optionsCount message.entries < 256)
    (k : ℕ) (entry : AnyEntry) (hk : message.entries[k]? = some entry) (hoptions : entry.options ≠ []) :
    ((entry.toEntry.firstOptions ≠ [] → message.entryByte k 1 = some (message.optionsBefore k)) ∧
      (entry.toEntry.secondOptions ≠ [] → message.entryByte k 2 =
        some (message.optionsBefore k + entry.toEntry.firstOptions.length))) ↔
      message.optionsBefore k = 0 := by
  have hle := optionsCount_take_le message.entries (k + 1)
  have htake : optionsCount (message.entries.take (k + 1)) =
      message.optionsBefore k + entry.options.length := by
    unfold optionsBefore optionsCount
    rw [List.take_add_one, hk, List.map_append, List.sum_append]
    simp
  have hlength : entry.options.length =
      entry.toEntry.firstOptions.length + entry.toEntry.secondOptions.length := List.length_append
  rw [entryByte_first message k entry hk, entryByte_second message k entry hk]
  simp only [Option.some.injEq]
  constructor
  · rintro ⟨hfirst, hsecond⟩
    by_cases hf : entry.toEntry.firstOptions = []
    · by_cases hs : entry.toEntry.secondOptions = []
      · exact absurd (by rw [AnyEntry.options, hf, hs]; rfl) hoptions
      · have h2 := hsecond hs
        omega
    · have h1 := hfirst hf
      omega
  · intro h0
    constructor
    · intro _
      omega
    · intro _
      omega

/-- The indices are right exactly when at most one entry carries options. -/
theorem indicesRight_iff (message : SomeIpSdMessage) (hcount : optionsCount message.entries < 256) :
    message.IndicesRight ↔
      message.entries.Pairwise (fun a b => a.options = [] ∨ b.options = []) := by
  have hstep : message.IndicesRight ↔ ∀ k entry, message.entries[k]? = some entry →
      entry.options ≠ [] → message.optionsBefore k = 0 := by
    constructor
    · intro h k entry hk hoptions
      exact (index_right_iff message hcount k entry hk hoptions).mp (h k entry hk)
    · intro h k entry hk
      by_cases hoptions : entry.options = []
      · have hf := (List.append_eq_nil_iff.mp hoptions).1
        have hs := (List.append_eq_nil_iff.mp hoptions).2
        exact ⟨fun hne => absurd hf hne, fun hne => absurd hs hne⟩
      · exact (index_right_iff message hcount k entry hk hoptions).mpr (h k entry hk hoptions)
  rw [hstep, List.pairwise_iff_getElem]
  constructor
  · intro h i j hi hj hij
    by_cases hb : message.entries[j].options = []
    · exact .inr hb
    · have h0 := h j message.entries[j] (List.getElem?_eq_getElem hj) hb
      exact .inl ((optionsBefore_eq_zero_iff message j).mp h0 i _ hij (List.getElem?_eq_getElem hi))
  · intro h k entry hk hoptions
    rw [optionsBefore_eq_zero_iff]
    intro j other hj hother
    obtain ⟨hkl, rfl⟩ := List.getElem?_eq_some_iff.mp hk
    obtain ⟨hjl, rfl⟩ := List.getElem?_eq_some_iff.mp hother
    rcases h j k hjl hkl hj with ho | ho
    · exact ho
    · exact absurd ho hoptions

theorem indicesRight_iff_sample :
    sampleMessage.IndicesRight ↔
      sampleMessage.entries.Pairwise (fun a b => a.options = [] ∨ b.options = []) :=
  indicesRight_iff sampleMessage (by decide)

/-- Two offers with one endpoint each: the second one names index 2 for the option at index 1. -/
def twoOffers : SomeIpSdMessage :=
  messageWith [sampleService.withOptions [sampleEndpoint] [], sampleService.withOptions [sampleEndpoint] []]

theorem twoOffers_built : twoOffers.Built := by
  have hmake : ServiceEntry.createOfferServiceEntry 0x1234 1 1 2 0xffffff =
      .ok (ServiceEntry.make .offering 0x1234 1 0xffffff 1 2) := rfl
  have hadd : sampleService.addFirstOption sampleEndpoint =
      .ok (sampleService.withOptions [sampleEndpoint] []) := rfl
  refine messageWith_built fun entry h => ?_
  rcases List.mem_pair.mp h with rfl | rfl <;> exact .addFirstOption (.offerService hmake) hadd

theorem twoOffers_indices_wrong :
    twoOffers.Built ∧ optionsCount twoOffers.entries < 256 ∧ ¬ twoOffers.IndicesRight := by
  refine ⟨twoOffers_built, by decide, ?_⟩
  intro h
  have h1 := (h 1 _ rfl).1 (by decide)
  exact absurd h1 (by decide)

end SomeIpSdMessage

end AdaptiveAutosar.Com
