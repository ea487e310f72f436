import AdaptiveAutosar.Com.Sd.Records

/-! # Which byte strings the service discovery reader accepts

`deserialize` throws `std::out_of_range` unless it meets a clean run of entries or a rejected one. A
clean run is accepted whatever the length fields say about it, a rejected one is answered with
`std::invalid_argument`, and a header cut behind its checked fields is read outside the payload.
-/

namespace AdaptiveAutosar.Com
open Foundations Foundations.BigEndian Foundations.Cursor
set_option autoImplicit false

namespace SomeIpSdMessage

/-! ## The reader at the entries -/

section EntryLoop
variable {p : Bytes} {bound : ℕ}

theorem deserializeEntries_step {a o o1 o2 : ℕ} {shape : EntryShape} {seen1 seen2 : List OptionType}
    (hlt : a < bound) (hs : EntryAt p a shape) (ha : shape.Admissible)
    (hfirst : OptionsClean p shape shape.firstOptions.toNat [] o seen1 o1)
    (hsecond : OptionsClean p shape shape.secondOptions.toNat seen1 o1 seen2 o2)
    (rounds : ℕ) (done : List AnyEntry) :
    ∃ entry, deserializeEntries p bound (rounds + 1) a o done =
        deserializeEntries p bound rounds (a + 16) o2 (done ++ [entry]) ∧
      o + (optionRecords entry).length = o2 := by
  obtain ⟨bare, hread, hkind, hnil⟩ := hs.read ha
  have htracks : Tracks bare shape [] o o :=
    ⟨hkind, by rw [hnil]; simp, by rw [optionRecords, hnil]; rfl⟩
  obtain ⟨entry1, h1, htracks1⟩ := deserializeOptions_clean adds_addFirstOption hfirst htracks
  obtain ⟨entry2, h2, htracks2⟩ := deserializeOptions_clean adds_addSecondOption hsecond htracks1
  refine ⟨entry2, ?_, htracks2.size⟩
  rw [deserializeEntries, if_pos hlt, hread]
  simp only [bind, Except.bind]
  rw [h1]
  simp only
  rw [h2]

theorem EntryAt.length_le {a : ℕ} {shape : EntryShape} (h : EntryAt p a shape) : a + 16 ≤ p.length := by
  cases h with
  | intro type i1 i2 n s0 s1 j0 j1 c0 c1 c2 c3 m0 m1 m2 m3 h hcounter => exact h.length_le

theorem deserializeEntries_clean {a o a' o' : ℕ} (h : EntriesClean p bound a o a' o') (rounds : ℕ)
    (done : List AnyEntry) (hrounds : p.length < a + 16 * rounds) :
    ∃ entries, deserializeEntries p bound rounds a o done = .ok (done ++ entries) ∧
      a + 16 * entries.length = a' ∧ o + (entries.flatMap optionRecords).length = o' := by
  induction h generalizing rounds done with
  | @done a o h =>
    refine ⟨[], ?_, rfl, rfl⟩
    rw [List.append_nil]
    cases rounds with
    | zero => simp only [deserializeEntries, h, if_false]
    | succ rounds => simp only [deserializeEntries, h, if_false]
  | @entry a o o1 o2 a' o' shape seen1 seen2 hlt hs ha hfirst hsecond h ih =>
    have hle := hs.length_le
    obtain ⟨rounds, rfl⟩ : ∃ r, rounds = r + 1 := ⟨rounds - 1, by omega⟩
    obtain ⟨entry, hstep, hsize⟩ := deserializeEntries_step hlt hs ha hfirst hsecond rounds done
    obtain ⟨entries, hrest, hcount, htotal⟩ := ih rounds (done ++ [entry]) (by omega)
    refine ⟨entry :: entries, ?_, ?_, ?_⟩
    · rw [hstep, hrest, List.append_assoc]
      rfl
    · rw [List.length_cons]
      omega
    · rw [List.flatMap_cons, List.length_append]
      omega

theorem deserializeEntries_rejected {a o : ℕ} (h : EntriesRejected p bound a o) (rounds : ℕ)
    (done : List AnyEntry) (hrounds : p.length < a + 16 * rounds) :
    ThrowsInvalidArgument (deserializeEntries p bound rounds a o done) := by
  have htracks {a o : ℕ} {shape : EntryShape} {bare : AnyEntry}
      (hkind : OfType shape.type shape.ttl bare) (hnil : bare.options = []) :
      Tracks bare shape [] o o :=
    ⟨hkind, by rw [hnil]; simp, by rw [optionRecords, hnil]; rfl⟩
  induction h generalizing rounds done with
  | @entry a o shape hlt hs ha =>
    have hle := hs.length_le
    obtain ⟨rounds, rfl⟩ : ∃ r, rounds = r + 1 := ⟨rounds - 1, by omega⟩
    rw [deserializeEntries, if_pos hlt]
    exact (hs.read_inadmissible ha).bind _
  | @firstOption a o shape hlt hs ha h =>
    have hle := hs.length_le
    obtain ⟨rounds, rfl⟩ : ∃ r, rounds = r + 1 := ⟨rounds - 1, by omega⟩
    obtain ⟨bare, hread, hkind, hnil⟩ := hs.read ha
    rw [deserializeEntries, if_pos hlt, hread]
    exact (deserializeOptions_rejected adds_addFirstOption h
      (htracks (a := a) hkind hnil)).bind _
  | @secondOption a o o1 shape seen1 hlt hs ha hfirst h =>
    have hle := hs.length_le
    obtain ⟨rounds, rfl⟩ : ∃ r, rounds = r + 1 := ⟨rounds - 1, by omega⟩
    obtain ⟨bare, hread, hkind, hnil⟩ := hs.read ha
    obtain ⟨entry1, h1, htracks1⟩ :=
      deserializeOptions_clean adds_addFirstOption hfirst (htracks (a := a) hkind hnil)
    rw [deserializeEntries, if_pos hlt, hread]
    simp only [bind, Except.bind]
    rw [h1]
    exact (deserializeOptions_rejected adds_addSecondOption h htracks1).bind _
  | @later a o o1 o2 shape seen1 seen2 hlt hs ha hfirst hsecond h ih =>
    have hle := hs.length_le
    obtain ⟨rounds, rfl⟩ : ∃ r, rounds = r + 1 := ⟨rounds - 1, by omega⟩
    obtain ⟨entry, hstep, -⟩ := deserializeEntries_step hlt hs ha hfirst hsecond rounds done
    rw [hstep]
    exact ih rounds (done ++ [entry]) (by omega)

/-- The loop throws `std::out_of_range` unless it meets a clean run or one that is rejected. -/
theorem deserializeEntries_cases (rounds a o : ℕ) (done : List AnyEntry) (ha : a ≤ p.length)
    (hrounds : p.length < a + 16 * rounds) :
    ThrowsOutOfRange (deserializeEntries p bound rounds a o done) ∨ EntriesRejected p bound a o ∨
      ∃ a' o', EntriesClean p bound a o a' o' := by
  induction rounds generalizing a o done with
  | zero => omega
  | succ rounds ih =>
    by_cases hlt : a < bound
    · rcases entry_cases p a with ⟨what, hw⟩ | ⟨shape, hs⟩
      · left
        rw [deserializeEntries, if_pos hlt, hw]
        exact ⟨what, rfl⟩
      by_cases hadm : shape.Admissible
      · have hle := hs.length_le
        obtain ⟨bare, hread, hkind, hnil⟩ := hs.read hadm
        have htracks : Tracks bare shape [] o o :=
          ⟨hkind, by rw [hnil]; simp, by rw [optionRecords, hnil]; rfl⟩
        rcases deserializeOptions_cases adds_addFirstOption shape.firstOptions.toNat (p := p) htracks with
          h | h | ⟨seen1, o1, hfirst⟩
        · left
          rw [deserializeEntries, if_pos hlt, hread]
          exact h.bind _
        · exact .inr (.inl (.firstOption hlt hs hadm h))
        obtain ⟨entry1, h1, htracks1⟩ := deserializeOptions_clean adds_addFirstOption hfirst htracks
        rcases deserializeOptions_cases adds_addSecondOption shape.secondOptions.toNat (p := p)
          htracks1 with h | h | ⟨seen2, o2, hsecond⟩
        · left
          rw [deserializeEntries, if_pos hlt, hread]
          simp only [bind, Except.bind]
          rw [h1]
          exact h.bind _
        · exact .inr (.inl (.secondOption hlt hs hadm hfirst h))
        obtain ⟨entry, hstep, -⟩ := deserializeEntries_step hlt hs hadm hfirst hsecond rounds done
        rcases ih (a + 16) o2 (done ++ [entry]) hle (by omega) with h | h | ⟨a', o', h⟩
        · rw [hstep]
          exact .inl h
        · exact .inr (.inl (.later hlt hs hadm hfirst hsecond h))
        · exact .inr (.inr ⟨a', o', .entry hlt hs hadm hfirst hsecond h⟩)
      · exact .inr (.inl (.entry hlt hs hadm))
    · exact .inr (.inr ⟨a, o, .done hlt⟩)

end EntryLoop

/-! ## The reader -/

/-- A readable header in front of the arrays, with the length of the entries array. -/
def HeaderAt (p : Bytes) (entriesLength : UInt32) : Prop :=
  (HoldsAt p 16 (bytes32 cRebootedFlag) ∨ HoldsAt p 16 (bytes32 cNotRebootedFlag)) ∧
    HoldsAt p 20 (bytes32 entriesLength)

/-- The bound of the entry loop, which wraps around. -/
def entriesEnd (entriesLength : UInt32) : ℕ := (24 + entriesLength.toNat) % 2 ^ 32

/-- The entries and the options cover exactly the arrays announced for them. -/
structure WellFormed (p : Bytes) (message : SomeIpSdMessage) (entriesLength optionsLength : UInt32) :
    Prop where
  entriesLength_at : HoldsAt p 20 (bytes32 entriesLength)
  entries_cover : entriesLength.toNat = 16 * message.entries.length
  optionsLength_at : HoldsAt p (24 + entriesLength.toNat) (bytes32 optionsLength)
  options_cover : (message.entries.flatMap optionRecords).length = optionsLength.toNat
  options_fit : 28 + entriesLength.toNat + optionsLength.toNat ≤ p.length

/-- Corrupted payloads throw `std::out_of_range`, and only well-formed ones are accepted. -/
def DecodesSafely (p : Bytes) : Prop :=
  ThrowsOutOfRange (deserialize p) ∨
    ∃ message entriesLength optionsLength, deserialize p = .ok message ∧
      WellFormed p message entriesLength optionsLength

/-- The header is not cut between its checked fields and its end, no complete record is met that is
not admissible, and clean records fill the announced arrays. -/
structure Decodable (p : Bytes) : Prop where
  header : ¬ (12 ≤ p.length ∧ p.length < 16)
  admissible : ∀ entriesLength, HeaderAt p entriesLength →
    ¬ EntriesRejected p (entriesEnd entriesLength) 24 (28 + entriesLength.toNat)
  consistent : ∀ entriesLength a o, HeaderAt p entriesLength →
    EntriesClean p (entriesEnd entriesLength) 24 (28 + entriesLength.toNat) a o →
    a = 24 + entriesLength.toNat ∧ ∃ optionsLength, HoldsAt p a (bytes32 optionsLength) ∧
      o = a + 4 + optionsLength.toNat ∧ o ≤ p.length

theorem word_cases (p : Bytes) (offset : ℕ) :
    ThrowsOutOfRange (extractInteger p offset) ∨ ∃ word, HoldsAt p offset (bytes32 word) := by
  by_cases hlt : p.length < offset + 4
  · exact .inl (extractInteger_truncated p offset hlt)
  obtain ⟨rec, hrec, hl⟩ := exists_record (Nat.le_of_not_lt hlt)
  match rec, hl with
  | [b0, b1, b2, b3], _ =>
    rw [← bytes32_word32] at hrec
    exact .inr ⟨_, hrec⟩

theorem word_read {p : Bytes} {offset : ℕ} {word : UInt32} (h : HoldsAt p offset (bytes32 word)) :
    extractInteger p offset = .ok (word, offset + 4) := (extractInteger_bytes32 word).at h

/-- Behind a readable header the reader is its loop over the entries. -/
theorem deserialize_header {p : Bytes} {entriesLength : UInt32} (h : HeaderAt p entriesLength) :
    ∃ base rebooted, deserialize p =
      (deserializeEntries p (entriesEnd entriesLength) p.length 24 (28 + entriesLength.toNat) []).map
        (fun entries => ⟨base, rebooted, entries⟩) := by
  obtain ⟨hflag, hlength⟩ := h
  have hle := hlength.length_le
  rw [bytes32_length] at hle
  have h16 : 16 ≤ p.length := by omega
  obtain ⟨base, hbase⟩ := SomeIpMessage.deserialize_ok h16
  have hbound : (UInt32.ofNat (24 + entriesLength.toNat)).toNat = entriesEnd entriesLength :=
    UInt32.toNat_ofNat'
  have hoffset : 24 + entriesLength.toNat + 4 = 28 + entriesLength.toNat := by omega
  have hmain {flag : UInt32} {rebooted : Bool} (hf : HoldsAt p 16 (bytes32 flag))
      (hr : rebootedOf flag = .ok rebooted) : deserialize p =
      (deserializeEntries p (entriesEnd entriesLength) p.length 24 (28 + entriesLength.toNat) []).map
        (fun entries => ⟨base, rebooted, entries⟩) := by
    unfold deserialize
    rw [make_eq, hbase]
    simp only [bind, Except.bind, cSomeIpSdPduOffset, cOptionsLengthFieldSize]
    rw [word_read hf]
    simp only [Nat.reduceAdd, hr]
    rw [word_read hlength]
    simp only [Nat.reduceAdd, hbound, hoffset]
    cases deserializeEntries p (entriesEnd entriesLength) p.length 24 (28 + entriesLength.toNat) [] <;>
      rfl
  rcases hflag with hf | hf
  · exact ⟨base, true, hmain hf rfl⟩
  · exact ⟨base, false, hmain hf rfl⟩

theorem rebootedOf_cases (flag : UInt32) :
    ThrowsOutOfRange (rebootedOf flag) ∨
      ∃ rebooted, rebootedOf flag = .ok rebooted ∧ (flag = cRebootedFlag ∨ flag = cNotRebootedFlag) := by
  by_cases h1 : flag = cRebootedFlag
  · exact .inr ⟨true, by rw [h1]; rfl, .inl h1⟩
  · by_cases h2 : flag = cNotRebootedFlag
    · exact .inr ⟨false, by rw [h2]; rfl, .inr h2⟩
    · left
      rw [rebootedOf, if_neg h1, if_neg h2]
      exact throwsOutOfRange_error _

theorem header_cases (p : Bytes) (hlength : ¬ (12 ≤ p.length ∧ p.length < 16)) :
    ThrowsOutOfRange (deserialize p) ∨ ∃ entriesLength, HeaderAt p entriesLength := by
  by_cases h12 : p.length < 12
  · left
    unfold deserialize
    rw [make_eq]
    exact (SomeIpMessage.deserialize_short h12).bind _
  have h16 : 16 ≤ p.length := by omega
  obtain ⟨base, hbase⟩ := SomeIpMessage.deserialize_ok h16
  have hstart : deserialize p = (do
      let flag ← extractInteger p 16
      let rebooted ← rebootedOf flag.1
      let length ← extractInteger p flag.2
      let entries ← deserializeEntries p (UInt32.ofNat (length.2 + length.1.toNat)).toNat
        p.length length.2 (length.2 + length.1.toNat + 4) []
      pure ⟨base, rebooted, entries⟩) := by
    unfold deserialize
    rw [make_eq, hbase]
    rfl
  rw [hstart]
  rcases word_cases p 16 with h | ⟨flag, hflag⟩
  · exact .inl (h.bind _)
  rw [word_read hflag]
  rcases rebootedOf_cases flag with h | ⟨rebooted, hreboot, hvalid⟩
  · exact .inl (h.bind _)
  simp only [bind, Except.bind, hreboot]
  rcases word_cases p 20 with h | ⟨entriesLength, hentries⟩
  · exact .inl (h.bind _)
  · refine .inr ⟨entriesLength, ?_, hentries⟩
    rcases hvalid with rfl | rfl
    · exact .inl hflag
    · exact .inr hflag

theorem not_decodesSafely_of_invalidArgument {p : Bytes} (h : ThrowsInvalidArgument (deserialize p)) :
    ¬ DecodesSafely p := by
  obtain ⟨what, hw⟩ := h
  rintro (⟨what', hw'⟩ | ⟨message, e, o, hok, -⟩)
  · rw [hw] at hw'
    cases hw'
  · rw [hw] at hok
    cases hok

/-- Exactly the decodable byte strings are decoded as the documentation promises. -/
theorem decodesSafely_iff (p : Bytes) : DecodesSafely p ↔ Decodable p := by
  constructor
  · intro h
    refine ⟨?_, ?_, ?_⟩
    · rintro ⟨h12, h16⟩
      have hu : deserialize p = .error .undefined := by
        unfold deserialize
        rw [make_eq, SomeIpMessage.deserialize_undefined h12 h16]
        rfl
      rcases h with ⟨what, hw⟩ | ⟨message, e, o, hok, -⟩
      · rw [hu] at hw
        cases hw
      · rw [hu] at hok
        cases hok
    · intro entriesLength hheader hrejected
      have hle := hheader.2.length_le
      obtain ⟨base, rebooted, hd⟩ := deserialize_header hheader
      obtain ⟨what, hw⟩ := deserializeEntries_rejected hrejected p.length [] (by omega)
      refine not_decodesSafely_of_invalidArgument ⟨what, ?_⟩ h
      rw [hd, hw]
      rfl
    · intro entriesLength a o hheader hclean
      have hle := hheader.2.length_le
      obtain ⟨base, rebooted, hd⟩ := deserialize_header hheader
      obtain ⟨entries, hok, hcount, htotal⟩ := deserializeEntries_clean hclean p.length [] (by omega)
      rw [hok] at hd
      rcases h with ⟨what, hw⟩ | ⟨message, e, optionsLength, hm, hwell⟩
      · rw [hd] at hw
        cases hw
      · rw [hd] at hm
        cases hm
        have he := bytes32_injective (hwell.entriesLength_at.eq hheader.2 rfl)
        subst he
        have h1 := hwell.entries_cover
        have h2 := hwell.options_cover
        have h3 := hwell.options_fit
        have h4 := hwell.optionsLength_at
        simp only [List.nil_append] at h1 h2
        have ha : a = 24 + e.toNat := by omega
        refine ⟨ha, optionsLength, ?_, ?_, ?_⟩
        · rw [ha]
          exact h4
        · omega
        · omega
  · intro h
    rcases header_cases p h.header with hthrow | ⟨entriesLength, hheader⟩
    · exact .inl hthrow
    have hle := hheader.2.length_le
    rw [bytes32_length] at hle
    obtain ⟨base, rebooted, hd⟩ := deserialize_header hheader
    rcases deserializeEntries_cases p.length 24
      (28 + entriesLength.toNat) [] hle (by omega) with ⟨what, hw⟩ | hrejected | ⟨a, o, hclean⟩
    · left
      rw [hd, hw]
      exact ⟨what, rfl⟩
    · exact absurd hrejected (h.admissible entriesLength hheader)
    · right
      obtain ⟨entries, hok, hcount, htotal⟩ := deserializeEntries_clean hclean p.length [] (by omega)
      obtain ⟨ha, optionsLength, hat, ho, hfit⟩ := h.consistent entriesLength a o hheader hclean
      rw [hok, List.nil_append] at hd
      refine ⟨⟨base, rebooted, entries⟩, entriesLength, optionsLength, hd, hheader.2, ?_, ?_, ?_, ?_⟩
      · show entriesLength.toNat = 16 * entries.length
        omega
      · rw [← ha]
        exact hat
      · show (entries.flatMap optionRecords).length = optionsLength.toNat
        omega
      · omega

/-! ## What the reader accepts -/

/-- A readable header in front of a clean run of entries. -/
def Accepted (p : Bytes) : Prop :=
  ∃ entriesLength a o, HeaderAt p entriesLength ∧
    EntriesClean p (entriesEnd entriesLength) 24 (28 + entriesLength.toNat) a o

theorem not_ok_of_throwsOutOfRange {p : Bytes} (h : ThrowsOutOfRange (deserialize p))
    (message : SomeIpSdMessage) : deserialize p ≠ .ok message := by
  obtain ⟨what, hw⟩ := h
  intro hok
  rw [hw] at hok
  cases hok

theorem deserialize_ok_iff (p : Bytes) : (∃ message, deserialize p = .ok message) ↔ Accepted p := by
  constructor
  · rintro ⟨message, hok⟩
    have hlength : ¬ (12 ≤ p.length ∧ p.length < 16) := by
      rintro ⟨h12, h16⟩
      unfold deserialize at hok
      rw [make_eq, SomeIpMessage.deserialize_undefined h12 h16] at hok
      cases hok
    rcases header_cases p hlength with hthrow | ⟨entriesLength, hheader⟩
    · exact absurd hok (not_ok_of_throwsOutOfRange hthrow message)
    have hle := hheader.2.length_le
    rw [bytes32_length] at hle
    obtain ⟨base, rebooted, hd⟩ := deserialize_header hheader
    rw [hd] at hok
    rcases deserializeEntries_cases p.length 24
      (28 + entriesLength.toNat) [] hle (by omega) with ⟨what, hw⟩ | hrejected | ⟨a, o, hclean⟩
    · rw [hw] at hok
      cases hok
    · obtain ⟨what, hw⟩ := deserializeEntries_rejected hrejected p.length [] (by omega)
      rw [hw] at hok
      cases hok
    · exact ⟨entriesLength, a, o, hheader, hclean⟩
  · rintro ⟨entriesLength, a, o, hheader, hclean⟩
    have hle := hheader.2.length_le
    obtain ⟨base, rebooted, hd⟩ := deserialize_header hheader
    obtain ⟨entries, hok, -, -⟩ := deserializeEntries_clean hclean p.length [] (by omega)
    rw [hok] at hd
    exact ⟨_, hd⟩

/-! ## Three byte strings that are not decoded as promised -/

/-- The checked header fields and nothing behind them. -/
def cutHeader : Bytes := [255, 255, 129, 0, 0, 0, 0, 20, 0, 0, 0, 1]

/-- An SD header with no entries and no options length. -/
def withoutOptionsLength : Bytes :=
  [255, 255, 129, 0, 0, 0, 0, 20, 0, 0, 0, 1, 1, 1, 2, 0, 192, 0, 0, 0, 0, 0, 0, 0]

/-- A find entry whose TTL is zero. -/
def findWithoutTtl : Bytes :=
  [255, 255, 129, 0, 0, 0, 0, 36, 0, 0, 0, 1, 1, 1, 2, 0, 192, 0, 0, 0, 0, 0, 0, 16] ++
    [0, 0, 0, 0, 18, 52, 0, 1, 1, 0, 0, 0, 0, 0, 0, 2] ++ [0, 0, 0, 0]

theorem not_decodesSafely :
    deserialize cutHeader = .error .undefined ∧ ¬ DecodesSafely cutHeader ∧
      ¬ DecodesSafely withoutOptionsLength ∧ ¬ DecodesSafely findWithoutTtl := by
  have hcut : deserialize cutHeader = .error .undefined := rfl
  have haccepted : deserialize withoutOptionsLength =
      .ok ⟨⟨cMessageId, 0, 1, 1, 1, .notification, .eOK⟩, true, []⟩ := rfl
  have hfind : deserialize findWithoutTtl =
      .error (.thrown (.invalidArgument "TTL cannot be zero.")) := rfl
  refine ⟨hcut, ?_, ?_, not_decodesSafely_of_invalidArgument ⟨_, hfind⟩⟩
  · rintro (⟨what, hw⟩ | ⟨message, e, o, hok, -⟩)
    · rw [hcut] at hw
      cases hw
    · rw [hcut] at hok
      cases hok
  · rintro (⟨what, hw⟩ | ⟨message, e, o, hok, hwell⟩)
    · rw [haccepted] at hw
      cases hw
    · have hle := hwell.options_fit
      have hl : withoutOptionsLength.length = 24 := rfl
      omega

end SomeIpSdMessage

end AdaptiveAutosar.Com
