import Mathlib.Data.List.Induction
import AdaptiveAutosar.Com.Sd.Message

/-! # A service discovery message is read back as it was written

The two arrays `Payload` builds are the records of the entries and of their options in order. The
reader walks both at once; at the `k`-th entry its cursors stand where the writer stood.
-/

namespace AdaptiveAutosar.Com
open Foundations Foundations.BigEndian
set_option autoImplicit false

namespace SomeIpSdMessage

/-! ## The two arrays -/

/-- The records of all options of an entry. -/
def optionRecords (entry : AnyEntry) : Bytes := entry.options.flatMap EntryOption.payload

/-- The records of entries that begin with the given option index. An entry moves the index twice
past its options. -/
def entryRecords : List AnyEntry → UInt8 → Bytes
  | [], _ => []
  | entry :: entries, index =>
    (entry.payload index).1 ++ entryRecords entries (index + UInt8.ofNat (2 * entry.options.length))

def optionsCount (entries : List AnyEntry) : ℕ := (entries.map (fun entry => entry.options.length)).sum

theorem foldl_appendOption (options : List EntryOption) (serial : Serial) :
    options.foldl appendOption serial =
      ⟨serial.lastOptionIndex + UInt8.ofNat options.length, serial.entriesPayload,
        serial.optionsPayload ++ options.flatMap EntryOption.payload⟩ := by
  induction options generalizing serial with
  | nil => simp
  | cons option options ih =>
    rw [List.foldl_cons, ih]
    have hindex : serial.lastOptionIndex + 1 + UInt8.ofNat options.length =
        serial.lastOptionIndex + UInt8.ofNat (options.length + 1) := by
      apply UInt8.toNat_inj.mp
      simp only [UInt8.toNat_add, UInt8.toNat_ofNat', UInt8.reduceToNat]
      omega
    simp only [appendOption, List.flatMap_cons, List.append_assoc, List.length_cons, hindex]

theorem appendEntry_eq (serial : Serial) (entry : AnyEntry) :
    appendEntry serial entry =
      ⟨serial.lastOptionIndex + UInt8.ofNat (2 * entry.options.length),
        serial.entriesPayload ++ (entry.payload serial.lastOptionIndex).1,
        serial.optionsPayload ++ optionRecords entry⟩ := by
  have hindex : serial.lastOptionIndex + entry.firstOptionsSize + entry.secondOptionsSize +
      UInt8.ofNat entry.toEntry.firstOptions.length + UInt8.ofNat entry.toEntry.secondOptions.length =
      serial.lastOptionIndex + UInt8.ofNat (2 * entry.options.length) := by
    apply UInt8.toNat_inj.mp
    simp only [AnyEntry.firstOptionsSize, AnyEntry.secondOptionsSize, AnyEntry.options,
      UInt8.toNat_add, UInt8.toNat_ofNat', List.length_append]
    omega
  simp only [appendEntry, foldl_appendOption, AnyEntry.payload_index, hindex, optionRecords,
    AnyEntry.options, List.flatMap_append, List.append_assoc]

theorem foldl_appendEntry (entries : List AnyEntry) (serial : Serial) :
    entries.foldl appendEntry serial =
      ⟨serial.lastOptionIndex + UInt8.ofNat (2 * optionsCount entries),
        serial.entriesPayload ++ entryRecords entries serial.lastOptionIndex,
        serial.optionsPayload ++ entries.flatMap optionRecords⟩ := by
  induction entries generalizing serial with
  | nil => simp [optionsCount, entryRecords]
  | cons entry entries ih =>
    rw [List.foldl_cons, ih, appendEntry_eq]
    have hindex : serial.lastOptionIndex + UInt8.ofNat (2 * entry.options.length) +
        UInt8.ofNat (2 * optionsCount entries) =
        serial.lastOptionIndex + UInt8.ofNat (2 * optionsCount (entry :: entries)) := by
      apply UInt8.toNat_inj.mp
      simp only [optionsCount, List.map_cons, List.sum_cons, UInt8.toNat_add, UInt8.toNat_ofNat']
      omega
    simp only [hindex, entryRecords, List.flatMap_cons, List.append_assoc]

theorem entryRecords_length (entries : List AnyEntry) (index : UInt8) :
    (entryRecords entries index).length = 16 * entries.length := by
  induction entries generalizing index with
  | nil => rfl
  | cons entry entries ih =>
    rw [entryRecords, List.length_append, AnyEntry.payload_length, ih, List.length_cons]
    omega

/-- The flag word as it is written. -/
def rebootFlag (message : SomeIpSdMessage) : UInt32 :=
  if message.rebooted then cRebootedFlag else cNotRebootedFlag

theorem payload_eq (message : SomeIpSdMessage) :
    message.payload = message.toSomeIpMessage.payload message.length ++
      (bytes32 message.rebootFlag ++ (bytes32 message.getEntriesLength ++
        (entryRecords message.entries 0 ++ (bytes32 message.getOptionsLength ++
          message.entries.flatMap optionRecords)))) := by
  unfold payload
  simp only [foldl_appendEntry, injectInteger, rebootFlag, List.append_assoc, List.nil_append]

/-! ## The length fields -/

theorem addOptionLength_eq (result : UInt32) (option : EntryOption) (h : option.IsOwn) :
    addOptionLength result option = result + UInt32.ofNat option.payload.length := by
  apply UInt32.toNat_inj.mp
  have hl := option.length.toNat_lt
  simp only [addOptionLength, UInt32.toNat_add, UInt32.toNat_ofNat', UInt16.toNat_toUInt32,
    UInt32.reduceToNat, option.payload_length h]

theorem foldl_addOptionLength (options : List EntryOption) (result : UInt32)
    (h : ∀ option ∈ options, option.IsOwn) :
    options.foldl addOptionLength result =
      result + UInt32.ofNat (options.flatMap EntryOption.payload).length := by
  induction options generalizing result with
  | nil => simp
  | cons option options ih =>
    rw [List.foldl_cons, ih _ (fun o ho => h o (List.mem_cons_of_mem _ ho)),
      addOptionLength_eq _ _ (h option List.mem_cons_self)]
    apply UInt32.toNat_inj.mp
    simp only [List.flatMap_cons, List.length_append, UInt32.toNat_add, UInt32.toNat_ofNat']
    omega

theorem getOptionsLength_eq (message : SomeIpSdMessage)
    (h : ∀ entry ∈ message.entries, ∀ option ∈ entry.options, option.IsOwn) :
    message.getOptionsLength = UInt32.ofNat (message.entries.flatMap optionRecords).length := by
  have hfold : ∀ (entries : List AnyEntry) (result : UInt32),
      (∀ entry ∈ entries, ∀ option ∈ entry.options, option.IsOwn) →
      entries.foldl (fun result entry => entry.toEntry.secondOptions.foldl addOptionLength
        (entry.toEntry.firstOptions.foldl addOptionLength result)) result =
        result + UInt32.ofNat (entries.flatMap optionRecords).length := by
    intro entries
    induction entries with
    | nil => intro result _; simp
    | cons entry entries ih =>
      intro result hown
      have hentry : ∀ option ∈ entry.options, option.IsOwn := hown entry List.mem_cons_self
      rw [List.foldl_cons, ih _ (fun e he => hown e (List.mem_cons_of_mem _ he)),
        foldl_addOptionLength _ _ (fun o ho => hentry o (List.mem_append_right _ ho)),
        foldl_addOptionLength _ _ (fun o ho => hentry o (List.mem_append_left _ ho))]
      apply UInt32.toNat_inj.mp
      simp only [List.flatMap_cons, optionRecords, AnyEntry.options, List.flatMap_append,
        List.length_append, UInt32.toNat_add, UInt32.toNat_ofNat']
      omega
  have h0 := hfold message.entries 0 h
  rw [UInt32.zero_add] at h0
  exact h0

theorem getEntriesLength_eq (message : SomeIpSdMessage) :
    message.getEntriesLength = UInt32.ofNat (16 * message.entries.length) := by
  apply UInt32.toNat_inj.mp
  simp only [getEntriesLength, UInt32.toNat_mul, UInt32.toNat_ofNat', UInt32.reduceToNat]
  omega

theorem payload_length (message : SomeIpSdMessage) :
    message.payload.length = 28 + 16 * message.entries.length +
      (message.entries.flatMap optionRecords).length := by
  rw [payload_eq]
  simp only [List.length_append, bytes32_length, SomeIpMessage.payload_length, entryRecords_length]
  omega

theorem length_eq (message : SomeIpSdMessage)
    (hown : ∀ entry ∈ message.entries, ∀ option ∈ entry.options, option.IsOwn)
    (hsize : message.payload.length < 2 ^ 32) :
    message.length.toNat + 8 = message.payload.length := by
  have hl := message.payload_length
  rw [hl] at hsize
  simp only [length, getEntriesLength_eq, getOptionsLength_eq message hown, UInt32.toNat_add,
    UInt32.toNat_ofNat', UInt32.reduceToNat, hl]
  omega

/-! ## Reading the options of an entry -/

theorem deserializeOptions_yields (add : AnyEntry → EntryOption → Outcome AnyEntry)
    (options : List EntryOption) (entry entry' : AnyEntry) (hown : ∀ option ∈ options, option.IsOwn)
    (hadd : options.foldlM add entry = .ok entry') :
    (deserializeOptions add options.length entry).Yields (options.flatMap EntryOption.payload)
      (.ok entry') := by
  induction options generalizing entry with
  | nil =>
    simp only [List.foldlM_nil] at hadd
    cases hadd
    exact Cursor.Yields.pure _
  | cons option options ih =>
    rw [List.foldlM_cons] at hadd
    obtain ⟨next, hnext, hrest⟩ := bind_eq_ok.mp hadd
    have hread := OptionDeserializer.deserialize_payload option (hown option List.mem_cons_self)
    have htail := ih next (fun o ho => hown o (List.mem_cons_of_mem _ ho)) hrest
    have hlift := Cursor.Yields.lift (β := UInt8) (add entry option)
    rw [hnext] at hlift
    rw [List.length_cons, List.flatMap_cons, deserializeOptions]
    refine hread.bind ?_
    rw [hnext]
    exact hlift.bind htail

theorem foldlM_addFirstOption (entry : AnyEntry) (added options : List EntryOption)
    (hallow : ∀ option ∈ options, entry.Allows option.type = true)
    (hcompatible : (added ++ options).Pairwise AnyEntry.Compatible) :
    options.foldlM AnyEntry.addFirstOption (entry.withOptions added []) =
      .ok (entry.withOptions (added ++ options) []) := by
  induction options generalizing added with
  | nil => simp only [List.foldlM_nil, List.append_nil]; rfl
  | cons option options ih =>
    have hv : (entry.withOptions added []).validateOption option.type = true := by
      refine (AnyEntry.validateOption_iff _ _).mpr ⟨?_, ?_⟩
      · rw [AnyEntry.withOptions_allows]
        exact hallow option List.mem_cons_self
      · intro o ho
        rw [AnyEntry.withOptions_options, List.append_nil] at ho
        have h := (List.pairwise_append.mp hcompatible).2.2 o ho option List.mem_cons_self
        exact h.symm
    have hstep := AnyEntry.addFirstOption_eq_ok.mpr ⟨hv, rfl⟩
    rw [AnyEntry.withOptions_firstOptions, AnyEntry.withOptions_secondOptions,
      AnyEntry.withOptions_withOptions] at hstep
    rw [List.append_cons] at hcompatible ⊢
    rw [List.foldlM_cons, hstep]
    exact ih (added ++ [option]) (fun o ho => hallow o (List.mem_cons_of_mem _ ho)) hcompatible

theorem foldlM_addSecondOption (entry : AnyEntry) (first added options : List EntryOption)
    (hallow : ∀ option ∈ options, entry.Allows option.type = true)
    (hcompatible : (first ++ (added ++ options)).Pairwise AnyEntry.Compatible) :
    options.foldlM AnyEntry.addSecondOption (entry.withOptions first added) =
      .ok (entry.withOptions first (added ++ options)) := by
  induction options generalizing added with
  | nil => simp only [List.foldlM_nil, List.append_nil]; rfl
  | cons option options ih =>
    have hv : (entry.withOptions first added).validateOption option.type = true := by
      refine (AnyEntry.validateOption_iff _ _).mpr ⟨?_, ?_⟩
      · rw [AnyEntry.withOptions_allows]
        exact hallow option List.mem_cons_self
      · intro o ho
        rw [AnyEntry.withOptions_options] at ho
        rw [← List.append_assoc] at hcompatible
        have h := (List.pairwise_append.mp hcompatible).2.2 o ho option List.mem_cons_self
        exact h.symm
    have hstep := AnyEntry.addSecondOption_eq_ok.mpr ⟨hv, rfl⟩
    rw [AnyEntry.withOptions_firstOptions, AnyEntry.withOptions_secondOptions,
      AnyEntry.withOptions_withOptions] at hstep
    rw [List.append_cons] at hcompatible ⊢
    rw [List.foldlM_cons, hstep]
    exact ih (added ++ [option]) (fun o ho => hallow o (List.mem_cons_of_mem _ ho)) hcompatible

/-! ## Reading the entries -/

/-- What the reader needs of an entry to give it back. -/
structure Readable (entry : AnyEntry) : Prop where
  admitted : entry.Admitted
  ttl_lt : entry.toEntry.ttl.toNat < 2 ^ 24
  first_le : entry.toEntry.firstOptions.length ≤ 15
  second_le : entry.toEntry.secondOptions.length ≤ 15
  own : ∀ option ∈ entry.options, option.IsOwn

theorem Readable.options {entry : AnyEntry} (h : Readable entry) :
    entry.toEntry.firstOptions.foldlM AnyEntry.addFirstOption entry.bare =
        .ok (entry.withOptions entry.toEntry.firstOptions []) ∧
      entry.toEntry.secondOptions.foldlM AnyEntry.addSecondOption
        (entry.withOptions entry.toEntry.firstOptions []) = .ok entry := by
  have hc := h.admitted.compatible
  have hfirst := foldlM_addFirstOption entry [] entry.toEntry.firstOptions
    (fun o ho => h.admitted.allowed o (List.mem_append_left _ ho))
    (List.pairwise_append.mp hc).1
  have hsecond := foldlM_addSecondOption entry entry.toEntry.firstOptions []
    entry.toEntry.secondOptions (fun o ho => h.admitted.allowed o (List.mem_append_right _ ho)) hc
  rw [List.nil_append, AnyEntry.withOptions_self] at hsecond
  exact ⟨hfirst, hsecond⟩

/-- The loop reads off the entries it has both cursors in front of. -/
theorem deserializeEntries_records (buffer : Bytes) (entries done : List AnyEntry) (index : UInt8)
    (rounds entryOffset optionOffset : ℕ) (hrounds : entries.length ≤ rounds)
    (hentries : Cursor.HoldsAt buffer entryOffset (entryRecords entries index))
    (hoptions : Cursor.HoldsAt buffer optionOffset (entries.flatMap optionRecords))
    (hreadable : ∀ entry ∈ entries, Readable entry) :
    deserializeEntries buffer (entryOffset + 16 * entries.length) rounds entryOffset optionOffset done =
      .ok (done ++ entries) := by
  induction entries generalizing done index rounds entryOffset optionOffset with
  | nil =>
    have hend : ¬ entryOffset < entryOffset + 16 * 0 := by omega
    cases rounds with
    | zero => simp only [deserializeEntries, List.length_nil, hend, if_false, List.append_nil]
    | succ rounds => simp only [deserializeEntries, List.length_nil, hend, if_false, List.append_nil]
  | cons entry entries ih =>
    obtain ⟨rounds, rfl⟩ : ∃ r, rounds = r + 1 := ⟨rounds - 1, by
      rw [List.length_cons] at hrounds; omega⟩
    have hentry := hreadable entry List.mem_cons_self
    obtain ⟨hrec, hrecs⟩ := hentries.append
    rw [List.flatMap_cons] at hoptions
    obtain ⟨hopt, hopts⟩ := hoptions.append
    have hsplit : optionRecords entry = entry.toEntry.firstOptions.flatMap EntryOption.payload ++
        entry.toEntry.secondOptions.flatMap EntryOption.payload := List.flatMap_append
    rw [hsplit] at hopt
    obtain ⟨hopt1, hopt2⟩ := hopt.append
    obtain ⟨hadd1, hadd2⟩ := hentry.options
    -- the record, then its first options, then its second ones
    have hread := (AnyEntry.deserialize_payload entry index hentry.admitted.sound hentry.ttl_lt
      hentry.first_le hentry.second_le).at hrec
    have hread1 := (deserializeOptions_yields AnyEntry.addFirstOption _ _ _
      (fun o ho => hentry.own o (List.mem_append_left _ ho)) hadd1).at hopt1
    have hread2 := (deserializeOptions_yields AnyEntry.addSecondOption _ _ _
      (fun o ho => hentry.own o (List.mem_append_right _ ho)) hadd2).at hopt2
    rw [← AnyEntry.size_nibble hentry.first_le] at hread1
    rw [← AnyEntry.size_nibble hentry.second_le] at hread2
    have hlt : entryOffset < entryOffset + 16 * (entry :: entries).length := by
      rw [List.length_cons]; omega
    rw [AnyEntry.payload_length] at hread hrecs
    rw [hsplit, List.length_append, ← Nat.add_assoc] at hopts
    have hmax : entryOffset + 16 * (entry :: entries).length =
        entryOffset + 16 + 16 * entries.length := by
      rw [List.length_cons]; omega
    have hih := ih (done ++ [entry]) _ rounds (entryOffset + 16) _
      (by rw [List.length_cons] at hrounds; omega) hrecs hopts
      (fun e he => hreadable e (List.mem_cons_of_mem _ he))
    rw [deserializeEntries, if_pos hlt, hread]
    simp only [Except.map, bind, Except.bind, AnyEntry.firstOptionsSize, AnyEntry.secondOptionsSize]
    rw [hread1]
    simp only [Except.map]
    rw [hread2]
    simp only [Except.map]
    rw [hmax, hih, List.append_assoc]
    rfl

/-- Reading a written message gives it back, whatever follows it in the buffer. -/
theorem deserialize_append (message : SomeIpSdMessage) (rest : Bytes)
    (hreadable : ∀ entry ∈ message.entries, Readable entry)
    (hsize : message.payload.length < 2 ^ 32) :
    deserialize (message.payload ++ rest) = .ok message := by
  have hl := message.payload_length
  have hheader := SomeIpMessage.deserialize_append message.toSomeIpMessage message.length
    (bytes32 message.rebootFlag ++ (bytes32 message.getEntriesLength ++
      (entryRecords message.entries 0 ++ (bytes32 message.getOptionsLength ++
        message.entries.flatMap optionRecords))) ++ rest)
  rw [← List.append_assoc, ← payload_eq] at hheader
  have hall : Cursor.HoldsAt (message.payload ++ rest) 0 message.payload :=
    ⟨[], rest, List.nil_append _ ▸ rfl, rfl⟩
  nth_rewrite 2 [payload_eq] at hall
  obtain ⟨-, hall⟩ := hall.append
  obtain ⟨hflag, hall⟩ := hall.append
  obtain ⟨hlen, hall⟩ := hall.append
  obtain ⟨hentries, hall⟩ := hall.append
  obtain ⟨-, hoptions⟩ := hall.append
  rw [SomeIpMessage.payload_length, Nat.zero_add] at hflag hlen hentries hoptions
  simp only [bytes32_length, entryRecords_length, Nat.reduceAdd] at hlen hentries hoptions
  have hflag' := (extractInteger_bytes32 message.rebootFlag).at hflag
  have hlen' := (extractInteger_bytes32 message.getEntriesLength).at hlen
  have hreboot : rebootedOf message.rebootFlag = .ok message.rebooted := by
    unfold rebootFlag
    cases message.rebooted <;> rfl
  have hlength : message.getEntriesLength.toNat = 16 * message.entries.length := by
    rw [getEntriesLength_eq, UInt32.toNat_ofNat']
    omega
  have hmax : (UInt32.ofNat (24 + 16 * message.entries.length)).toNat =
      24 + 16 * message.entries.length := by
    rw [UInt32.toNat_ofNat']
    omega
  have hrounds : message.entries.length ≤ (message.payload ++ rest).length := by
    rw [List.length_append]
    omega
  have hloop := deserializeEntries_records (message.payload ++ rest) message.entries [] 0
    (message.payload ++ rest).length 24 (24 + 16 * message.entries.length + 4) hrounds hentries
    hoptions hreadable
  rw [List.nil_append] at hloop
  unfold deserialize
  rw [make_eq, hheader]
  simp only [bind, Except.bind, cSomeIpSdPduOffset, cOptionsLengthFieldSize]
  rw [hflag']
  simp only [Except.map, bytes32_length, Nat.reduceAdd]
  rw [hreboot]
  simp only
  rw [hlen']
  simp only [Except.map, bytes32_length, Nat.reduceAdd, hlength, hmax]
  rw [hloop]
  rfl

/-! ## Messages of the public API -/

theorem deserializeOptions_built {add : AnyEntry → EntryOption → Outcome AnyEntry}
    (hadd : ∀ entry option entry', entry.Built → add entry option = .ok entry' → entry'.Built) (n : ℕ)
    {entry entry' : AnyEntry} {buffer : Bytes} {offset offset' : ℕ} (hentry : entry.Built)
    (h : deserializeOptions add n entry buffer offset = .ok (entry', offset')) : entry'.Built := by
  induction n generalizing entry offset with
  | zero =>
    cases h
    exact hentry
  | succ n ih =>
    obtain ⟨option, o1, -, h⟩ := Cursor.bind_ok_inv h
    obtain ⟨next, o2, hlift, h⟩ := Cursor.bind_ok_inv h
    have hnext : add entry option = .ok next := by
      cases ha : add entry option with
      | error e =>
        simp only [Cursor.lift, ha, Except.map] at hlift
        cases hlift
      | ok a =>
        simp only [Cursor.lift, ha, Except.map] at hlift
        cases hlift
        rfl
    exact ih (hadd entry option next hentry hnext) h

theorem deserializeEntries_built {buffer : Bytes} {entryOffsetMax rounds entryOffset optionOffset : ℕ}
    {done entries : List AnyEntry} (hdone : ∀ entry ∈ done, entry.Built)
    (h : deserializeEntries buffer entryOffsetMax rounds entryOffset optionOffset done = .ok entries) :
    ∀ entry ∈ entries, entry.Built := by
  induction rounds generalizing entryOffset optionOffset done with
  | zero =>
    by_cases hlt : entryOffset < entryOffsetMax
    · simp [deserializeEntries, hlt] at h
    · simp only [deserializeEntries, hlt, if_false] at h
      cases h
      exact hdone
  | succ rounds ih =>
    by_cases hlt : entryOffset < entryOffsetMax
    · rw [deserializeEntries, if_pos hlt] at h
      obtain ⟨⟨⟨entry, n1, n2⟩, o1⟩, hentry, h⟩ := bind_eq_ok.mp h
      obtain ⟨⟨entry1, o2⟩, h1, h⟩ := bind_eq_ok.mp h
      obtain ⟨⟨entry2, o3⟩, h2, h⟩ := bind_eq_ok.mp h
      have hb1 := deserializeOptions_built (fun _ _ _ => AnyEntry.Built.addFirstOption) _
        (AnyEntry.Built.deserialized hentry) h1
      have hb2 := deserializeOptions_built (fun _ _ _ => AnyEntry.Built.addSecondOption) _ hb1 h2
      refine ih ?_ h
      intro e he
      rcases List.mem_append.mp he with he | he
      · exact hdone e he
      · rw [List.mem_singleton.mp he]
        exact hb2
    · simp only [deserializeEntries, hlt, if_false] at h
      cases h
      exact hdone

theorem Built.entries {message : SomeIpSdMessage} (h : Built message) :
    ∀ entry ∈ message.entries, entry.Built := by
  induction h with
  | make h =>
    rw [make_eq] at h
    cases h
    simp
  | addEntry _ he ih =>
    intro e hmem
    rcases List.mem_append.mp hmem with hmem | hmem
    · exact ih e hmem
    · rw [List.mem_singleton.mp hmem]
      exact he
  | @setSessionId message message' sessionId _ h ih =>
    by_cases h0 : sessionId = 0
    · simp [SomeIpSdMessage.setSessionId, h0] at h
    · simp only [SomeIpSdMessage.setSessionId, h0, if_false, Except.ok.injEq] at h
      rw [← h]
      exact ih
  | incrementSessionId _ ih => exact ih
  | deserialize h =>
    obtain ⟨result, hmake, h⟩ := bind_eq_ok.mp h
    rw [make_eq] at hmake
    cases hmake
    obtain ⟨base, -, h⟩ := bind_eq_ok.mp h
    obtain ⟨⟨flag, o1⟩, -, h⟩ := bind_eq_ok.mp h
    obtain ⟨rebooted, -, h⟩ := bind_eq_ok.mp h
    obtain ⟨⟨len, o2⟩, -, h⟩ := bind_eq_ok.mp h
    obtain ⟨entries, hentries, h⟩ := bind_eq_ok.mp h
    cases h
    refine deserializeEntries_built ?_ hentries
    simp

/-- Reading undoes writing, and the length field counts what stands behind it. -/
theorem deserialize_payload_append (message : SomeIpSdMessage) (rest : Bytes) (hbuilt : message.Built)
    (hsize : message.payload.length < 2 ^ 32)
    (httl : ∀ entry ∈ message.entries, entry.toEntry.ttl.toNat < 2 ^ 24)
    (hfirst : ∀ entry ∈ message.entries, entry.toEntry.firstOptions.length ≤ 15)
    (hsecond : ∀ entry ∈ message.entries, entry.toEntry.secondOptions.length ≤ 15)
    (hown : ∀ entry ∈ message.entries, ∀ option ∈ entry.options, option.IsOwn) :
    deserialize (message.payload ++ rest) = .ok message ∧
      message.length.toNat = message.payload.length - 8 := by
  have hreadable : ∀ entry ∈ message.entries, Readable entry := fun entry he =>
    ⟨(hbuilt.entries entry he).admitted, httl entry he, hfirst entry he, hsecond entry he,
      hown entry he⟩
  have hlength := length_eq message hown hsize
  refine ⟨deserialize_append message rest hreadable hsize, ?_⟩
  omega

/-! ## A message with both kinds of entries and three kinds of options -/

def sampleEndpoint : EntryOption :=
  .ipv4Endpoint (Ipv4EndpointOption.createUnitcastEndpoint true ⟨192, 168, 0, 1⟩ .tcp 8080)

def sampleMulticast : EntryOption :=
  .ipv4Endpoint ⟨.iPv4Multicast, false, ⟨224, 0, 0, 1⟩, .udp, 5555, by decide⟩

def sampleService : AnyEntry := .service (ServiceEntry.make .offering 0x1234 1 0xffffff 1 2)

def sampleOffer : AnyEntry := sampleService.withOptions [sampleEndpoint] [.loadBalancing ⟨false, 1, 2⟩]

def sampleEventgroup (type : EntryType) : EventgroupEntry :=
  { toEntry := Entry.make type 0x1234 1 0xffffff 1, counter := 3, eventgroupId := 7,
    counter_le := by decide }

def sampleAcknowledge : AnyEntry :=
  (AnyEntry.eventgroup (sampleEventgroup .acknowledging)).withOptions [sampleMulticast] []

def messageWith (entries : List AnyEntry) : SomeIpSdMessage :=
  { messageId := cMessageId, clientId := cClientId, sessionId := 1,
    protocolVersion := cProtocolVersion, interfaceVersion := cInterfaceVersion,
    messageType := cMessageType, returnCode := .eOK, rebooted := true, entries }

theorem messageWith_built {entries : List AnyEntry} (h : ∀ entry ∈ entries, entry.Built) :
    (messageWith entries).Built := by
  induction entries using List.reverseRecOn with
  | nil => exact .make rfl
  | append_singleton entries entry ih =>
    have hinit := ih fun e he => h e (List.mem_append_left _ he)
    exact hinit.addEntry (h entry (List.mem_append_right _ List.mem_cons_self))

theorem sampleOffer_built : sampleOffer.Built := by
  have hmake : ServiceEntry.createOfferServiceEntry 0x1234 1 1 2 0xffffff =
      .ok (ServiceEntry.make .offering 0x1234 1 0xffffff 1 2) := rfl
  have hfirst : sampleService.addFirstOption sampleEndpoint =
      .ok (sampleService.withOptions [sampleEndpoint] []) := rfl
  have hsecond : (sampleService.withOptions [sampleEndpoint] []).addSecondOption
      (.loadBalancing ⟨false, 1, 2⟩) = .ok sampleOffer := rfl
  exact .addSecondOption (.addFirstOption (.offerService hmake) hfirst) hsecond

theorem sampleAcknowledge_built : sampleAcknowledge.Built := by
  have hsubscribe : EventgroupEntry.createSubscribeEventEntry 0x1234 1 1 3 7 =
      .ok (sampleEventgroup .subscribing) := rfl
  have hack : EventgroupEntry.createAcknowledgeEntry (sampleEventgroup .subscribing) =
      .ok (sampleEventgroup .acknowledging) := rfl
  have hadd : (AnyEntry.eventgroup (sampleEventgroup .acknowledging)).addFirstOption sampleMulticast =
      .ok sampleAcknowledge := rfl
  exact .addFirstOption (.acknowledge (.subscribeEvent hsubscribe) hack) hadd

def sampleMessage : SomeIpSdMessage := messageWith [sampleOffer, sampleAcknowledge]

theorem sampleMessage_built : sampleMessage.Built := by
  refine messageWith_built fun entry h => ?_
  rcases List.mem_pair.mp h with rfl | rfl
  · exact sampleOffer_built
  · exact sampleAcknowledge_built

theorem deserialize_payload_append_sample :
    deserialize (sampleMessage.payload ++ [0, 0, 0]) = .ok sampleMessage ∧
      sampleMessage.length.toNat = sampleMessage.payload.length - 8 :=
  deserialize_payload_append sampleMessage [0, 0, 0] sampleMessage_built (by decide) (by decide)
    (by decide) (by decide) (by decide)

end SomeIpSdMessage

end AdaptiveAutosar.Com
