import AdaptiveAutosar.Foundations.Crc
import AdaptiveAutosar.Foundations.Cursor

/-! # End-to-end protection

`ara::com::e2e::Profile11`: a message is its CRC, its counter and its data. `Check` decides by the CRC
whether the message is as it was sent and by the counter whether it is a new one.
-/

namespace AdaptiveAutosar.Com.E2E
open Foundations
set_option autoImplicit false

inductive CheckStatusType where
  | kOk
  | kWrongCrc
  | kRepeated
  | kNoNewData
  | kWrongSequence
  deriving DecidableEq, Repr

abbrev CrcTable := Vector UInt8 256

def cCounterMax : UInt8 := 0x0e

structure Profile11 where
  mProtectingCounter : UInt8
  mCheckingCounter : UInt8
  deriving DecidableEq, Repr

namespace Profile11

def make : Profile11 := ⟨0, 0⟩

/-! ## The CRC -/

/-- A round of the inner loop of `initializeCrcTable`. -/
def shiftCrc (crcPoly crc : UInt8) : UInt8 :=
  if crc &&& 0x80 ≠ 0 then (crc <<< 1) ^^^ crcPoly else crc <<< 1

def initializeCrcTable (crcPoly : UInt8) : CrcTable :=
  Vector.ofFn fun i : Fin 256 => (shiftCrc crcPoly)^[8] (UInt8.ofNat i)

/-- The table that the first profile constructed builds for all of them. -/
def mCrcTable : CrcTable := initializeCrcTable 0x1d

def calculateCrc (table : CrcTable) (data : Bytes) (offset : ℕ) : UInt8 :=
  ~~~ (data.drop offset).foldl
    (fun result element => table.get ⟨(result ^^^ element).toNat, (result ^^^ element).toNat_lt⟩) 0xff

/-- The bits of some bytes in the order they are sent in. -/
def bitsOf (data : Bytes) : List Bool := (data.map UInt8.toBitVec).flatMap Crc.bits

theorem top_bit (crc : BitVec 8) : (crc &&& 0x80#8 ≠ 0#8) ↔ crc.msb = true := by
  revert crc
  decide +kernel

theorem shiftCrc_toBitVec (crcPoly crc : UInt8) :
    (shiftCrc crcPoly crc).toBitVec = Crc.shift crcPoly.toBitVec crc.toBitVec := by
  have set_iff : crc &&& 0x80 ≠ 0 ↔ crc.toBitVec.msb = true := by
    rw [← top_bit, ne_eq, ← UInt8.toBitVec_inj]
    rfl
  unfold shiftCrc Crc.shift Crc.step
  rw [Bool.xor_false]
  by_cases set : crc &&& 0x80 ≠ 0
  · rw [if_pos set, if_pos (set_iff.mp set)]
    rfl
  · rw [if_neg set, if_neg (fun high => set (set_iff.mpr high))]
    rfl

theorem iterate_shiftCrc_toBitVec (crcPoly crc : UInt8) (rounds : ℕ) :
    ((shiftCrc crcPoly)^[rounds] crc).toBitVec = (Crc.shift crcPoly.toBitVec)^[rounds] crc.toBitVec := by
  induction rounds with
  | zero => rfl
  | succ rounds ih =>
    rw [Function.iterate_succ_apply', Function.iterate_succ_apply', shiftCrc_toBitVec, ih]

/-- The table holds for every byte what eight shifts make of it. -/
theorem get_initializeCrcTable (crcPoly byte : UInt8) :
    ((initializeCrcTable crcPoly).get ⟨byte.toNat, byte.toNat_lt⟩).toBitVec =
      (Crc.shift crcPoly.toBitVec)^[8] byte.toBitVec := by
  have inside : byte.toNat < 256 := byte.toNat_lt
  rw [← iterate_shiftCrc_toBitVec]
  show (Vector.ofFn fun i : Fin 256 => (shiftCrc crcPoly)^[8] (UInt8.ofNat i))[byte.toNat].toBitVec = _
  rw [Vector.getElem_ofFn]
  exact congrArg (fun index => ((shiftCrc crcPoly)^[8] index).toBitVec) UInt8.ofNat_toNat

theorem fold_toBitVec (crcPoly result : UInt8) (data : Bytes) :
    (data.foldl (fun result element => (initializeCrcTable crcPoly).get
      ⟨(result ^^^ element).toNat, (result ^^^ element).toNat_lt⟩) result).toBitVec =
      Crc.feed crcPoly.toBitVec result.toBitVec (bitsOf data) := by
  rw [bitsOf, Crc.feed_words]
  induction data generalizing result with
  | nil => rfl
  | cons element rest ih =>
    rw [List.foldl_cons, ih, get_initializeCrcTable, UInt8.toBitVec_xor]
    rfl

/-- What the table computes is the CRC with its polynomial. -/
theorem calculateCrc_toBitVec (crcPoly : UInt8) (data : Bytes) (offset : ℕ) :
    (calculateCrc (initializeCrcTable crcPoly) data offset).toBitVec =
      Crc.crc crcPoly.toBitVec 0xff 0xff (bitsOf (data.drop offset)) := by
  rw [calculateCrc, UInt8.toBitVec_not, fold_toBitVec]
  exact BitVec.xor_allOnes.symm

theorem calculateCrc_eq_crc8 (data : Bytes) (offset : ℕ) :
    (calculateCrc (initializeCrcTable 0x1d) data offset).toBitVec =
      Crc.crc 0x1d#8 0xff#8 0xff#8 (bitsOf (data.drop offset)) :=
  calculateCrc_toBitVec 0x1d data offset

/-! ## Protecting and checking -/

def nextCounter (protectingCounter : UInt8) : UInt8 :=
  if protectingCounter < cCounterMax then protectingCounter + 1 else 0

def tryProtect (profile : Profile11) (unprotectedData : Bytes) : Option Bytes × Profile11 :=
  if 0 < unprotectedData.length then
    let counter := nextCounter profile.mProtectingCounter
    let counted := (counter ||| 0xf0) :: unprotectedData
    (some (calculateCrc mCrcTable counted 0 :: counted), { profile with mProtectingCounter := counter })
  else (none, profile)

def tryForward (_profile : Profile11) (_unprotectedData : Bytes) : Outcome (Option Bytes × Profile11) :=
  .error (.thrown (.logicError "The function is not implemented!"))

/-- What `Check` answers by the counters, once the CRC is right. -/
def sequenceStatus (checkingCounter receivedCounter : UInt8) : CheckStatusType :=
  let delta : Int8 := (receivedCounter - checkingCounter).toInt8
  if delta = 0 then .kRepeated
  else if checkingCounter < cCounterMax ∧ delta < 0 then .kWrongSequence
  else .kOk

def check (profile : Profile11) (protectedData : Bytes) : CheckStatusType × Profile11 :=
  match protectedData with
  | receivedCrc :: unmaskedCounter :: _ :: _ =>
    if receivedCrc ≠ calculateCrc mCrcTable protectedData 1 then (.kWrongCrc, profile)
    else
      let receivedCounter := unmaskedCounter &&& 0x0f
      (sequenceStatus profile.mCheckingCounter receivedCounter,
        { profile with mCheckingCounter := receivedCounter })
  -- fewer than `cMinimumSize` bytes
  | _ => (.kNoNewData, profile)

/-- The offset of `Check` leaves the CRC itself out. -/
theorem calculateCrc_tail (table : CrcTable) (crc : UInt8) (body : Bytes) :
    calculateCrc table (crc :: body) 1 = calculateCrc table body 0 := rfl

/-- A counter and its data behind their CRC. -/
def sealed (body : Bytes) : Bytes := calculateCrc mCrcTable body 0 :: body

theorem tryProtect_of_ne_nil (profile : Profile11) {unprotectedData : Bytes} (given : unprotectedData ≠ []) :
    profile.tryProtect unprotectedData =
      (some (sealed ((nextCounter profile.mProtectingCounter ||| 0xf0) :: unprotectedData)),
        { profile with mProtectingCounter := nextCounter profile.mProtectingCounter }) :=
  if_pos (List.length_pos_of_ne_nil given)

theorem check_wrongCrc (profile : Profile11) {receivedCrc : UInt8} {body : Bytes} (long : 2 ≤ body.length)
    (wrong : receivedCrc ≠ calculateCrc mCrcTable body 0) :
    profile.check (receivedCrc :: body) = (.kWrongCrc, profile) := by
  generalize computed : calculateCrc mCrcTable body 0 = crc at wrong
  obtain ⟨counter, behind, rfl⟩ := List.exists_cons_of_length_pos (Nat.zero_lt_of_lt long)
  obtain ⟨element, rest, rfl⟩ := List.exists_cons_of_length_pos (Nat.lt_of_succ_lt_succ long)
  rw [check, calculateCrc_tail, computed]
  exact if_pos wrong

theorem check_rightCrc (profile : Profile11) (counter element : UInt8) (rest : Bytes) :
    profile.check (sealed (counter :: element :: rest)) =
      (sequenceStatus profile.mCheckingCounter (counter &&& 0x0f),
        { profile with mCheckingCounter := counter &&& 0x0f }) := by
  rw [sealed]
  generalize right : calculateCrc mCrcTable (counter :: element :: rest) 0 = crc
  rw [check, calculateCrc_tail, right]
  exact if_neg (fun wrong => wrong rfl)

theorem sequenceStatus_ne_kWrongCrc (checkingCounter receivedCounter : UInt8) :
    sequenceStatus checkingCounter receivedCounter ≠ .kWrongCrc := by
  simp only [sequenceStatus]
  split
  · exact nofun
  · split <;> exact nofun

theorem check_kWrongCrc {profile : Profile11} {received : Bytes}
    (refused : (profile.check received).1 = .kWrongCrc) : (profile.check received).2 = profile := by
  unfold check at refused ⊢
  split at refused
  next receivedCrc unmaskedCounter element rest =>
    by_cases wrong : receivedCrc ≠ calculateCrc mCrcTable (receivedCrc :: unmaskedCounter :: element :: rest) 1
    · exact congrArg Prod.snd (if_pos wrong)
    · rw [if_neg wrong] at refused
      exact absurd refused (sequenceStatus_ne_kWrongCrc _ _)
  next => exact absurd refused nofun

/-! ## Corrupted messages -/

/-- What the channel may make of a message: another byte somewhere in it, or a burst of at most eight
bits behind the CRC. -/
inductive Corruption : Bytes → Bytes → Prop where
  | byte {message : Bytes} (index : ℕ) (inside : index < message.length) (byte : UInt8)
      (differs : message[index] ≠ byte) : Corruption message (message.set index byte)
  | burst (crc : UInt8) {body received : Bytes} (burst : Crc.Burst 8 (bitsOf body) (bitsOf received)) :
      Corruption (crc :: body) (crc :: received)

theorem calculateCrc_burst {body received : Bytes} (burst : Crc.Burst 8 (bitsOf body) (bitsOf received)) :
    calculateCrc mCrcTable body 0 ≠ calculateCrc mCrcTable received 0 := by
  intro same
  have crcs := congrArg UInt8.toBitVec same
  rw [mCrcTable, calculateCrc_toBitVec, calculateCrc_toBitVec] at crcs
  exact burst.crc_ne (by decide) _ _ crcs

theorem burst_of_set {body : Bytes} {index : ℕ} (inside : index < body.length) {byte : UInt8}
    (differs : body[index] ≠ byte) : Crc.Burst 8 (bitsOf body) (bitsOf (body.set index byte)) := by
  rw [bitsOf, bitsOf, List.map_set]
  refine Crc.burst_of_set (by rwa [List.length_map]) ?_
  rw [List.getElem_map]
  exact fun same => differs (UInt8.toBitVec_inj.mp same)

theorem bitsOf_length (data : Bytes) : (bitsOf data).length = data.length * 8 := by
  rw [bitsOf, Crc.length_flatMap_bits, List.length_map]

theorem burst_length {body received : Bytes} (burst : Crc.Burst 8 (bitsOf body) (bitsOf received)) :
    body.length = received.length := by
  obtain ⟨-, front, sent, got, back, before, after, length_eq, -⟩ := burst
  have before := congrArg List.length before
  have after := congrArg List.length after
  simp only [bitsOf_length, List.length_append] at before after
  omega

theorem check_corruption (profile : Profile11) {body received : Bytes} (long : 2 ≤ body.length)
    (corruption : Corruption (sealed body) received) :
    profile.check received = (.kWrongCrc, profile) := by
  cases corruption with
  | byte index inside byte differs =>
    cases index with
    | zero => exact check_wrongCrc profile long (Ne.symm differs)
    | succ index =>
      have inside : index < body.length := Nat.lt_of_succ_lt_succ inside
      have wrong := calculateCrc_burst (burst_of_set inside differs)
      exact check_wrongCrc profile (by rwa [List.length_set]) wrong
  | burst crc burst => exact check_wrongCrc profile (burst_length burst ▸ long) (calculateCrc_burst burst)

theorem corruption_detected (sender receiver : Profile11) {unprotectedData : Bytes}
    (given : unprotectedData ≠ []) :
    ∃ message sender', sender.tryProtect unprotectedData = (some message, sender') ∧
      (∀ received, Corruption message received → receiver.check received = (.kWrongCrc, receiver)) ∧
      ∀ received, (receiver.check received).1 = .kWrongCrc → (receiver.check received).2 = receiver := by
  refine ⟨_, _, tryProtect_of_ne_nil sender given, fun received corruption => check_corruption receiver ?_ corruption, fun _ => check_kWrongCrc⟩
  exact Nat.succ_le_succ (List.length_pos_of_ne_nil given)

theorem corruption_detected_sample :
    ∃ message sender', make.tryProtect [0x12, 0x34, 0x56, 0x78] = (some message, sender') ∧
      (∀ received, Corruption message received → make.check received = (.kWrongCrc, make)) ∧
      ∀ received, (make.check received).1 = .kWrongCrc → (make.check received).2 = make :=
  corruption_detected make make (by decide)

end Profile11
end AdaptiveAutosar.Com.E2E
