import Mathlib.Data.Set.Card
import AdaptiveAutosar.Foundations.Cursor
import AdaptiveAutosar.Foundations.OrderedMap
import AdaptiveAutosar.Foundations.Transition

/-! # Stored trouble codes

`ara::diag::DTCInformation`: the statuses of the stored DTCs, with a notifier of the changes of a status and
one of the number of entries. A notifier is a function of the application; what it is called with is the
output of a call.
-/

namespace AdaptiveAutosar.Diag
open Foundations
set_option autoImplicit false

/-- The errors that the store makes. -/
inductive DiagErrc where
  | noSuchDTC
  | wrongDtc
  deriving DecidableEq, Repr

/-- Whether a notifier is set, and the statuses by DTC. -/
structure DTCInformation where
  statuses : OrderedMap UInt32 UInt8
  dtcStatusChangedNotifier : Bool
  numberOfStoredEntriesNotifier : Bool

/-- How a call ends, and what it calls the notifiers with. -/
structure DtcReport where
  result : Except DiagErrc Unit
  statusChanged : Option (UInt32 × UInt8 × UInt8)
  numberOfStoredEntries : Option UInt32

namespace DTCInformation

/-- The constructor. -/
def make : DTCInformation := ⟨.empty, false, false⟩

def getCurrentStatus (information : DTCInformation) (dtc : UInt32) : Except DiagErrc UInt8 :=
  match information.statuses.find? dtc with
  | some status => .ok status
  | none => .error .noSuchDTC

def getNumberOfStoredEntries (information : DTCInformation) : UInt32 :=
  UInt32.ofNat information.statuses.size

/-- What the notifier of the number of entries is called with, if it is set. -/
def notifyNumber (information : DTCInformation) : Option UInt32 :=
  if information.numberOfStoredEntriesNotifier then some information.getNumberOfStoredEntries else none

def setCurrentStatus (information : DTCInformation) (dtc : UInt32) (mask status : UInt8) :
    DtcReport × DTCInformation :=
  match information.statuses.find? dtc with
  | none =>
    let information := { information with statuses := information.statuses.insert dtc status }
    (⟨.ok (), none, information.notifyNumber⟩, information)
  | some currentStatus =>
    let differenceByte := currentStatus ^^^ status
    let maskedDifferenceByte := differenceByte &&& mask
    if maskedDifferenceByte ≠ 0 then
      let newStatusBits := currentStatus ^^^ maskedDifferenceByte
      let statusChanged :=
        if information.dtcStatusChangedNotifier then some (dtc, currentStatus, newStatusBits) else none
      (⟨.ok (), statusChanged, none⟩,
        { information with statuses := information.statuses.insert dtc newStatusBits })
    else (⟨.ok (), none, none⟩, information)

def clear (information : DTCInformation) (dtc : UInt32) : DtcReport × DTCInformation :=
  match information.statuses.find? dtc with
  | some _ =>
    let information := { information with statuses := information.statuses.erase dtc }
    (⟨.ok (), none, information.notifyNumber⟩, information)
  | none => (⟨.error .wrongDtc, none, none⟩, information)

end DTCInformation

/-- A notifier is set to a function, or to none. -/
inductive DtcOperation where
  | setCurrentStatus (dtc : UInt32) (mask status : UInt8)
  | clear (dtc : UInt32)
  | setDTCStatusChangedNotifier (given : Bool)
  | setNumberOfStoredEntriesNotifier (given : Bool)
  deriving DecidableEq, Repr

namespace DTCInformation

def perform (information : DTCInformation) : DtcOperation → DtcReport × DTCInformation
  | .setCurrentStatus dtc mask status => information.setCurrentStatus dtc mask status
  | .clear dtc => information.clear dtc
  | .setDTCStatusChangedNotifier given =>
    (⟨.ok (), none, none⟩, { information with dtcStatusChangedNotifier := given })
  | .setNumberOfStoredEntriesNotifier given =>
    (⟨.ok (), none, none⟩, { information with numberOfStoredEntriesNotifier := given })

def step (information : DTCInformation) (operation : DtcOperation) : Outcome (DtcReport × DTCInformation) :=
  .ok (information.perform operation)

/-! ## What the calls mean -/

/-- The status of a DTC, if it is stored. -/
def statusOf (information : DTCInformation) (dtc : UInt32) : Option UInt8 :=
  (information.getCurrentStatus dtc).toOption

/-- The number of the DTCs that are stored. -/
noncomputable def stored (information : DTCInformation) : ℕ :=
  Set.ncard {dtc | (information.statusOf dtc).isSome}

/-- The status that a call leaves a DTC with. -/
def statusBehind (information : DTCInformation) (operation : DtcOperation) (dtc : UInt32) : Option UInt8 :=
  match operation with
  | .setCurrentStatus target mask status =>
    if dtc = target then
      match information.statusOf dtc with
      | none => some status
      | some old => some ((old &&& ~~~mask) ||| (status &&& mask))
    else information.statusOf dtc
  | .clear target => if dtc = target then none else information.statusOf dtc
  | .setDTCStatusChangedNotifier _ | .setNumberOfStoredEntriesNotifier _ => information.statusOf dtc

/-- The call changes a masked bit of a stored DTC, from the old status to the new one. -/
def Changes (information : DTCInformation) (operation : DtcOperation) (dtc : UInt32) (old new : UInt8) : Prop :=
  ∃ mask status, operation = .setCurrentStatus dtc mask status ∧ information.statusOf dtc = some old ∧
    old &&& mask ≠ status &&& mask ∧ new = (old &&& ~~~mask) ||| (status &&& mask)

/-- A clearing of a DTC that is not stored fails, and no other call. -/
def resultOf (information : DTCInformation) : DtcOperation → Except DiagErrc Unit
  | .clear dtc => if (information.statusOf dtc).isSome then .ok () else .error .wrongDtc
  | .setCurrentStatus _ _ _ | .setDTCStatusChangedNotifier _ | .setNumberOfStoredEntriesNotifier _ => .ok ()

/-- A call does to the stored DTCs what it means, and calls the notifiers of what it did. -/
structure Meant (information : DTCInformation) (operation : DtcOperation) (report : DtcReport)
    (after : DTCInformation) : Prop where
  statuses : ∀ dtc, after.statusOf dtc = information.statusBehind operation dtc
  result : report.result = information.resultOf operation
  failed : report.result ≠ .ok () → after = information
  changed : ∀ dtc old new, report.statusChanged = some (dtc, old, new) ↔
    information.dtcStatusChangedNotifier = true ∧ information.Changes operation dtc old new
  counted : report.numberOfStoredEntries.isSome ↔ information.numberOfStoredEntriesNotifier = true ∧
    ∃ dtc, (information.statusOf dtc).isSome ≠ (after.statusOf dtc).isSome
  number : ∀ number ∈ report.numberOfStoredEntries, after.stored < 2 ^ 32 → number.toNat = after.stored

variable {information : DTCInformation}

theorem statusOf_eq (information : DTCInformation) (dtc : UInt32) :
    information.statusOf dtc = information.statuses.find? dtc := by
  unfold statusOf getCurrentStatus
  cases information.statuses.find? dtc with
  | none => rfl
  | some status => rfl

theorem stored_eq (information : DTCInformation) : information.stored = information.statuses.size := by
  have keys : {dtc | (information.statusOf dtc).isSome} = ↑information.statuses.keys.toFinset := by
    ext dtc
    simp [statusOf_eq, OrderedMap.mem_keys_iff]
  have length : information.statuses.keys.length = information.statuses.size := List.length_map ..
  rw [stored, keys, Set.ncard_coe_finset, List.toFinset_card_of_nodup information.statuses.keys_nodup, length]

theorem notifyNumber_toNat {number : UInt32} (called : information.notifyNumber = some number)
    (fewer : information.stored < 2 ^ 32) : number.toNat = information.stored := by
  unfold notifyNumber at called
  split_ifs at called
  cases called
  rw [stored_eq] at fewer ⊢
  exact UInt32.toNat_ofNat_of_lt' fewer

theorem notifyNumber_isSome (information : DTCInformation) :
    information.notifyNumber.isSome ↔ information.numberOfStoredEntriesNotifier = true := by
  unfold notifyNumber
  split_ifs with given
  · exact iff_of_true rfl given
  · exact iff_of_false Bool.false_ne_true given

/-! ## The merge of a status -/

theorem masked_difference (old new mask : UInt8) :
    old ^^^ ((old ^^^ new) &&& mask) = (old &&& ~~~mask) ||| (new &&& mask) := by
  apply UInt8.toBitVec_inj.mp
  ext i inside
  simp only [UInt8.toBitVec_xor, UInt8.toBitVec_and, UInt8.toBitVec_or, UInt8.toBitVec_not,
    BitVec.getElem_xor, BitVec.getElem_and, BitVec.getElem_or, BitVec.getElem_not]
  cases old.toBitVec[i] <;> cases new.toBitVec[i] <;> cases mask.toBitVec[i] <;> rfl

theorem masked_difference_eq_zero (old new mask : UInt8) :
    (old ^^^ new) &&& mask = 0 ↔ old &&& mask = new &&& mask := by
  have split : (old ^^^ new) &&& mask = (old &&& mask) ^^^ (new &&& mask) := by
    apply UInt8.toBitVec_inj.mp
    ext i inside
    simp only [UInt8.toBitVec_xor, UInt8.toBitVec_and, BitVec.getElem_xor, BitVec.getElem_and]
    cases old.toBitVec[i] <;> cases new.toBitVec[i] <;> cases mask.toBitVec[i] <;> rfl
  rw [split]
  exact UInt8.xor_eq_zero_iff

/-! ## One call -/

/-- A status for a DTC that is not stored yet is stored. -/
theorem setCurrentStatus_stores (information : DTCInformation) {dtc : UInt32} (mask status : UInt8)
    (found : information.statuses.find? dtc = none) :
    information.Meant (.setCurrentStatus dtc mask status) (information.setCurrentStatus dtc mask status).1
      (information.setCurrentStatus dtc mask status).2 := by
  have absent : information.statusOf dtc = none := (statusOf_eq information dtc).trans found
  unfold setCurrentStatus
  rw [found]
  constructor
  · intro other
    rw [statusOf_eq]
    dsimp only
    rw [OrderedMap.find?_insert, statusBehind, statusOf_eq]
    split_ifs with same
    · subst same
      rw [found]
    · rfl
  · rfl
  · exact fun failed => absurd rfl failed
  · rintro other old new
    refine iff_of_false (fun called => by cases called) ?_
    rintro ⟨-, _, _, same, there, -⟩
    cases same
    rw [absent] at there
    cases there
  · rw [notifyNumber_isSome]
    refine (and_iff_left ⟨dtc, ?_⟩).symm
    rw [absent, statusOf_eq]
    dsimp only
    rw [OrderedMap.find?_insert, if_pos rfl]
    exact Bool.false_ne_true
  · exact fun number called fewer => notifyNumber_toNat called fewer

/-- A status that differs in a masked bit changes the stored one, and the number of DTCs stays. -/
theorem setCurrentStatus_changes (information : DTCInformation) {dtc : UInt32} {mask status old : UInt8}
    (found : information.statuses.find? dtc = some old) (differs : (old ^^^ status) &&& mask ≠ 0) :
    information.Meant (.setCurrentStatus dtc mask status) (information.setCurrentStatus dtc mask status).1
      (information.setCurrentStatus dtc mask status).2 := by
  have there : information.statusOf dtc = some old := (statusOf_eq information dtc).trans found
  have changed := mt (masked_difference_eq_zero old status mask).mpr differs
  unfold setCurrentStatus
  rw [found]
  dsimp only
  rw [if_pos differs]
  constructor
  · intro other
    rw [statusOf_eq]
    dsimp only
    rw [OrderedMap.find?_insert, statusBehind, masked_difference]
    split_ifs with same
    · subst same
      rw [there]
    · exact (statusOf_eq information other).symm
  · rfl
  · exact fun failed => absurd rfl failed
  · intro other before after
    dsimp only
    constructor
    · intro called
      split_ifs at called with given
      cases called
      exact ⟨given, mask, status, rfl, there, changed, masked_difference old status mask⟩
    · rintro ⟨given, _, _, same, stored, -, rfl⟩
      cases same
      cases there.symm.trans stored
      rw [if_pos given, masked_difference]
  · refine iff_of_false Bool.false_ne_true ?_
    rintro ⟨-, other, differs⟩
    apply differs
    rw [statusOf_eq, statusOf_eq]
    dsimp only
    rw [OrderedMap.find?_insert]
    split_ifs with same
    · subst same
      rw [found]
      rfl
    · rfl
  · exact fun number called => by cases called

/-- A status that agrees in the masked bits changes nothing. -/
theorem setCurrentStatus_agrees (information : DTCInformation) {dtc : UInt32} {mask status old : UInt8}
    (found : information.statuses.find? dtc = some old) (agrees : (old ^^^ status) &&& mask = 0) :
    information.Meant (.setCurrentStatus dtc mask status) (information.setCurrentStatus dtc mask status).1
      (information.setCurrentStatus dtc mask status).2 := by
  have there : information.statusOf dtc = some old := (statusOf_eq information dtc).trans found
  have equal := (masked_difference_eq_zero old status mask).mp agrees
  unfold setCurrentStatus
  rw [found]
  dsimp only
  rw [if_neg (not_not.mpr agrees)]
  constructor
  · intro other
    rw [statusBehind]
    split_ifs with same
    · subst same
      rw [there]
      -- no masked bit differs, so the merged status is the old one
      have merged := masked_difference old status mask
      rw [agrees, UInt8.xor_zero] at merged
      exact congrArg some merged
    · rfl
  · rfl
  · exact fun failed => absurd rfl failed
  · intro other before after
    refine iff_of_false (fun called => by cases called) ?_
    rintro ⟨-, _, _, same, stored, changed, -⟩
    cases same
    cases there.symm.trans stored
    exact changed equal
  · refine iff_of_false Bool.false_ne_true ?_
    rintro ⟨-, other, differs⟩
    exact differs rfl
  · exact fun number called => by cases called

theorem setCurrentStatus_meant (information : DTCInformation) (dtc : UInt32) (mask status : UInt8) :
    information.Meant (.setCurrentStatus dtc mask status) (information.setCurrentStatus dtc mask status).1
      (information.setCurrentStatus dtc mask status).2 := by
  cases found : information.statuses.find? dtc with
  | none => exact information.setCurrentStatus_stores mask status found
  | some old =>
    by_cases agrees : (old ^^^ status) &&& mask = 0
    · exact information.setCurrentStatus_agrees found agrees
    · exact information.setCurrentStatus_changes found agrees

theorem clear_meant (information : DTCInformation) (dtc : UInt32) :
    information.Meant (.clear dtc) (information.clear dtc).1 (information.clear dtc).2 := by
  have unchanged (report : Option (UInt32 × UInt8 × UInt8)) (none : report = none) (other : UInt32)
      (old new : UInt8) : report = some (other, old, new) ↔
        information.dtcStatusChangedNotifier = true ∧ information.Changes (.clear dtc) other old new := by
    subst none
    refine iff_of_false (fun called => by cases called) ?_
    rintro ⟨-, _, _, same, -⟩
    cases same
  unfold clear
  cases found : information.statuses.find? dtc with
  | none =>
    have absent : information.statusOf dtc = none := (statusOf_eq information dtc).trans found
    refine ⟨?_, ?_, fun _ => rfl, unchanged _ rfl, ?_, fun number called => by cases called⟩
    · intro other
      rw [statusBehind]
      split_ifs with same
      · rw [same]
        exact absent
      · rfl
    · rw [resultOf, absent]
      rfl
    · refine iff_of_false Bool.false_ne_true ?_
      rintro ⟨-, other, differs⟩
      exact differs rfl
  | some old =>
    have there : information.statusOf dtc = some old := (statusOf_eq information dtc).trans found
    refine ⟨?_, ?_, fun failed => absurd rfl failed, unchanged _ rfl, ?_,
      fun number called fewer => notifyNumber_toNat called fewer⟩
    · intro other
      rw [statusOf_eq, statusBehind]
      dsimp only
      rw [OrderedMap.find?_erase, statusOf_eq]
      split_ifs
      · rfl
      · rfl
    · rw [resultOf, there]
      rfl
    · dsimp only
      rw [notifyNumber_isSome]
      refine (and_iff_left ⟨dtc, ?_⟩).symm
      rw [there, statusOf_eq]
      dsimp only
      rw [OrderedMap.find?_erase, if_pos rfl]
      exact fun same => by cases same

theorem perform_meant (information : DTCInformation) (operation : DtcOperation) :
    information.Meant operation (information.perform operation).1 (information.perform operation).2 := by
  cases operation with
  | setCurrentStatus dtc mask status => exact setCurrentStatus_meant information dtc mask status
  | clear dtc => exact clear_meant information dtc
  | setDTCStatusChangedNotifier given | setNumberOfStoredEntriesNotifier given =>
    refine ⟨fun _ => rfl, rfl, fun failed => absurd rfl failed, ?_, ?_, fun number called => by cases called⟩
    · intro dtc old new
      refine iff_of_false (fun called => by cases called) ?_
      rintro ⟨-, _, _, same, -⟩
      cases same
    · refine iff_of_false Bool.false_ne_true ?_
      rintro ⟨-, other, differs⟩
      exact differs rfl

/-! ## Runs -/

/-- In every run of calls, on any DTCs with any masks and statuses, every call does what it means; the number
that the notifier is called with is that of the stored DTCs as long as these are fewer than 2^32. -/
theorem calls_meant {trace : List (Taken DTCInformation DtcOperation DtcReport)} {last : DTCInformation}
    (run : Run step make trace last) :
    ∀ taken ∈ trace, ∃ after, step taken.before taken.input = .ok (taken.output, after) ∧
      taken.before.Meant taken.input taken.output after := by
  intro taken there
  obtain ⟨after, stepped⟩ := run.taken_step there
  refine ⟨after, stepped, ?_⟩
  have meant := perform_meant taken.before taken.input
  unfold step at stepped
  injection stepped with result
  rw [result] at meant
  exact meant

/-- A DTC is stored, changed under a mask and cleared twice. -/
def clearedTwice : List DtcOperation :=
  [.setNumberOfStoredEntriesNotifier true, .setDTCStatusChangedNotifier true, .setCurrentStatus 7 0xff 0x2f,
    .setCurrentStatus 7 0x0f 0x01, .clear 7, .clear 7]

theorem calls_meant_clearedTwice : ∃ trace last, Run.play step [] make clearedTwice = .ok (trace, last) ∧
    (∀ taken ∈ trace, ∃ after, step taken.before taken.input = .ok (taken.output, after) ∧
      taken.before.Meant taken.input taken.output after) ∧
    trace.filterMap (fun taken => taken.output.statusChanged) = [(7, 0x2f, 0x21)] ∧
    trace.filterMap (fun taken => taken.output.numberOfStoredEntries) = [0, 1] := by
  obtain ⟨trace, last, played, changed, numbers⟩ : ∃ trace last,
      Run.play step [] make clearedTwice = .ok (trace, last) ∧
        trace.filterMap (fun taken => taken.output.statusChanged) = [(7, 0x2f, 0x21)] ∧
        trace.filterMap (fun taken => taken.output.numberOfStoredEntries) = [0, 1] := ⟨_, _, rfl, rfl, rfl⟩
  exact ⟨trace, last, played, calls_meant (Run.of_play .start played), changed, numbers⟩

theorem setCurrentStatus_notifier (information : DTCInformation) (dtc : UInt32) (mask status : UInt8) :
    (information.setCurrentStatus dtc mask status).2.numberOfStoredEntriesNotifier =
      information.numberOfStoredEntriesNotifier := by
  unfold setCurrentStatus
  cases information.statuses.find? dtc with
  | none => rfl
  | some old =>
    dsimp only
    split_ifs <;> rfl

theorem stored_of_below (number : ℕ) (fits : number ≤ 2 ^ 32)
    (all : ∀ dtc, (information.statusOf dtc).isSome ↔ dtc.toNat < number) : information.stored = number := by
  have image : UInt32.toNat '' {dtc | (information.statusOf dtc).isSome} = ↑(Finset.range number) := by
    ext n
    rw [Finset.mem_coe, Finset.mem_range]
    constructor
    · rintro ⟨dtc, there, rfl⟩
      exact (all dtc).mp there
    · intro below
      have index : (UInt32.ofNat n).toNat = n := UInt32.toNat_ofNat_of_lt' (below.trans_le fits)
      exact ⟨UInt32.ofNat n, (all _).mpr (index.symm ▸ below), index⟩
  have injective : Function.Injective UInt32.toNat := fun _ _ same => UInt32.toNat_inj.mp same
  rw [stored, ← Set.ncard_image_of_injective _ injective, image, Set.ncard_coe_finset, Finset.card_range]

/-- With the notifier set, any number of DTCs can be stored one after the other, each as a new one. -/
theorem exists_stored (number : ℕ) (fits : number ≤ 2 ^ 32) :
    ∃ (trace : List (Taken DTCInformation DtcOperation DtcReport)) (information : DTCInformation),
      Run step make trace information ∧ information.numberOfStoredEntriesNotifier = true ∧
        ∀ dtc, (information.statusOf dtc).isSome ↔ dtc.toNat < number := by
  induction number with
  | zero =>
    have taken : step make (.setNumberOfStoredEntriesNotifier true) =
      .ok (⟨.ok (), none, none⟩, { make with numberOfStoredEntriesNotifier := true }) := rfl
    refine ⟨_, _, Run.start.next taken, rfl, fun dtc => ?_⟩
    rw [statusOf_eq, OrderedMap.find?_of_size_zero rfl]
    exact iff_of_false Bool.false_ne_true (Nat.not_lt_zero _)
  | succ number ih =>
    obtain ⟨trace, information, run, notifier, all⟩ := ih (by omega)
    have taken : information.step (.setCurrentStatus (UInt32.ofNat number) 0 0) =
      .ok ((information.setCurrentStatus (UInt32.ofNat number) 0 0).1,
        (information.setCurrentStatus (UInt32.ofNat number) 0 0).2) := rfl
    have below : number < 2 ^ 32 := by omega
    have index : (UInt32.ofNat number).toNat = number := UInt32.toNat_ofNat_of_lt' below
    have meant := setCurrentStatus_meant information (UInt32.ofNat number) 0 0
    refine ⟨_, _, run.next taken, ?_, ?_⟩
    · rw [setCurrentStatus_notifier, notifier]
    · intro dtc
      rw [meant.statuses, statusBehind]
      split_ifs with same
      · rw [same, index]
        refine iff_of_true ?_ (Nat.lt_succ_self number)
        cases information.statusOf (UInt32.ofNat number) with
        | none => rfl
        | some old => rfl
      · have other : dtc.toNat ≠ number := fun equal => same (UInt32.toNat_inj.mp (equal.trans index.symm))
        rw [all]
        omega

/-- The notifier is told that a store of all DTCs has none. -/
theorem not_always_number : ∃ (trace : List (Taken DTCInformation DtcOperation DtcReport))
    (information after : DTCInformation) (report : DtcReport), Run step make trace information ∧
      information.step (.setCurrentStatus 0xffffffff 0xff 0) = .ok (report, after) ∧
      after.stored = 2 ^ 32 ∧ report.numberOfStoredEntries = some 0 := by
  have last : (0xffffffff : UInt32).toNat = 2 ^ 32 - 1 := rfl
  obtain ⟨trace, information, run, notifier, all⟩ := exists_stored (2 ^ 32 - 1) (Nat.sub_le _ _)
  have absent : information.statusOf 0xffffffff = none := by
    rw [← Option.not_isSome_iff_eq_none, all, last]
    exact lt_irrefl _
  have meant := setCurrentStatus_meant information 0xffffffff 0xff 0
  have full : (information.setCurrentStatus 0xffffffff 0xff 0).2.stored = 2 ^ 32 := by
    refine stored_of_below _ le_rfl fun dtc => iff_of_true ?_ dtc.toNat_lt
    rw [meant.statuses, statusBehind]
    split_ifs with same
    · rw [same, absent]
      rfl
    · have bound := dtc.toNat_lt
      have other : dtc.toNat ≠ 2 ^ 32 - 1 := fun equal => same (UInt32.toNat_inj.mp (equal.trans last.symm))
      rw [all]
      omega
  refine ⟨trace, information, _, _, run, rfl, full, ?_⟩
  rw [stored_eq] at full
  rw [statusOf_eq] at absent
  simp only [setCurrentStatus, absent] at full ⊢
  rw [notifyNumber, if_pos notifier, getNumberOfStoredEntries, full]
  rfl

end DTCInformation
end AdaptiveAutosar.Diag
