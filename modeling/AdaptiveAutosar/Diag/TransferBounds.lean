import AdaptiveAutosar.Diag.TransferData

/-! # What a transfer touches

The ranges of the pool and of the received record that a block is copied between. The range of the pool is
checked when the transfer is set up, the record of a block is not.
-/

namespace AdaptiveAutosar.Diag
open Foundations
set_option autoImplicit false

/-! ## The accesses a block needs -/

inductive Access where
  | pool (address length : ℕ)
  | record (length : ℕ)
  deriving DecidableEq, Repr

def Access.Inside (transferRequestParameterRecord : Bytes) : Access → Prop
  | .pool address length => address + length ≤ cMemoryPoolSize
  | .record length => length ≤ transferRequestParameterRecord.length

instance (record : Bytes) (access : Access) : Decidable (access.Inside record) := by
  unfold Access.Inside
  split <;> infer_instance

namespace TransferData
variable {transferData : TransferData} {input : TransferInput}

/-- The accesses of `TransferData` that the transfer of the block consists of. -/
def needs (transferData : TransferData) (input : TransferInput) : List Access :=
  if input.service = .transferData ∧ (transferData.accepted input.request.requestData).isSome then
    match transferData.transferDirection with
    | .download => [.record transferData.memorySize.toNat,
        .pool transferData.memoryAddress.toNat transferData.memorySize.toNat]
    | .upload => [.pool transferData.memoryAddress.toNat transferData.memorySize.toNat]
    | .none => []
  else []

/-- No access is undefined, and a request that needs one outside the pool or the record is refused and touches
nothing. -/
def Confined (taken : Taken (Option TransferData) TransferInput Answer) : Prop :=
  taken.output ≠ .faulted .undefined ∧
    ∀ transferData ∈ taken.before,
      (∃ access ∈ transferData.needs taken.input,
        ¬ access.Inside (taken.input.request.requestData.drop cRequestParameterOffset)) →
      taken.output.IsNegative ∧ (transferData.react taken.input).2 = transferData

/-- A block that is accepted for a download has at least as many bytes as the transfer was set up for. -/
def Sufficient (state : Option TransferData) (input : TransferInput) : Prop :=
  ∀ transferData ∈ state, input.service = .transferData → transferData.transferDirection = .download →
    (transferData.accepted input.request.requestData).isSome →
      transferData.memorySize.toNat ≤ (input.request.requestData.drop cRequestParameterOffset).length

instance (state : Option TransferData) (input : TransferInput) : Decidable (Sufficient state input) := by
  unfold Sufficient
  infer_instance

/-- The access that a block of a sound transfer needs outside its range is one to the record. -/
theorem Sound.needs_outside (sound : transferData.Sound) :
    (∃ access ∈ transferData.needs input,
        ¬ access.Inside (input.request.requestData.drop cRequestParameterOffset)) ↔
      ¬ Sufficient (some transferData) input := by
  unfold needs
  split_ifs with block
  · obtain ⟨isBlock, expected⟩ := block
    have sufficient : Sufficient (some transferData) input ↔ (transferData.transferDirection = .download →
        transferData.memorySize.toNat ≤ (input.request.requestData.drop cRequestParameterOffset).length) :=
      ⟨fun all download => all transferData rfl isBlock download expected,
        fun enough other there _ download _ => by
          cases there
          exact enough download⟩
    rw [sufficient]
    cases direction : transferData.transferDirection with
    | none => simp
    | upload =>
      have fits := sound.inside (by rw [direction]; exact TransferDirection.noConfusion)
      simp [Access.Inside, fits]
    | download =>
      have fits := sound.inside (by rw [direction]; exact TransferDirection.noConfusion)
      simp [Access.Inside, fits]
  · refine iff_of_false (fun ⟨access, there, _⟩ => List.not_mem_nil there) (not_not.mpr ?_)
    intro other there isBlock _ expected
    cases there
    exact absurd ⟨isBlock, expected⟩ block

/-- A request meets an undefined access exactly when it needs one outside its range. -/
theorem Sound.react_undefined (sound : transferData.Sound) (input : TransferInput) :
    (transferData.react input).1 = .faulted .undefined ↔ ¬ Sufficient (some transferData) input := by
  have other (notBlock : input.service ≠ .transferData) : Sufficient (some transferData) input :=
    fun _ _ isBlock => absurd isBlock notBlock
  obtain ⟨service, request⟩ := input
  cases service with
  | requestDownload | requestUpload =>
    refine iff_of_false (fun failed => ?_) (not_not.mpr (other TransferService.noConfusion))
    obtain ⟨exn, impossible⟩ := RequestTransfer.handleMessage_faulted failed
    cases impossible
  | requestTransferExit =>
    refine iff_of_false (fun failed => ?_) (not_not.mpr (other TransferService.noConfusion))
    replace failed : (RequestTransferExit.handleMessage transferData).1 = .faulted .undefined := failed
    unfold RequestTransferExit.handleMessage at failed
    split at failed <;> cases failed
  | transferData =>
    show (transferData.handleMessage request).1 = .faulted .undefined ↔ _
    have handled := transferData.handling request
    generalize (transferData.handleMessage request).1 = answer at handled
    generalize (transferData.handleMessage request).2 = after at handled
    cases handled with
    | refuses nrc rejected =>
      refine iff_of_false (fun same => by cases same) (not_not.mpr ?_)
      intro same there _ _ expected
      cases there
      rw [rejected] at expected
      cases expected
    | stores expected download enough stored =>
      refine iff_of_false (fun same => by cases same) (not_not.mpr ?_)
      intro same there _ _ _
      cases there
      exact enough
    | loads expected upload loaded =>
      refine iff_of_false (fun same => by cases same) (not_not.mpr ?_)
      intro same there _ download _
      cases there
      cases upload.symm.trans download
    | overreads expected download short =>
      refine iff_of_true rfl fun sufficient => ?_
      have enough := sufficient transferData rfl rfl download (Option.isSome_iff_exists.mpr ⟨_, expected⟩)
      exact absurd enough (not_le.mpr short)
    | leaves expected beyond => exact absurd (sound.inside (accepted_active expected)) beyond

/-- For every sequence of requests to the four services, with arbitrary bytes: the transfers stay inside the pool
and the records, and refuse what would not, exactly when every block accepted for a download is long enough. -/
theorem confined_iff_sufficient (memoryAddress memorySize : UInt64) (memoryPool : Block cMemoryPoolSize)
    {trace : List (Taken (Option TransferData) TransferInput Answer)} {state : Option TransferData}
    (run : Run step (some (make memoryAddress memorySize memoryPool)) trace state) :
    (∀ taken ∈ trace, Confined taken) ↔ Run.Every Sufficient trace := by
  refine Run.all_iff_every (allSound_make memoryAddress memorySize memoryPool)
    (fun _ _ _ _ sound taken => sound.step taken) ?_ run
  intro state input answer state' sound taken
  cases state with
  | none => cases taken
  | some transferData =>
    cases taken
    have here := sound transferData rfl
    constructor
    · rintro ⟨defined, -⟩
      by_contra insufficient
      exact defined ((here.react_undefined input).mpr insufficient)
    · intro sufficient
      refine ⟨fun failed => (here.react_undefined input).mp failed sufficient, ?_⟩
      rintro _ ⟨⟩ outside
      exact absurd sufficient (here.needs_outside.mp outside)

/-- A request, with the SID of its service, and the length of the blocks. -/
def transferRequest (service : TransferService) (requestData : Bytes) : TransferInput :=
  ⟨service, requestData, ⟨[("MaxNumberOfBlockLength", "64")]⟩, ⟨false⟩⟩

/-- Two bytes are downloaded to the address 1. -/
theorem confined_iff_sufficient_twoBytes : ∃ trace state,
    Run.play step [] (some (make 0 0 blankPool)) [transferRequest .requestDownload [0x34, 0, 0x22, 0, 1, 0, 2],
        transferRequest .transferData [0x36, 1, 0xaa, 0xbb]] = .ok (trace, state) ∧
      (∀ taken ∈ trace, Confined taken) ∧
      trace.map Taken.output = [.response [0x76, 1], .response [0x74, 0x10, 64]] := by
  obtain ⟨trace, state, played, every, outputs⟩ : ∃ trace state,
      Run.play step [] (some (make 0 0 blankPool)) [transferRequest .requestDownload [0x34, 0, 0x22, 0, 1, 0, 2],
          transferRequest .transferData [0x36, 1, 0xaa, 0xbb]] = .ok (trace, state) ∧
        Run.Every Sufficient trace ∧
        trace.map Taken.output = [.response [0x76, 1], .response [0x74, 0x10, 64]] := by
    exact ⟨_, _, rfl, by decide, rfl⟩
  exact ⟨trace, state, played,
    (confined_iff_sufficient 0 0 blankPool (Run.of_play .start played)).mpr every, outputs⟩

/-- Sixteen bytes are announced and one is sent. -/
theorem not_always_inside : ∃ trace state,
    Run.play step [] (some (make 0 0 blankPool)) [transferRequest .requestDownload [0x34, 0, 0x22, 0, 0, 0, 16],
        transferRequest .transferData [0x36, 1, 0xaa]] = .ok (trace, state) ∧
      trace.map Taken.output = [.faulted .undefined, .response [0x74, 0x10, 64]] ∧
      ¬ ∀ taken ∈ trace, Confined taken := by
  refine ⟨_, _, rfl, rfl, fun all => ?_⟩
  exact (all _ List.mem_cons_self).1 rfl

end TransferData
end AdaptiveAutosar.Diag
