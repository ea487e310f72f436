import AdaptiveAutosar.Diag.TransferBounds
import AdaptiveAutosar.Diag.TransferSession

/-! # The block sequence counters of a transfer

The counters of the blocks a transfer has accepted, read off the run: a block repeats the counter before it
or takes the next one, and a transfer begins with 1.
-/

namespace AdaptiveAutosar.Diag
open Foundations
set_option autoImplicit false

namespace TransferData

/-- A request to the service `TransferData` and its other services, with the answer. -/
abbrev TransferStep := Taken (Option TransferData) TransferInput Answer

/-- Whether a transfer was requested with success and not exited since. -/
def Transferring : List TransferStep → Prop
  | [] => False
  | taken :: older =>
    match taken.input.service with
    | .requestDownload | .requestUpload => taken.output.IsPositive ∨ Transferring older
    | .requestTransferExit => ¬ taken.output.IsPositive ∧ Transferring older
    | .transferData => Transferring older

/-- The counters of the blocks accepted since the last exit, the newest first. -/
def acceptedCounters : List TransferStep → List UInt8
  | [] => []
  | taken :: older =>
    match taken.input.service with
    | .requestDownload | .requestUpload => acceptedCounters older
    | .requestTransferExit => if taken.output.IsPositive then [] else acceptedCounters older
    | .transferData =>
      if taken.output.IsPositive then
        taken.input.request.requestData[cSequenceCounterIndex]?.toList ++ acceptedCounters older
      else acceptedCounters older

/-- A counter that may follow the ones accepted: 1 at the start, and then the last one or its successor. -/
def Follows : List UInt8 → UInt8 → Prop
  | [], counter => counter = 1
  | last :: _, counter => counter = last ∨ counter = last + 1

instance : (counters : List UInt8) → (counter : UInt8) → Decidable (Follows counters counter)
  | [], counter => inferInstanceAs (Decidable (counter = 1))
  | last :: _, counter => inferInstanceAs (Decidable (counter = last ∨ counter = last + 1))

/-- Every counter follows the ones before it. -/
def InSequence : List UInt8 → Prop
  | [] => True
  | counter :: counters => Follows counters counter ∧ InSequence counters

/-- A block of an active transfer is answered positively when its counter follows, and refused with the code
of a wrong counter and without a change of the service when it does not. An exit is answered positively. -/
structure Sequenced (older : List TransferStep) (taken : TransferStep) : Prop where
  block : taken.input.service = .transferData → Transferring older →
    ∀ counter, taken.input.request.requestData[cSequenceCounterIndex]? = some counter →
      if Follows (acceptedCounters older) counter then taken.output.IsPositive
      else taken.output = .refused cSid cWrongBlockSequenceCounter ∧
        step taken.before taken.input = .ok (taken.output, taken.before)
  exit : taken.input.service = .requestTransferExit → Transferring older → taken.output.IsPositive

/-! ## The state behind a run -/

variable {transferData after : TransferData}

/-- The state has the counters that the run calls for. -/
structure Tracks (trace : List TransferStep) (transferData : TransferData) : Prop where
  sound : transferData.Sound
  active : Transferring trace → transferData.transferDirection ≠ .none
  follows : ∀ counter, transferData.tryValidateSequenceCounter counter = true ↔
    Follows (acceptedCounters trace) counter

theorem tracks_make (memoryAddress memorySize : UInt64) (memoryPool : Block cMemoryPoolSize) :
    Tracks [] (make memoryAddress memorySize memoryPool) where
  sound := sound_make memoryAddress memorySize memoryPool
  active := False.elim
  follows counter := by
    simp [tryValidateSequenceCounter, make, cInitialBlockSequenceCounter, acceptedCounters, Follows]

theorem refused_not_positive {sid nrc : UInt8} : ¬ (Answer.refused sid nrc).IsPositive := fun positive => positive rfl

/-- The counter of a block that is expected is given and valid. -/
theorem accepted_eq_some {requestData : Bytes} {counter : UInt8} :
    transferData.accepted requestData = some counter ↔ requestData[cSequenceCounterIndex]? = some counter ∧
      transferData.transferDirection ≠ .none ∧ transferData.tryValidateSequenceCounter counter = true := by
  unfold accepted
  rw [Option.filter_eq_some_iff, decide_eq_true_eq]

theorem handleMessage_wrong {request : UdsRequest} {counter : UInt8}
    (given : request.requestData[cSequenceCounterIndex]? = some counter)
    (active : transferData.transferDirection ≠ .none)
    (invalid : ¬ transferData.tryValidateSequenceCounter counter = true) :
    transferData.handleMessage request = (.refused cSid cWrongBlockSequenceCounter, transferData) := by
  unfold handleMessage tryTransfer
  rw [given]
  cases direction : transferData.transferDirection with
  | none => exact absurd direction active
  | download | upload =>
    simp only [if_neg invalid]
    rfl

theorem counted_validates (transferData : TransferData) (last : UInt8) (counters : List UInt8)
    (counter : UInt8) : (transferData.counted last).tryValidateSequenceCounter counter = true ↔
      Follows (last :: counters) counter := by
  unfold tryValidateSequenceCounter
  exact decide_eq_true_iff

theorem configured_tracks {trace : List TransferStep} {service : RequestTransfer} {request : UdsRequest}
    {input : TransferInput} (tracks : Tracks trace transferData)
    (isRequest : ∀ answer, acceptedCounters (⟨some transferData, input, answer⟩ :: trace) =
        acceptedCounters trace ∧
      (Transferring (⟨some transferData, input, answer⟩ :: trace) → answer.IsPositive ∨ Transferring trace)) :
    Tracks (⟨some transferData, input, (service.handleMessage transferData request).1⟩ :: trace)
      (service.handleMessage transferData request).2 := by
  obtain ⟨same, transferring⟩ := isRequest (service.handleMessage transferData request).1
  refine ⟨tracks.sound.requested service request, ?_, ?_⟩
  · intro active
    rw [service.handleMessage_snd]
    cases configured : service.configure transferData request.requestData with
    | none =>
      obtain ⟨nrc, handled⟩ := RequestTransfer.handleMessage_none configured
      rw [handled] at transferring
      rcases transferring (handled ▸ active) with positive | before
      · exact absurd positive refused_not_positive
      · exact tracks.active before
    | some after =>
      obtain ⟨_, _, -, -, -, -, rfl⟩ := RequestTransfer.configure_eq_some.mp configured
      exact service.determined
  · intro counter
    rw [same, service.handleMessage_snd]
    cases configured : service.configure transferData request.requestData with
    | none => exact tracks.follows counter
    | some after =>
      obtain ⟨_, _, -, -, -, -, rfl⟩ := RequestTransfer.configure_eq_some.mp configured
      exact tracks.follows counter

theorem echo_append_positive (counter : UInt8) (content : Bytes) :
    (Answer.response (echo counter ++ content)).IsPositive := by
  show cSid + cPositiveResponseSidIncrement ≠ cNegativeResponseCodeSid
  decide

theorem acceptedCounters_block {taken : TransferStep} {older : List TransferStep} {counter : UInt8}
    (isBlock : taken.input.service = .transferData) (positive : taken.output.IsPositive)
    (given : taken.input.request.requestData[cSequenceCounterIndex]? = some counter) :
    acceptedCounters (taken :: older) = counter :: acceptedCounters older := by
  rw [acceptedCounters, isBlock]
  dsimp only
  rw [if_pos positive, given]
  rfl

section Block
variable {trace : List TransferStep} {input : TransferInput}

theorem block_accepted (tracks : Tracks trace transferData) (isBlock : input.service = .transferData)
    {answer : Answer} (positive : answer.IsPositive) {counter : UInt8}
    (expected : transferData.accepted input.request.requestData = some counter)
    (counted : ∃ memoryPool, after = { transferData with memoryPool }.counted counter) :
    Tracks (⟨some transferData, input, answer⟩ :: trace) after ∧
      Sequenced trace ⟨some transferData, input, answer⟩ ∧
      InSequence (acceptedCounters (⟨some transferData, input, answer⟩ :: trace)) =
        InSequence (acceptedCounters trace) := by
  obtain ⟨given, active, valid⟩ := accepted_eq_some.mp expected
  obtain ⟨memoryPool, rfl⟩ := counted
  have follows := (tracks.follows counter).mp valid
  have added : acceptedCounters (⟨some transferData, input, answer⟩ :: trace) =
      counter :: acceptedCounters trace := acceptedCounters_block isBlock positive given
  refine ⟨⟨⟨fun _ => tracks.sound.inside active, fun idle => absurd idle active⟩, fun _ => active, ?_⟩,
    ⟨?_, ?_⟩, ?_⟩
  · intro other
    rw [added]
    exact counted_validates _ counter _ other
  · intro _ _ other same
    cases given.symm.trans same
    rw [if_pos follows]
    exact positive
  · intro isExit
    cases isBlock.symm.trans isExit
  · rw [added]
    exact propext (and_iff_right follows)

theorem block_refused (tracks : Tracks trace transferData) (isBlock : input.service = .transferData)
    {nrc : UInt8} (handled : transferData.handleMessage input.request = (.refused cSid nrc, transferData))
    (rejected : transferData.accepted input.request.requestData = none) :
    Tracks (⟨some transferData, input, .refused cSid nrc⟩ :: trace) transferData ∧
      Sequenced trace ⟨some transferData, input, .refused cSid nrc⟩ ∧
      InSequence (acceptedCounters (⟨some transferData, input, .refused cSid nrc⟩ :: trace)) =
        InSequence (acceptedCounters trace) := by
  have same : acceptedCounters (⟨some transferData, input, .refused cSid nrc⟩ :: trace) =
      acceptedCounters trace := by
    rw [acceptedCounters, isBlock]
    exact if_neg refused_not_positive
  have transferring : Transferring (⟨some transferData, input, .refused cSid nrc⟩ :: trace) =
      Transferring trace := by
    rw [Transferring, isBlock]
  refine ⟨⟨tracks.sound, by rw [transferring]; exact tracks.active, by rw [same]; exact tracks.follows⟩,
    ⟨?_, ?_⟩, by rw [same]⟩
  · intro _ before counter given
    have active := tracks.active before
    have invalid : ¬ transferData.tryValidateSequenceCounter counter = true := by
      intro valid
      rw [accepted_eq_some.mpr ⟨given, active, valid⟩] at rejected
      cases rejected
    rw [if_neg (mt (tracks.follows counter).mpr invalid)]
    have wrong := handled.symm.trans (handleMessage_wrong given active invalid)
    injection wrong with answer _
    refine ⟨answer, ?_⟩
    show (Except.ok _ : Except Unit (Answer × Option TransferData)) = _
    simp only [isBlock, handled]
    rfl
  · intro isExit
    cases isBlock.symm.trans isExit

/-- A block of a sound transfer with a record that is long enough. -/
theorem block_sequenced (tracks : Tracks trace transferData) (isBlock : input.service = .transferData)
    (sufficient : Sufficient (some transferData) input) :
    Tracks (⟨some transferData, input, (transferData.handleMessage input.request).1⟩ :: trace)
        (transferData.handleMessage input.request).2 ∧
      Sequenced trace ⟨some transferData, input, (transferData.handleMessage input.request).1⟩ ∧
      InSequence (acceptedCounters
          (⟨some transferData, input, (transferData.handleMessage input.request).1⟩ :: trace)) =
        InSequence (acceptedCounters trace) := by
  have handled := transferData.handling input.request
  generalize both : transferData.handleMessage input.request = result at handled ⊢
  obtain ⟨answer, after⟩ := result
  dsimp only at handled ⊢
  cases handled with
  | refuses nrc rejected => exact block_refused tracks isBlock both rejected
  | stores expected =>
    exact block_accepted tracks isBlock echo_positive expected ⟨_, rfl⟩
  | loads expected =>
    exact block_accepted tracks isBlock (echo_append_positive _ _) expected ⟨transferData.memoryPool, rfl⟩
  | overreads expected download short =>
    have enough := sufficient transferData rfl isBlock download (Option.isSome_iff_exists.mpr ⟨_, expected⟩)
    exact absurd enough (not_le.mpr short)
  | leaves expected beyond => exact absurd (tracks.sound.inside (accepted_active expected)) beyond

end Block

theorem exit_sequenced {trace : List TransferStep} {input : TransferInput} (tracks : Tracks trace transferData)
    (isExit : input.service = .requestTransferExit) :
    Tracks (⟨some transferData, input, (RequestTransferExit.handleMessage transferData).1⟩ :: trace)
        (RequestTransferExit.handleMessage transferData).2 ∧
      Sequenced trace ⟨some transferData, input, (RequestTransferExit.handleMessage transferData).1⟩ ∧
      (InSequence (acceptedCounters trace) → InSequence (acceptedCounters
        (⟨some transferData, input, (RequestTransferExit.handleMessage transferData).1⟩ :: trace))) := by
  have notBlock (taken : TransferStep) (same : taken.input = input) :
      taken.input.service ≠ .transferData := by
    rw [same, isExit]
    exact TransferService.noConfusion
  cases reset : transferData.tryResetTransferConfiguration with
  | none =>
    have idle : transferData.transferDirection = .none := by
      by_contra active
      rw [tryResetTransferConfiguration_eq_some.mpr ⟨active, rfl⟩] at reset
      cases reset
    have handled : RequestTransferExit.handleMessage transferData =
        (.refused RequestTransferExit.cSid cRequestSequenceError, transferData) := by
      rw [RequestTransferExit.handleMessage, reset]
    have stays : ¬ Transferring trace := fun transferring => tracks.active transferring idle
    rw [handled]
    have same : acceptedCounters (⟨some transferData, input,
        .refused RequestTransferExit.cSid cRequestSequenceError⟩ :: trace) = acceptedCounters trace := by
      rw [acceptedCounters, isExit]
      exact if_neg refused_not_positive
    refine ⟨⟨tracks.sound, ?_, by rw [same]; exact tracks.follows⟩, ⟨?_, ?_⟩, by rw [same]; exact id⟩
    · intro transferring
      rw [Transferring, isExit] at transferring
      exact absurd transferring.2 stays
    · exact fun isBlock => absurd isBlock (notBlock _ rfl)
    · exact fun _ transferring => absurd transferring stays
  | some after =>
    obtain ⟨-, rfl⟩ := tryResetTransferConfiguration_eq_some.mp reset
    have handled : RequestTransferExit.handleMessage transferData =
        (.response [RequestTransferExit.cSid + cPositiveResponseSidIncrement], transferData.idle) := by
      rw [RequestTransferExit.handleMessage, reset]
      rfl
    have positive : (Answer.response [RequestTransferExit.cSid + cPositiveResponseSidIncrement]).IsPositive := by
      decide
    rw [handled]
    have cleared : acceptedCounters (⟨some transferData, input,
        .response [RequestTransferExit.cSid + cPositiveResponseSidIncrement]⟩ :: trace) = [] := by
      rw [acceptedCounters, isExit]
      exact if_pos positive
    refine ⟨⟨⟨fun active => absurd rfl active, fun _ => ⟨rfl, rfl⟩⟩, ?_, ?_⟩, ⟨?_, ?_⟩, ?_⟩
    · intro transferring
      rw [Transferring, isExit] at transferring
      exact absurd positive transferring.1
    · intro counter
      rw [cleared]
      simp [tryValidateSequenceCounter, idle, cInitialBlockSequenceCounter, Follows]
    · exact fun isBlock => absurd isBlock (notBlock _ rfl)
    · exact fun _ _ => positive
    · rw [cleared]
      exact fun _ => trivial

/-- As long as there is a state, it has the counters that the run calls for. -/
def Follow (trace : List TransferStep) (state : Option TransferData) : Prop :=
  (∀ transferData ∈ state, Tracks trace transferData) ∧ InSequence (acceptedCounters trace) ∧
    ∀ newer taken older, trace = newer ++ taken :: older → Sequenced older taken

theorem react_sequenced {trace : List TransferStep} {input : TransferInput} (tracks : Tracks trace transferData)
    (sufficient : Sufficient (some transferData) input) :
    Tracks (⟨some transferData, input, (transferData.react input).1⟩ :: trace) (transferData.react input).2 ∧
      Sequenced trace ⟨some transferData, input, (transferData.react input).1⟩ ∧
      (InSequence (acceptedCounters trace) →
        InSequence (acceptedCounters (⟨some transferData, input, (transferData.react input).1⟩ :: trace))) := by
  cases service : input.service with
  | requestDownload | requestUpload =>
    have handled : transferData.react input = (if input.service = .requestDownload then
        downloadService.handleMessage transferData input.request
        else uploadService.handleMessage transferData input.request) := by
      simp [react, service]
    have isRequest (answer : Answer) : acceptedCounters (⟨some transferData, input, answer⟩ :: trace) =
        acceptedCounters trace ∧
      (Transferring (⟨some transferData, input, answer⟩ :: trace) → answer.IsPositive ∨ Transferring trace) := by
      rw [acceptedCounters, Transferring, service]
      exact ⟨rfl, id⟩
    rw [handled, service]
    refine ⟨configured_tracks tracks isRequest, ⟨fun isBlock => ?_, fun isExit => ?_⟩, ?_⟩
    · cases service.symm.trans isBlock
    · cases service.symm.trans isExit
    · rw [(isRequest _).1]
      exact id
  | transferData =>
    have handled : transferData.react input = transferData.handleMessage input.request := by
      rw [react, service]
    obtain ⟨tracks', sequenced, same⟩ := block_sequenced tracks service sufficient
    rw [handled]
    exact ⟨tracks', sequenced, same.mpr⟩
  | requestTransferExit =>
    have handled : transferData.react input = RequestTransferExit.handleMessage transferData := by
      rw [react, service]
    rw [handled]
    exact exit_sequenced tracks service

/-- In every run of requests to the four services, with records that are long enough: the counters of the
blocks accepted since the last exit begin with 1 and repeat or go on by one, modulo 256, and every block of an
active transfer with another counter is refused and changes nothing. -/
theorem blocks_sequenced (memoryAddress memorySize : UInt64) (memoryPool : Block cMemoryPoolSize)
    {trace : List TransferStep} {state : Option TransferData}
    (run : Run step (some (make memoryAddress memorySize memoryPool)) trace state)
    (sufficient : Run.Every Sufficient trace) :
    InSequence (acceptedCounters trace) ∧
      ∀ newer taken older, trace = newer ++ taken :: older → Sequenced older taken := by
  have start : Follow [] (some (make memoryAddress memorySize memoryPool)) := by
    refine ⟨?_, trivial, fun newer _ _ split => by cases newer <;> cases split⟩
    rintro _ ⟨⟩
    exact tracks_make memoryAddress memorySize memoryPool
  refine (Run.invariant start ?_ run sufficient).2
  intro trace state input answer state' follow enough taken
  obtain ⟨tracks, counters, earlier⟩ := follow
  cases state with
  | none => cases taken
  | some transferData =>
    obtain ⟨tracks', sequenced, keeps⟩ := react_sequenced (tracks transferData rfl) enough
    cases taken
    refine ⟨?_, keeps counters, ?_⟩
    · intro after there
      split_ifs at there
      · cases there
      · cases there
        exact tracks'
    · intro newer taken older split
      cases newer with
      | nil =>
        cases split
        exact sequenced
      | cons _ newer =>
        cases split
        exact earlier newer taken older rfl

/-- A download of two bytes whose block is sent twice, with a wrong counter in between. -/
def retransmitted : List TransferInput :=
  [transferRequest .requestDownload [0x34, 0, 0x22, 0, 1, 0, 2],
    transferRequest .transferData [0x36, 1, 0xaa, 0xbb], transferRequest .transferData [0x36, 3, 0xaa, 0xbb],
    transferRequest .transferData [0x36, 1, 0xaa, 0xbb]]

theorem blocks_sequenced_retransmitted : ∃ trace state,
    Run.play step [] (some (make 0 0 blankPool)) retransmitted = .ok (trace, state) ∧
      acceptedCounters trace = [1, 1] ∧ InSequence (acceptedCounters trace) := by
  obtain ⟨trace, state, played, sufficient, counters⟩ : ∃ trace state,
      Run.play step [] (some (make 0 0 blankPool)) retransmitted = .ok (trace, state) ∧
        Run.Every Sufficient trace ∧ acceptedCounters trace = [1, 1] := ⟨_, _, rfl, by decide, by decide⟩
  exact ⟨trace, state, played, counters,
    (blocks_sequenced 0 0 blankPool (Run.of_play .start played) sufficient).1⟩

end TransferData
end AdaptiveAutosar.Diag
