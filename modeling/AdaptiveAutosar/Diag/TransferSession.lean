import AdaptiveAutosar.Diag.TransferData

/-! # A download and the upload behind it

Bytes are downloaded in blocks that are numbered from 1 on, each of them sent once or more, and are uploaded
again. Every block of a download is stored from the start of the range on.
-/

namespace AdaptiveAutosar.Diag
open Foundations Foundations.BigEndian
set_option autoImplicit false

namespace TransferData
variable {transferData before after : TransferData}

/-! ## Requests that are answered positively -/

/-- The service behind the requests, if every one of them is answered positively. -/
def conveys (transferData : TransferData) : List TransferInput → Option TransferData
  | [] => some transferData
  | input :: rest =>
    if (transferData.react input).1.IsPositive then (transferData.react input).2.conveys rest else none

theorem conveys_cons {input : TransferInput} {rest : List TransferInput} :
    transferData.conveys (input :: rest) = some after ↔ (transferData.react input).1.IsPositive ∧
      (transferData.react input).2.conveys rest = some after := by
  rw [conveys]
  split_ifs with positive
  · exact ⟨fun rest => ⟨positive, rest⟩, And.right⟩
  · exact iff_of_false (fun same => by cases same) (fun both => positive both.1)

theorem conveys_append {first second : List TransferInput} :
    transferData.conveys (first ++ second) = some after ↔
      ∃ between, transferData.conveys first = some between ∧ between.conveys second = some after := by
  induction first generalizing transferData with
  | nil =>
    constructor
    · exact fun rest => ⟨transferData, rfl, rest⟩
    · rintro ⟨_, ⟨⟩, rest⟩
      exact rest
  | cons input first ih =>
    rw [List.cons_append, conveys_cons, ih]
    constructor
    · rintro ⟨positive, between, here, rest⟩
      exact ⟨between, conveys_cons.mpr ⟨positive, here⟩, rest⟩
    · rintro ⟨between, here, rest⟩
      obtain ⟨positive, here⟩ := conveys_cons.mp here
      exact ⟨positive, between, here, rest⟩

/-! ## The requests of a session -/

section Session
variable (metaInfo : MetaInfo) (cancellationHandler : CancellationHandler)

def ask (service : TransferService) (requestData : Bytes) : TransferInput :=
  ⟨service, requestData, metaInfo, cancellationHandler⟩

/-- A request for the range, with two bytes for each of its numbers. -/
def rangeRequest (sid : UInt8) (memoryAddress memorySize : ℕ) : Bytes :=
  [sid, RequestTransfer.cDataFormatIdentifier, 0x22] ++ bytes16 (UInt16.ofNat memoryAddress) ++
    bytes16 (UInt16.ofNat memorySize)

/-- The blocks with their counters. A block is sent once and then as often as it is retransmitted. -/
def numbered (blockSequenceCounter : UInt8) : List (Bytes × ℕ) → List (UInt8 × Bytes)
  | [] => []
  | (content, retransmissions) :: rest =>
    List.replicate (retransmissions + 1) (blockSequenceCounter, content) ++
      numbered (blockSequenceCounter + 1) rest

def blockRequest (block : UInt8 × Bytes) : TransferInput :=
  ask metaInfo cancellationHandler .transferData (cSid :: block.1 :: block.2)

def exitRequest : TransferInput :=
  ask metaInfo cancellationHandler .requestTransferExit [RequestTransferExit.cSid]

def download (memoryAddress : ℕ) (content : Bytes) (blocks : List (Bytes × ℕ)) : List TransferInput :=
  ask metaInfo cancellationHandler .requestDownload
      (rangeRequest downloadService.sid memoryAddress content.length) ::
    ((numbered cInitialBlockSequenceCounter blocks).map (blockRequest metaInfo cancellationHandler) ++
      [exitRequest metaInfo cancellationHandler])

/-- The download is answered positively and stores the bytes in their range only, and the upload of the range
returns them. -/
def Lossless (before : TransferData) (memoryAddress : ℕ) (content : Bytes) (blocks : List (Bytes × ℕ)) : Prop :=
  ∃ stored requested transferred last : TransferData,
    before.conveys (download metaInfo cancellationHandler memoryAddress content blocks) = some stored ∧
      stored.memoryPool.Holds before.memoryPool memoryAddress content ∧
      stored.conveys [ask metaInfo cancellationHandler .requestUpload
        (rangeRequest uploadService.sid memoryAddress content.length)] = some requested ∧
      requested.react (blockRequest metaInfo cancellationHandler (cInitialBlockSequenceCounter, [])) =
        (.response (echo cInitialBlockSequenceCounter ++ content), transferred) ∧
      transferred.conveys [exitRequest metaInfo cancellationHandler] = some last

end Session

theorem mem_numbered {blocks : List (Bytes × ℕ)} {block : Bytes × ℕ} (there : block ∈ blocks)
    (blockSequenceCounter : UInt8) :
    ∃ counter, (counter, block.1) ∈ numbered blockSequenceCounter blocks := by
  induction blocks generalizing blockSequenceCounter with
  | nil => cases there
  | cons head rest ih =>
    rcases List.mem_cons.mp there with rfl | later
    · refine ⟨blockSequenceCounter, List.mem_append_left _ ?_⟩
      exact List.mem_replicate.mpr ⟨Nat.succ_ne_zero _, rfl⟩
    · obtain ⟨counter, isThere⟩ := ih later (blockSequenceCounter + 1)
      exact ⟨counter, List.mem_append_right _ isThere⟩

/-! ## One request -/

section Requests
variable {metaInfo : MetaInfo} {cancellationHandler : CancellationHandler} {memoryAddress memorySize : ℕ}
  {service : RequestTransfer}

theorem range_rangeRequest (sid : UInt8) (memoryAddress memorySize : ℕ) :
    RequestTransfer.range (rangeRequest sid memoryAddress memorySize) =
      some ((UInt16.ofNat memoryAddress).toUInt64, (UInt16.ofNat memorySize).toUInt64) := by
  refine RequestTransfer.range_eq_some.mpr ⟨_, _, _, _, _, _, rfl, by decide, by decide, ?_, ?_⟩
  · rw [word16_bytes16]
  · rw [word16_bytes16]

theorem toNat_short {number : ℕ} (short : number ≤ cMemoryPoolSize) :
    (UInt16.ofNat number).toUInt64.toNat = number := by
  rw [UInt16.toNat_toUInt64]
  apply UInt16.toNat_ofNat_of_lt'
  exact lt_of_le_of_lt short (by decide)

/-- The service with a transfer set up. -/
def transferring (transferData : TransferData) (transferDirection : TransferDirection)
    (memoryAddress memorySize : ℕ) : TransferData :=
  { transferData with
    transferDirection
    memoryAddress := (UInt16.ofNat memoryAddress).toUInt64
    memorySize := (UInt16.ofNat memorySize).toUInt64 }

theorem configure_rangeRequest (positive : 0 < memorySize) (fits : memoryAddress + memorySize ≤ cMemoryPoolSize)
    (sid : UInt8) :
    service.configure transferData (rangeRequest sid memoryAddress memorySize) = some after ↔
      transferData.transferDirection = .none ∧
        after = transferData.transferring service.transferDirection memoryAddress memorySize := by
  rw [RequestTransfer.configure_eq_some]
  constructor
  · rintro ⟨address, size, named, idle, -, -, rfl⟩
    cases (range_rangeRequest sid memoryAddress memorySize).symm.trans named
    exact ⟨idle, rfl⟩
  · rintro ⟨idle, rfl⟩
    refine ⟨_, _, range_rangeRequest sid memoryAddress memorySize, idle, ?_, ?_, rfl⟩
    · rw [toNat_short (by omega)]
      exact positive
    · rw [toNat_short (by omega), toNat_short (by omega)]
      exact fits

/-- A transfer is requested successfully when none is active and there is a maximum number of block length. -/
theorem requested (answered : service.sid + cPositiveResponseSidIncrement ≠ cNegativeResponseCodeSid)
    (positive : 0 < memorySize) (fits : memoryAddress + memorySize ≤ cMemoryPoolSize) {sid : UInt8}
    (request : UdsRequest) (isRange : request.requestData = rangeRequest sid memoryAddress memorySize) :
    ((service.handleMessage transferData request).1.IsPositive ∧
        (service.handleMessage transferData request).2 = after) ↔
      transferData.transferDirection = .none ∧
        (∃ number, request.metaInfo.tryExtractValue RequestTransfer.cMaxNumberOfBlockLengthKey =
          .ok (some number)) ∧
        after = transferData.transferring service.transferDirection memoryAddress memorySize := by
  have configures (set : TransferData) : service.configure transferData request.requestData = some set ↔
      transferData.transferDirection = .none ∧
        set = transferData.transferring service.transferDirection memoryAddress memorySize := by
    rw [isRange]
    exact configure_rangeRequest positive fits sid
  cases configured : service.configure transferData request.requestData with
  | none =>
    obtain ⟨nrc, handled⟩ := RequestTransfer.handleMessage_none configured
    rw [handled]
    refine iff_of_false (fun both => both.1 rfl) (fun all => ?_)
    cases configured.symm.trans ((configures _).mpr ⟨all.1, rfl⟩)
  | some set =>
    obtain ⟨idle, rfl⟩ := (configures set).mp configured
    rw [RequestTransfer.handleMessage_some configured, RequestTransfer.tryGeneratePositiveResponse]
    rcases request.metaInfo.tryExtractValue RequestTransfer.cMaxNumberOfBlockLengthKey with e | (_ | number)
    · refine iff_of_false (fun both => both.1) ?_
      rintro ⟨-, ⟨number, extracted⟩, -⟩
      cases extracted
    · refine iff_of_false (fun both => both.1 rfl) ?_
      rintro ⟨-, ⟨number, extracted⟩, -⟩
      cases extracted
    · constructor
      · rintro ⟨-, rfl⟩
        exact ⟨idle, ⟨number, rfl⟩, rfl⟩
      · rintro ⟨-, -, rfl⟩
        exact ⟨answered, rfl⟩

theorem echo_positive {blockSequenceCounter : UInt8} : (Answer.response (echo blockSequenceCounter)).IsPositive := by
  show cSid + cPositiveResponseSidIncrement ≠ cNegativeResponseCodeSid
  decide

/-- A block that a download answers positively holds as many bytes as the transfer was set up for. -/
theorem block_enough (download : transferData.transferDirection = .download) {request : UdsRequest}
    (positive : (transferData.handleMessage request).1.IsPositive) :
    transferData.memorySize.toNat ≤ (request.requestData.drop cRequestParameterOffset).length ∧
      (transferData.handleMessage request).2.transferDirection = .download ∧
      (transferData.handleMessage request).2.memorySize = transferData.memorySize := by
  have handled := transferData.handling request
  generalize (transferData.handleMessage request).1 = answer at handled positive
  generalize (transferData.handleMessage request).2 = after at handled
  cases handled with
  | refuses nrc rejected => exact absurd rfl positive
  | stores expected isDownload enough stored => exact ⟨enough, download, rfl⟩
  | loads expected upload loaded => cases upload.symm.trans download
  | overreads | leaves => cases positive

/-- In a download that is answered positively every block holds all the bytes. -/
theorem blocks_enough (download : transferData.transferDirection = .download) {blocks : List (UInt8 × Bytes)}
    (conveyed : transferData.conveys (blocks.map (blockRequest metaInfo cancellationHandler)) = some after) :
    ∀ block ∈ blocks, transferData.memorySize.toNat ≤ block.2.length := by
  induction blocks generalizing transferData with
  | nil => exact fun _ there => by cases there
  | cons block rest ih =>
    rw [List.map_cons, conveys_cons] at conveyed
    obtain ⟨positive, conveyed⟩ := conveyed
    obtain ⟨enough, isDownload, size⟩ := block_enough download positive
    have later := ih isDownload conveyed
    refine List.forall_mem_cons.mpr ⟨enough, ?_⟩
    intro block there
    rw [← size]
    exact later block there

/-- A service in a download of which one block, if any, was received. -/
structure Receiving (transferData : TransferData) (memoryAddress memorySize : ℕ) : Prop where
  download : transferData.transferDirection = .download
  address : transferData.memoryAddress.toNat = memoryAddress
  size : transferData.memorySize.toNat = memorySize
  current : transferData.currentBlockSequenceCounter = cInitialBlockSequenceCounter

theorem Receiving.block {content : Bytes} (receiving : transferData.Receiving memoryAddress content.length)
    (fits : memoryAddress + content.length ≤ cMemoryPoolSize) (metaInfo : MetaInfo)
    (cancellationHandler : CancellationHandler) :
    ∃ after, transferData.react (blockRequest metaInfo cancellationHandler (cInitialBlockSequenceCounter, content)) =
        (.response (echo cInitialBlockSequenceCounter), after) ∧
      after.Receiving memoryAddress content.length ∧
      after.memoryPool.Holds transferData.memoryPool memoryAddress content := by
  let request : UdsRequest := ⟨cSid :: cInitialBlockSequenceCounter :: content, metaInfo, cancellationHandler⟩
  show ∃ after, transferData.handleMessage request = _ ∧ _
  have given : transferData.accepted request.requestData = some cInitialBlockSequenceCounter := by
    show (some cInitialBlockSequenceCounter).filter _ = _
    rw [Option.filter_some, if_pos]
    refine decide_eq_true ⟨by rw [receiving.download]; exact TransferDirection.noConfusion, ?_⟩
    exact decide_eq_true (.inl receiving.current.symm)
  have handled := transferData.handling request
  generalize transferData.handleMessage request = outcome at handled ⊢
  obtain ⟨answer, after⟩ := outcome
  dsimp only at handled
  cases handled with
  | refuses nrc rejected => cases rejected.symm.trans given
  | stores expected download enough stored =>
    cases expected.symm.trans given
    have whole : content.take transferData.memorySize.toNat = content := by
      rw [receiving.size, List.take_length]
    replace stored : transferData.memoryPool.store transferData.memoryAddress.toNat
      (content.take transferData.memorySize.toNat) = .ok _ := stored
    rw [whole, receiving.address] at stored
    obtain ⟨memoryPool, isStored, holds⟩ := Block.store_ok fits transferData.memoryPool
    cases isStored.symm.trans stored
    exact ⟨_, rfl, ⟨receiving.download, receiving.address, receiving.size, rfl⟩, holds⟩
  | loads expected upload loaded => cases upload.symm.trans receiving.download
  | overreads expected download short =>
    rw [receiving.size] at short
    exact absurd short (lt_irrefl _)
  | leaves expected beyond =>
    rw [receiving.address, receiving.size] at beyond
    exact absurd fits beyond

/-- However often a block with all the bytes is retransmitted, it is stored in one place. -/
theorem Receiving.blocks {content : Bytes} (receiving : transferData.Receiving memoryAddress content.length)
    (fits : memoryAddress + content.length ≤ cMemoryPoolSize) (metaInfo : MetaInfo)
    (cancellationHandler : CancellationHandler) (retransmissions : ℕ) :
    ∃ after, transferData.conveys (List.replicate (retransmissions + 1)
        (blockRequest metaInfo cancellationHandler (cInitialBlockSequenceCounter, content))) = some after ∧
      after.Receiving memoryAddress content.length ∧
      after.memoryPool.Holds transferData.memoryPool memoryAddress content := by
  induction retransmissions generalizing transferData with
  | zero =>
    obtain ⟨after, handled, later⟩ := receiving.block fits metaInfo cancellationHandler
    refine ⟨after, conveys_cons.mpr ?_, later⟩
    rw [handled]
    exact ⟨echo_positive, rfl⟩
  | succ retransmissions ih =>
    obtain ⟨first, handled, receives, held⟩ := receiving.block fits metaInfo cancellationHandler
    obtain ⟨after, conveyed, still, holds⟩ := ih receives
    refine ⟨after, conveys_cons.mpr ?_, still, held.again holds rfl⟩
    rw [handled]
    exact ⟨echo_positive, conveyed⟩

/-- The service with no transfer. -/
def idle (transferData : TransferData) : TransferData :=
  { transferData with
    transferDirection := .none
    currentBlockSequenceCounter := cInitialBlockSequenceCounter
    nextBlockSequenceCounter := cInitialBlockSequenceCounter }

theorem conveys_exit (active : transferData.transferDirection ≠ .none) :
    transferData.conveys [exitRequest metaInfo cancellationHandler] = some transferData.idle := by
  have reset : transferData.tryResetTransferConfiguration = some transferData.idle :=
    tryResetTransferConfiguration_eq_some.mpr ⟨active, rfl⟩
  have handled : transferData.react (exitRequest metaInfo cancellationHandler) =
      (.response [RequestTransferExit.cSid + cPositiveResponseSidIncrement], transferData.idle) := by
    show RequestTransferExit.handleMessage transferData = _
    rw [RequestTransferExit.handleMessage, reset]
  rw [conveys_cons, handled]
  refine ⟨?_, rfl⟩
  show RequestTransferExit.cSid + cPositiveResponseSidIncrement ≠ cNegativeResponseCodeSid
  decide

end Requests

/-! ## Whole sessions -/

section Sessions
variable {memoryAddress : ℕ} {content : Bytes} {blocks : List (Bytes × ℕ)} {metaInfo : MetaInfo}
  {cancellationHandler : CancellationHandler}

/-- When every block holds as many bytes as all of them together, there is one. -/
theorem one_block (some_content : content ≠ []) (split : (blocks.map Prod.fst).flatten = content)
    (enough : ∀ block ∈ blocks, content.length ≤ block.1.length) :
    ∃ retransmissions, blocks = [(content, retransmissions)] := by
  have positive := List.length_pos_iff.mpr some_content
  match blocks with
  | [] => exact absurd split.symm some_content
  | [(only, retransmissions)] =>
    have same : only = content := by simpa using split
    exact ⟨retransmissions, by rw [same]⟩
  | (first, _) :: (second, _) :: rest =>
    have whole := congrArg List.length split
    simp only [List.map_cons, List.flatten_cons, List.length_append] at whole
    have firstEnough := enough _ List.mem_cons_self
    have secondEnough := enough _ (List.mem_cons_of_mem _ List.mem_cons_self)
    dsimp only at firstEnough secondEnough
    omega

/-- The first request and every block of a download that is answered positively. -/
theorem download_conveyed (some_content : content ≠ []) (fits : memoryAddress + content.length ≤ cMemoryPoolSize)
    (split : (blocks.map Prod.fst).flatten = content)
    (conveyed : before.conveys (download metaInfo cancellationHandler memoryAddress content blocks) = some after) :
    (∃ retransmissions, blocks = [(content, retransmissions)]) ∧ before.transferDirection = .none ∧
      ∃ number, metaInfo.tryExtractValue RequestTransfer.cMaxNumberOfBlockLengthKey = .ok (some number) := by
  obtain ⟨positive, conveyed⟩ := conveys_cons.mp conveyed
  have answered : downloadService.sid + cPositiveResponseSidIncrement ≠ cNegativeResponseCodeSid := by decide
  obtain ⟨idle, number, configured⟩ :=
    (requested answered (List.length_pos_iff.mpr some_content) fits _ rfl).mp ⟨positive, rfl⟩
  refine ⟨?_, idle, number⟩
  obtain ⟨received, conveyed, -⟩ := conveys_append.mp conveyed
  replace conveyed : (downloadService.handleMessage before _).2.conveys _ = some received := conveyed
  rw [configured] at conveyed
  apply one_block some_content split
  intro block there
  obtain ⟨counter, isThere⟩ := mem_numbered there cInitialBlockSequenceCounter
  have enough := blocks_enough rfl conveyed (counter, block.1) isThere
  rwa [transferring, toNat_short (by omega)] at enough

theorem download_conveys (some_content : content ≠ []) (fits : memoryAddress + content.length ≤ cMemoryPoolSize)
    (sound : before.Sound) (idle : before.transferDirection = .none)
    (extracted : ∃ number, metaInfo.tryExtractValue RequestTransfer.cMaxNumberOfBlockLengthKey = .ok (some number))
    (cancellationHandler : CancellationHandler) (retransmissions : ℕ) :
    ∃ stored, before.conveys
        (download metaInfo cancellationHandler memoryAddress content [(content, retransmissions)]) = some stored ∧
      stored.memoryPool.Holds before.memoryPool memoryAddress content ∧ stored.Sound ∧
      stored.transferDirection = .none := by
  have size := List.length_pos_iff.mpr some_content
  have answered : downloadService.sid + cPositiveResponseSidIncrement ≠ cNegativeResponseCodeSid := by decide
  let request : UdsRequest :=
    ⟨rangeRequest downloadService.sid memoryAddress content.length, metaInfo, cancellationHandler⟩
  obtain ⟨positive, configured⟩ := (requested answered size fits request rfl).mpr ⟨idle, extracted, rfl⟩
  have receiving : (before.transferring .download memoryAddress content.length).Receiving memoryAddress
      content.length :=
    ⟨rfl, toNat_short (by omega), toNat_short (by omega), (sound.initial idle).1⟩
  obtain ⟨received, conveyed, receives, holds⟩ := receiving.blocks fits metaInfo cancellationHandler retransmissions
  have active : received.transferDirection ≠ .none := by
    rw [receives.download]
    exact TransferDirection.noConfusion
  refine ⟨received.idle, conveys_cons.mpr ⟨positive, ?_⟩, holds, ⟨fun other => absurd rfl other, fun _ => ⟨rfl, rfl⟩⟩,
    rfl⟩
  show (downloadService.handleMessage before request).2.conveys _ = _
  rw [configured]
  refine conveys_append.mpr ⟨received, ?_, conveys_exit active⟩
  rw [numbered, numbered, List.append_nil, List.map_replicate]
  exact conveyed

theorem upload_block {pool : Block cMemoryPoolSize} (fits : memoryAddress + content.length ≤ cMemoryPoolSize)
    (holds : transferData.memoryPool.Holds pool memoryAddress content)
    (current : transferData.currentBlockSequenceCounter = cInitialBlockSequenceCounter) :
    (transferData.transferring .upload memoryAddress content.length).react
        (blockRequest metaInfo cancellationHandler (cInitialBlockSequenceCounter, [])) =
      (.response (echo cInitialBlockSequenceCounter ++ content),
        (transferData.transferring .upload memoryAddress content.length).counted cInitialBlockSequenceCounter) := by
  let request : UdsRequest := ⟨[cSid, cInitialBlockSequenceCounter], metaInfo, cancellationHandler⟩
  let uploading := transferData.transferring .upload memoryAddress content.length
  have address : uploading.memoryAddress.toNat = memoryAddress := toNat_short (by omega)
  have size : uploading.memorySize.toNat = content.length := toNat_short (by omega)
  show uploading.handleMessage request = _
  have given : uploading.accepted request.requestData = some cInitialBlockSequenceCounter := by
    show (some cInitialBlockSequenceCounter).filter _ = _
    rw [Option.filter_some, if_pos]
    exact decide_eq_true ⟨TransferDirection.noConfusion, decide_eq_true (.inl current.symm)⟩
  have handled := uploading.handling request
  generalize uploading.handleMessage request = outcome at handled ⊢
  obtain ⟨answer, after⟩ := outcome
  dsimp only at handled
  cases handled with
  | refuses nrc rejected => cases rejected.symm.trans given
  | loads expected upload loaded =>
    cases expected.symm.trans given
    rw [address, size] at loaded
    cases loaded.symm.trans (holds.load fits)
    rfl
  | stores expected download | overreads expected download => cases download
  | leaves expected beyond =>
    rw [address, size] at beyond
    exact absurd fits beyond

/-- From every reachable state: the download of bytes that fit into the pool is lossless exactly when they are sent
in one block, no transfer is active, and the meta-info has a maximum number of block length. -/
theorem lossless_iff_oneBlock (startAddress startSize : UInt64) (startPool : Block cMemoryPoolSize)
    {trace : List (Taken (Option TransferData) TransferInput Answer)}
    (run : Run step (some (make startAddress startSize startPool)) trace (some before))
    (some_content : content ≠ []) (fits : memoryAddress + content.length ≤ cMemoryPoolSize)
    (split : (blocks.map Prod.fst).flatten = content) (metaInfo : MetaInfo)
    (cancellationHandler : CancellationHandler) :
    Lossless metaInfo cancellationHandler before memoryAddress content blocks ↔
      blocks.length = 1 ∧ before.transferDirection = .none ∧
        ∃ number, metaInfo.tryExtractValue RequestTransfer.cMaxNumberOfBlockLengthKey = .ok (some number) := by
  constructor
  · rintro ⟨stored, _, _, _, downloaded, -⟩
    obtain ⟨⟨retransmissions, rfl⟩, conditions⟩ := download_conveyed some_content fits split downloaded
    exact ⟨rfl, conditions⟩
  · rintro ⟨one, idle, extracted⟩
    obtain ⟨⟨only, retransmissions⟩, rfl⟩ := List.length_eq_one_iff.mp one
    obtain rfl : only = content := by simpa using split
    obtain ⟨stored, downloaded, holds, sound, isIdle⟩ := download_conveys some_content fits
      (allSound_of_run run before rfl) idle extracted cancellationHandler retransmissions
    have answered : uploadService.sid + cPositiveResponseSidIncrement ≠ cNegativeResponseCodeSid := by decide
    obtain ⟨positive, configured⟩ := (requested answered (List.length_pos_iff.mpr some_content) fits
      ⟨_, metaInfo, cancellationHandler⟩ rfl).mpr ⟨isIdle, extracted, rfl⟩
    exact ⟨stored, _, _, _, downloaded, holds, conveys_cons.mpr ⟨positive, congrArg some configured⟩,
      upload_block fits holds (sound.initial isIdle).1, conveys_exit TransferDirection.noConfusion⟩

end Sessions

def blockLength : MetaInfo := ⟨[("MaxNumberOfBlockLength", "64")]⟩

/-- Two bytes in one block, which is sent three times. -/
theorem lossless_iff_oneBlock_retransmitted :
    Lossless blockLength ⟨false⟩ (make 0 0 blankPool) 1 [0xaa, 0xbb] [([0xaa, 0xbb], 2)] := by
  have run : Run step (some (make 0 0 blankPool)) [] (some (make 0 0 blankPool)) := .start
  have fits : 1 + ([0xaa, 0xbb] : Bytes).length ≤ cMemoryPoolSize := by decide
  have split : (([([0xaa, 0xbb], 2)] : List (Bytes × ℕ)).map Prod.fst).flatten = [0xaa, 0xbb] := rfl
  have extracted : blockLength.tryExtractValue RequestTransfer.cMaxNumberOfBlockLengthKey = .ok (some 64) := rfl
  exact (lossless_iff_oneBlock 0 0 blankPool run (List.cons_ne_nil _ _) fits split blockLength ⟨false⟩).mpr
    ⟨rfl, rfl, 64, extracted⟩

/-- Two bytes in two blocks: the first one is read beyond its end. -/
theorem not_always_lossless :
    (∃ requested : TransferData, (make 0 0 blankPool).conveys
          [ask blockLength ⟨false⟩ .requestDownload [0x34, 0, 0x22, 0, 1, 0, 2]] = some requested ∧
        (requested.react (blockRequest blockLength ⟨false⟩ (1, [0xaa]))).1 = .faulted .undefined) ∧
      ¬ Lossless blockLength ⟨false⟩ (make 0 0 blankPool) 1 [0xaa, 0xbb] [([0xaa], 0), ([0xbb], 0)] := by
  refine ⟨⟨_, rfl, rfl⟩, ?_⟩
  rintro ⟨stored, _, _, _, downloaded, -⟩
  have fits : 1 + ([0xaa, 0xbb] : Bytes).length ≤ cMemoryPoolSize := by decide
  obtain ⟨⟨retransmissions, one⟩, -⟩ := download_conveyed (List.cons_ne_nil _ _) fits rfl downloaded
  cases one

end TransferData
end AdaptiveAutosar.Diag
