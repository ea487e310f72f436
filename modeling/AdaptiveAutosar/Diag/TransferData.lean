import AdaptiveAutosar.Diag.UdsService
import AdaptiveAutosar.Foundations.BigEndian
import AdaptiveAutosar.Foundations.MemoryBlock
import AdaptiveAutosar.Foundations.Transition

/-! # The transfer of data

`TransferData` with the services that configure it: `DownloadService` and `UploadService`, which are both a
`RequestTransfer`, and `RequestTransferExit`. A `size_t` has 64 bits.
-/

namespace AdaptiveAutosar.Diag
open Foundations Foundations.BigEndian
set_option autoImplicit false

/-! ## TransferData -/

inductive TransferDirection where
  | none
  | download
  | upload
  deriving DecidableEq, Repr

def cMemoryPoolSize : ℕ := 1024

structure TransferData where
  transferDirection : TransferDirection
  memoryAddress : UInt64
  memorySize : UInt64
  memoryPool : Block cMemoryPoolSize
  currentBlockSequenceCounter : UInt8
  nextBlockSequenceCounter : UInt8
  deriving DecidableEq

namespace TransferData

def cSid : UInt8 := 0x36
def cInitialBlockSequenceCounter : UInt8 := 1
def cSequenceCounterIndex : ℕ := 1
def cRequestParameterOffset : ℕ := 2
def cWrongBlockSequenceCounter : UInt8 := 0x73

/-- The constructor leaves the address, the size and the pool as they are in the memory it is given. -/
def make (memoryAddress memorySize : UInt64) (memoryPool : Block cMemoryPoolSize) : TransferData :=
  ⟨.none, memoryAddress, memorySize, memoryPool, cInitialBlockSequenceCounter, cInitialBlockSequenceCounter⟩

def blankPool : Block cMemoryPoolSize := ⟨List.replicate cMemoryPoolSize 0, List.length_replicate⟩

def tryValidateSequenceCounter (service : TransferData) (counter : UInt8) : Bool :=
  counter = service.currentBlockSequenceCounter ∨ counter = service.nextBlockSequenceCounter

/-- The positive response without the record of the response. -/
def echo (blockSequenceCounter : UInt8) : Bytes := [cSid + cPositiveResponseSidIncrement, blockSequenceCounter]

/-- The response and the service, or the code to refuse with. -/
def tryTransfer (service : TransferData) (blockSequenceCounter : UInt8) (transferRequestParameterRecord : Bytes) :
    Outcome (Except UInt8 (Bytes × TransferData)) :=
  match service.transferDirection with
  | .download =>
    if service.tryValidateSequenceCounter blockSequenceCounter then do
      -- `std::copy` of as many bytes as are configured
      let content ← (Block.mk transferRequestParameterRecord rfl).load 0 service.memorySize.toNat
      let memoryPool ← service.memoryPool.store service.memoryAddress.toNat content
      pure (.ok (echo blockSequenceCounter, { service with memoryPool }))
    else pure (.error cWrongBlockSequenceCounter)
  | .upload =>
    if service.tryValidateSequenceCounter blockSequenceCounter then do
      let content ← service.memoryPool.load service.memoryAddress.toNat service.memorySize.toNat
      pure (.ok (echo blockSequenceCounter ++ content, service))
    else pure (.error cWrongBlockSequenceCounter)
  | .none => pure (.error cRequestSequenceError)

def handleMessage (service : TransferData) (request : UdsRequest) : Answer × TransferData :=
  match request.requestData[cSequenceCounterIndex]? with
  | none => (.refused cSid cIncorrectMessageLength, service)
  | some blockSequenceCounter =>
    match service.tryTransfer blockSequenceCounter (request.requestData.drop cRequestParameterOffset) with
    | .error e => (.faulted e, service)
    | .ok (.error nrc) => (.refused cSid nrc, service)
    | .ok (.ok (responseData, service)) =>
      (.response responseData,
        { service with
          currentBlockSequenceCounter := blockSequenceCounter
          nextBlockSequenceCounter := blockSequenceCounter + 1 })

/-- `none` is `false`. The sum is one of `size_t`. -/
def trySetTransferConfiguration (service : TransferData) (transferDirection : TransferDirection)
    (memoryAddress memorySize : UInt64) : Option TransferData :=
  if transferDirection = .none then none
  else if cMemoryPoolSize ≤ memoryAddress.toNat then none
  else if memorySize = 0 ∨ cMemoryPoolSize < (memoryAddress + memorySize).toNat then none
  else if service.transferDirection ≠ .none then none
  else some { service with transferDirection, memoryAddress, memorySize }

/-- `none` is `false`. -/
def tryResetTransferConfiguration (service : TransferData) : Option TransferData :=
  if service.transferDirection = .none then none
  else
    some { service with
      transferDirection := .none
      currentBlockSequenceCounter := cInitialBlockSequenceCounter
      nextBlockSequenceCounter := cInitialBlockSequenceCounter }

end TransferData

/-! ## RequestTransfer -/

/-- The constructor throws when the direction is not determined. -/
structure RequestTransfer where
  sid : UInt8
  transferDirection : TransferDirection
  determined : transferDirection ≠ .none

namespace RequestTransfer

def cRequestOutOfRange : UInt8 := 0x31
def cUploadDownloadNotAccepted : UInt8 := 0x70
def cMaxNumberOfBlockLengthKey : String := "MaxNumberOfBlockLength"
def cDataFormatIdentifier : UInt8 := 0
def cExpectedMemoryAddressLength : UInt8 := 2
def cExpectedMemorySizeLength : UInt8 := 2
def cNibbleMask : UInt8 := 0x0f
def cNibbleBitLength : UInt8 := 4

/-- The data format, the address and length format, and the memory address and size. -/
def tryParseRequest (requestData : Bytes) : Option (UInt8 × UInt8 × Bytes) :=
  match requestData with
  | _ :: dataFormatIdentifier :: addressAndLengthFormatIdentifier :: memoryAddressAndSize =>
    if memoryAddressAndSize = [] then none
    else some (dataFormatIdentifier, addressAndLengthFormatIdentifier, memoryAddressAndSize)
  | _ => none

/-- The memory address and the memory size. -/
def tryParseLengthFormat (dataFormatIdentifier addressAndLengthFormatIdentifier : UInt8)
    (memoryAddressAndSize : Bytes) : Option (UInt64 × UInt64) :=
  if dataFormatIdentifier ≠ cDataFormatIdentifier then none
  else if addressAndLengthFormatIdentifier &&& cNibbleMask = cExpectedMemoryAddressLength ∧
      addressAndLengthFormatIdentifier >>> cNibbleBitLength = cExpectedMemorySizeLength then
    match memoryAddressAndSize with
    | [addressMsb, addressLsb, sizeMsb, sizeLsb] =>
      some ((word16 addressMsb addressLsb).toUInt64, (word16 sizeMsb sizeLsb).toUInt64)
    | _ => none
  else none

def tryRequestTransfer (service : RequestTransfer) (transferData : TransferData)
    (memoryAddress memorySize : UInt64) : Option TransferData :=
  transferData.trySetTransferConfiguration service.transferDirection memoryAddress memorySize

def tryGeneratePositiveResponse (service : RequestTransfer) (metaInfo : MetaInfo) : Outcome (Option Bytes) := do
  let maxNumberOfBlockLength ← metaInfo.tryExtractValue cMaxNumberOfBlockLengthKey
  pure (maxNumberOfBlockLength.map fun number =>
    [service.sid + cPositiveResponseSidIncrement, 1 <<< cNibbleBitLength, UInt8.ofInt number])

/-- The error is the code of the `NrcExecption`. -/
def requestDataTransfer (service : RequestTransfer) (transferData : TransferData)
    (dataFormatIdentifier addressAndLengthFormatIdentifier : UInt8) (memoryAddressAndSize : Bytes) :
    Except UInt8 TransferData :=
  match tryParseLengthFormat dataFormatIdentifier addressAndLengthFormatIdentifier memoryAddressAndSize with
  | none => .error cRequestOutOfRange
  | some (memoryAddress, memorySize) =>
    match service.tryRequestTransfer transferData memoryAddress memorySize with
    | none => .error cUploadDownloadNotAccepted
    | some transferData => .ok transferData

def handleMessage (service : RequestTransfer) (transferData : TransferData) (request : UdsRequest) :
    Answer × TransferData :=
  match tryParseRequest request.requestData with
  | none => (.refused service.sid cIncorrectMessageLength, transferData)
  | some (dataFormatIdentifier, addressAndLengthFormatIdentifier, memoryAddressAndSize) =>
    match service.requestDataTransfer transferData dataFormatIdentifier addressAndLengthFormatIdentifier
      memoryAddressAndSize with
    | .error nrc => (.refused service.sid nrc, transferData)
    | .ok transferData =>
      match service.tryGeneratePositiveResponse request.metaInfo with
      | .error e => (.faulted e, transferData)
      | .ok none => (.refused service.sid cUploadDownloadNotAccepted, transferData)
      | .ok (some responseData) => (.response responseData, transferData)

end RequestTransfer

def downloadService : RequestTransfer := ⟨0x34, .download, TransferDirection.noConfusion⟩
def uploadService : RequestTransfer := ⟨0x35, .upload, TransferDirection.noConfusion⟩

/-! ## RequestTransferExit -/

namespace RequestTransferExit

def cSid : UInt8 := 0x37

def handleMessage (transferData : TransferData) : Answer × TransferData :=
  match transferData.tryResetTransferConfiguration with
  | none => (.refused cSid cRequestSequenceError, transferData)
  | some transferData => (.response [cSid + cPositiveResponseSidIncrement], transferData)

end RequestTransferExit

/-! ## What a request configures -/

namespace RequestTransfer
variable {service : RequestTransfer} {transferData after : TransferData} {request : UdsRequest}

/-- The address and the size that a request names. -/
def range (requestData : Bytes) : Option (UInt64 × UInt64) :=
  match tryParseRequest requestData with
  | none => none
  | some (dataFormatIdentifier, addressAndLengthFormatIdentifier, memoryAddressAndSize) =>
    tryParseLengthFormat dataFormatIdentifier addressAndLengthFormatIdentifier memoryAddressAndSize

/-- The transfer that a request sets up, whatever it is answered. -/
def configure (service : RequestTransfer) (transferData : TransferData) (requestData : Bytes) :
    Option TransferData :=
  match range requestData with
  | none => none
  | some (memoryAddress, memorySize) => service.tryRequestTransfer transferData memoryAddress memorySize

theorem handleMessage_none (rejected : service.configure transferData request.requestData = none) :
    ∃ nrc, service.handleMessage transferData request = (.refused service.sid nrc, transferData) := by
  unfold configure range at rejected
  unfold handleMessage
  generalize tryParseRequest request.requestData = parsed at rejected ⊢
  rcases parsed with _ | ⟨dataFormatIdentifier, lengthFormat, memoryAddressAndSize⟩
  · exact ⟨_, rfl⟩
  · dsimp only at rejected ⊢
    unfold requestDataTransfer
    generalize tryParseLengthFormat dataFormatIdentifier lengthFormat memoryAddressAndSize = named at rejected ⊢
    rcases named with _ | ⟨memoryAddress, memorySize⟩
    · exact ⟨_, rfl⟩
    · dsimp only at rejected ⊢
      rw [rejected]
      exact ⟨_, rfl⟩

theorem handleMessage_some (accepted : service.configure transferData request.requestData = some after) :
    service.handleMessage transferData request =
      ((match service.tryGeneratePositiveResponse request.metaInfo with
        | .error e => .faulted e
        | .ok none => .refused service.sid cUploadDownloadNotAccepted
        | .ok (some responseData) => .response responseData), after) := by
  unfold configure range at accepted
  unfold handleMessage
  generalize tryParseRequest request.requestData = parsed at accepted ⊢
  rcases parsed with _ | ⟨dataFormatIdentifier, lengthFormat, memoryAddressAndSize⟩
  · cases accepted
  · dsimp only at accepted ⊢
    unfold requestDataTransfer
    generalize tryParseLengthFormat dataFormatIdentifier lengthFormat memoryAddressAndSize = named at accepted ⊢
    rcases named with _ | ⟨memoryAddress, memorySize⟩
    · cases accepted
    · dsimp only at accepted ⊢
      rw [accepted]
      rcases service.tryGeneratePositiveResponse request.metaInfo with e | (_ | responseData) <;> rfl

theorem handleMessage_faulted {e : Fault} (failed : (service.handleMessage transferData request).1 = .faulted e) :
    ∃ exn, e = .thrown exn := by
  cases configured : service.configure transferData request.requestData with
  | none =>
    obtain ⟨nrc, handled⟩ := handleMessage_none configured
    rw [handled] at failed
    cases failed
  | some after =>
    rw [handleMessage_some configured, tryGeneratePositiveResponse] at failed
    cases extracted : request.metaInfo.tryExtractValue cMaxNumberOfBlockLengthKey with
    | error e' =>
      rw [extracted] at failed
      cases failed
      exact MetaInfo.tryExtractValue_thrown extracted
    | ok number =>
      rw [extracted] at failed
      cases number <;> cases failed

/-- The state behind a request is that of the transfer it sets up, if it sets up one. -/
theorem handleMessage_snd (service : RequestTransfer) (transferData : TransferData) (request : UdsRequest) :
    (service.handleMessage transferData request).2 =
      (service.configure transferData request.requestData).getD transferData := by
  cases configured : service.configure transferData request.requestData with
  | none =>
    obtain ⟨nrc, handled⟩ := handleMessage_none configured
    rw [handled]
    rfl
  | some after =>
    rw [handleMessage_some configured]
    rfl

theorem range_eq_some {requestData : Bytes} {memoryAddress memorySize : UInt64} :
    range requestData = some (memoryAddress, memorySize) ↔
      ∃ first lengthFormat addressMsb addressLsb sizeMsb sizeLsb,
        requestData = [first, cDataFormatIdentifier, lengthFormat, addressMsb, addressLsb, sizeMsb, sizeLsb] ∧
          lengthFormat &&& cNibbleMask = cExpectedMemoryAddressLength ∧
          lengthFormat >>> cNibbleBitLength = cExpectedMemorySizeLength ∧
          (word16 addressMsb addressLsb).toUInt64 = memoryAddress ∧
          (word16 sizeMsb sizeLsb).toUInt64 = memorySize := by
  constructor
  · intro parsed
    unfold range at parsed
    split at parsed
    · cases parsed
    · next dataFormat lengthFormat record isRequest =>
      unfold tryParseRequest at isRequest
      split at isRequest
      · split_ifs at isRequest
        cases isRequest
        unfold tryParseLengthFormat at parsed
        split_ifs at parsed with unsupported lengths
        split at parsed
        · cases parsed
          obtain rfl := not_ne_iff.mp unsupported
          exact ⟨_, _, _, _, _, _, rfl, lengths.1, lengths.2, rfl, rfl⟩
        · cases parsed
      · cases isRequest
  · rintro ⟨first, lengthFormat, addressMsb, addressLsb, sizeMsb, sizeLsb, rfl, addressLength, sizeLength, rfl, rfl⟩
    show tryParseLengthFormat cDataFormatIdentifier lengthFormat [addressMsb, addressLsb, sizeMsb, sizeLsb] = _
    rw [tryParseLengthFormat, if_neg (fun other => other rfl), if_pos ⟨addressLength, sizeLength⟩]

/-- The sum of a short address and a short size is no sum modulo the size of a `size_t`. -/
theorem toNat_add_of_range {requestData : Bytes} {memoryAddress memorySize : UInt64}
    (named : range requestData = some (memoryAddress, memorySize)) :
    (memoryAddress + memorySize).toNat = memoryAddress.toNat + memorySize.toNat := by
  obtain ⟨_, _, addressMsb, addressLsb, sizeMsb, sizeLsb, -, -, -, rfl, rfl⟩ := range_eq_some.mp named
  have address := (word16 addressMsb addressLsb).toNat_lt
  have size := (word16 sizeMsb sizeLsb).toNat_lt
  rw [UInt64.toNat_add, UInt16.toNat_toUInt64, UInt16.toNat_toUInt64]
  omega

/-- A transfer is set up for a range inside the pool when no other one is active. -/
theorem configure_eq_some {requestData : Bytes} :
    service.configure transferData requestData = some after ↔
      ∃ memoryAddress memorySize, range requestData = some (memoryAddress, memorySize) ∧
        transferData.transferDirection = .none ∧ 0 < memorySize.toNat ∧
        memoryAddress.toNat + memorySize.toNat ≤ cMemoryPoolSize ∧
        after = { transferData with
          transferDirection := service.transferDirection, memoryAddress, memorySize } := by
  constructor
  · intro set
    unfold configure at set
    split at set
    · cases set
    · next memoryAddress memorySize named =>
      have sum := toNat_add_of_range named
      unfold tryRequestTransfer TransferData.trySetTransferConfiguration at set
      split_ifs at set with undetermined beyond empty active
      obtain ⟨some_size, fits⟩ := not_or.mp empty
      refine ⟨memoryAddress, memorySize, named, not_ne_iff.mp active, ?_, ?_, (Option.some.inj set).symm⟩
      · exact Nat.pos_of_ne_zero fun zero => some_size (UInt64.toNat_inj.mp zero)
      · rw [← sum]
        exact not_lt.mp fits
  · rintro ⟨memoryAddress, memorySize, named, idle, positive, fits, rfl⟩
    have sum := toNat_add_of_range named
    rw [configure, named]
    show service.tryRequestTransfer transferData memoryAddress memorySize = _
    unfold tryRequestTransfer TransferData.trySetTransferConfiguration
    rw [if_neg service.determined, if_neg (by omega), if_neg, if_neg (fun active => active idle)]
    rintro (zero | beyond)
    · rw [zero] at positive
      cases positive
    · omega

end RequestTransfer

/-! ## What a block transfers -/

namespace TransferData
variable {service : TransferData} {request : UdsRequest}

/-- The block sequence counter of a request that a transfer is active for and expects. -/
def accepted (service : TransferData) (requestData : Bytes) : Option UInt8 :=
  requestData[cSequenceCounterIndex]?.filter fun blockSequenceCounter =>
    service.transferDirection ≠ .none ∧ service.tryValidateSequenceCounter blockSequenceCounter

/-- The service behind a block. -/
def counted (service : TransferData) (blockSequenceCounter : UInt8) : TransferData :=
  { service with
    currentBlockSequenceCounter := blockSequenceCounter
    nextBlockSequenceCounter := blockSequenceCounter + 1 }

/-- What the handling of a request can do. -/
inductive Handling (service : TransferData) (request : UdsRequest) : Answer → TransferData → Prop where
  | refuses (nrc : UInt8) (rejected : service.accepted request.requestData = none) :
      Handling service request (.refused cSid nrc) service
  | stores {blockSequenceCounter : UInt8} {memoryPool : Block cMemoryPoolSize}
      (expected : service.accepted request.requestData = some blockSequenceCounter)
      (download : service.transferDirection = .download)
      (enough : service.memorySize.toNat ≤ (request.requestData.drop cRequestParameterOffset).length)
      (stored : service.memoryPool.store service.memoryAddress.toNat
        ((request.requestData.drop cRequestParameterOffset).take service.memorySize.toNat) = .ok memoryPool) :
      Handling service request (.response (echo blockSequenceCounter))
        ({ service with memoryPool }.counted blockSequenceCounter)
  | loads {blockSequenceCounter : UInt8} {content : Bytes}
      (expected : service.accepted request.requestData = some blockSequenceCounter)
      (upload : service.transferDirection = .upload)
      (loaded : service.memoryPool.load service.memoryAddress.toNat service.memorySize.toNat = .ok content) :
      Handling service request (.response (echo blockSequenceCounter ++ content))
        (service.counted blockSequenceCounter)
  | overreads {blockSequenceCounter : UInt8}
      (expected : service.accepted request.requestData = some blockSequenceCounter)
      (download : service.transferDirection = .download)
      (short : (request.requestData.drop cRequestParameterOffset).length < service.memorySize.toNat) :
      Handling service request (.faulted .undefined) service
  | leaves {blockSequenceCounter : UInt8}
      (expected : service.accepted request.requestData = some blockSequenceCounter)
      (beyond : ¬ service.memoryAddress.toNat + service.memorySize.toNat ≤ cMemoryPoolSize) :
      Handling service request (.faulted .undefined) service

section Block
variable {blockSequenceCounter : UInt8} {record content : Bytes} {memoryPool : Block cMemoryPoolSize}

theorem tryTransfer_rejected (unexpected : ¬ (service.transferDirection ≠ .none ∧
      service.tryValidateSequenceCounter blockSequenceCounter = true)) (record : Bytes) :
    ∃ nrc, service.tryTransfer blockSequenceCounter record = .ok (.error nrc) := by
  unfold tryTransfer
  cases direction : service.transferDirection with
  | none => exact ⟨_, rfl⟩
  | download | upload =>
    have invalid : ¬ service.tryValidateSequenceCounter blockSequenceCounter = true := fun valid =>
      unexpected ⟨by rw [direction]; exact TransferDirection.noConfusion, valid⟩
    simp only [if_neg invalid]
    exact ⟨_, rfl⟩

theorem tryTransfer_download (download : service.transferDirection = .download)
    (valid : service.tryValidateSequenceCounter blockSequenceCounter = true)
    (enough : service.memorySize.toNat ≤ record.length) :
    service.tryTransfer blockSequenceCounter record =
      (service.memoryPool.store service.memoryAddress.toNat (record.take service.memorySize.toNat)).map
        fun memoryPool => .ok (echo blockSequenceCounter, { service with memoryPool }) := by
  unfold tryTransfer
  rw [download]
  simp only [if_pos valid]
  rw [Block.load_ok (by omega)]
  show (service.memoryPool.store service.memoryAddress.toNat (record.take service.memorySize.toNat) >>= _) = _
  cases service.memoryPool.store service.memoryAddress.toNat (record.take service.memorySize.toNat) <;> rfl

theorem tryTransfer_overreads (download : service.transferDirection = .download)
    (valid : service.tryValidateSequenceCounter blockSequenceCounter = true)
    (short : ¬ service.memorySize.toNat ≤ record.length) :
    service.tryTransfer blockSequenceCounter record = .error .undefined := by
  unfold tryTransfer
  rw [download]
  simp only [if_pos valid]
  rw [Block.load_undefined (by omega)]
  rfl

theorem tryTransfer_upload (upload : service.transferDirection = .upload)
    (valid : service.tryValidateSequenceCounter blockSequenceCounter = true) (record : Bytes) :
    service.tryTransfer blockSequenceCounter record =
      (service.memoryPool.load service.memoryAddress.toNat service.memorySize.toNat).map
        fun content => .ok (echo blockSequenceCounter ++ content, service) := by
  unfold tryTransfer
  rw [upload]
  simp only [if_pos valid]
  cases service.memoryPool.load service.memoryAddress.toNat service.memorySize.toNat <;> rfl

end Block

theorem handling (service : TransferData) (request : UdsRequest) :
    Handling service request (service.handleMessage request).1 (service.handleMessage request).2 := by
  cases given : request.requestData[cSequenceCounterIndex]? with
  | none =>
    rw [handleMessage, given]
    exact .refuses _ (by rw [accepted, given]; rfl)
  | some blockSequenceCounter =>
    by_cases expects : service.transferDirection ≠ .none ∧
        service.tryValidateSequenceCounter blockSequenceCounter = true
    · have expected : service.accepted request.requestData = some blockSequenceCounter := by
        rw [accepted, given, Option.filter_some, if_pos (decide_eq_true expects)]
      obtain ⟨active, valid⟩ := expects
      cases direction : service.transferDirection with
      | none => exact absurd direction active
      | download =>
        by_cases enough : service.memorySize.toNat ≤ (request.requestData.drop cRequestParameterOffset).length
        · have transferred := tryTransfer_download direction valid enough
          have size : ((request.requestData.drop cRequestParameterOffset).take service.memorySize.toNat).length =
              service.memorySize.toNat := by rw [List.length_take, Nat.min_eq_left enough]
          by_cases fits : service.memoryAddress.toNat + service.memorySize.toNat ≤ cMemoryPoolSize
          · obtain ⟨memoryPool, stored, -⟩ := Block.store_ok (size.symm ▸ fits) service.memoryPool
            rw [stored] at transferred
            simp only [handleMessage, given, transferred]
            exact .stores expected direction enough stored
          · rw [Block.store_undefined (size.symm ▸ fits)] at transferred
            simp only [handleMessage, given, transferred]
            exact .leaves expected fits
        · simp only [handleMessage, given, tryTransfer_overreads direction valid enough]
          exact .overreads expected direction (not_le.mp enough)
      | upload =>
        have transferred := tryTransfer_upload direction valid
          (request.requestData.drop cRequestParameterOffset)
        by_cases fits : service.memoryAddress.toNat + service.memorySize.toNat ≤ cMemoryPoolSize
        · have loaded := Block.load_ok fits service.memoryPool
          rw [loaded] at transferred
          simp only [handleMessage, given, transferred]
          exact .loads expected direction loaded
        · rw [Block.load_undefined fits] at transferred
          simp only [handleMessage, given, transferred]
          exact .leaves expected fits
    · obtain ⟨nrc, rejected⟩ := tryTransfer_rejected expects
        (request.requestData.drop cRequestParameterOffset)
      simp only [handleMessage, given, rejected]
      refine .refuses _ ?_
      rw [accepted, given, Option.filter_some, if_neg]
      exact fun expected => expects (of_decide_eq_true expected)

end TransferData

/-! ## The services together -/

inductive TransferService where
  | requestDownload
  | requestUpload
  | transferData
  | requestTransferExit
  deriving DecidableEq, Repr

structure TransferInput where
  service : TransferService
  request : UdsRequest
  deriving DecidableEq, Repr

namespace TransferData
variable {transferData after : TransferData}

def react (transferData : TransferData) (input : TransferInput) : Answer × TransferData :=
  match input.service with
  | .requestDownload => downloadService.handleMessage transferData input.request
  | .requestUpload => uploadService.handleMessage transferData input.request
  | .transferData => transferData.handleMessage input.request
  | .requestTransferExit => RequestTransferExit.handleMessage transferData

/-- Behind an undefined access there is no state any more. -/
def step (state : Option TransferData) (input : TransferInput) : Except Unit (Answer × Option TransferData) :=
  match state with
  | none => .error ()
  | some transferData =>
    let (answer, after) := transferData.react input
    .ok (answer, if answer = .faulted .undefined then none else some after)

theorem tryResetTransferConfiguration_eq_some :
    transferData.tryResetTransferConfiguration = some after ↔ transferData.transferDirection ≠ .none ∧
      after = { transferData with
        transferDirection := .none
        currentBlockSequenceCounter := cInitialBlockSequenceCounter
        nextBlockSequenceCounter := cInitialBlockSequenceCounter } := by
  unfold tryResetTransferConfiguration
  split_ifs with idle
  · exact iff_of_false (fun same => by cases same) (fun active => active.1 idle)
  · exact ⟨fun same => ⟨idle, (Option.some.inj same).symm⟩, fun same => congrArg some same.2.symm⟩

/-- An active transfer has a range inside the pool, and without one the counters are those of the start. -/
structure Sound (transferData : TransferData) : Prop where
  inside : transferData.transferDirection ≠ .none →
    transferData.memoryAddress.toNat + transferData.memorySize.toNat ≤ cMemoryPoolSize
  initial : transferData.transferDirection = .none →
    transferData.currentBlockSequenceCounter = cInitialBlockSequenceCounter ∧
      transferData.nextBlockSequenceCounter = cInitialBlockSequenceCounter

theorem sound_make (memoryAddress memorySize : UInt64) (memoryPool : Block cMemoryPoolSize) :
    (make memoryAddress memorySize memoryPool).Sound where
  inside active := absurd rfl active
  initial _ := ⟨rfl, rfl⟩

theorem Sound.requested (sound : transferData.Sound) (service : RequestTransfer) (request : UdsRequest) :
    (service.handleMessage transferData request).2.Sound := by
  rw [service.handleMessage_snd]
  cases configured : service.configure transferData request.requestData with
  | none => exact sound
  | some after =>
    obtain ⟨memoryAddress, memorySize, -, -, -, fits, rfl⟩ := RequestTransfer.configure_eq_some.mp configured
    exact ⟨fun _ => fits, fun idle => absurd idle service.determined⟩

theorem accepted_active {requestData : Bytes} {blockSequenceCounter : UInt8}
    (expected : transferData.accepted requestData = some blockSequenceCounter) :
    transferData.transferDirection ≠ .none :=
  (of_decide_eq_true (Option.filter_eq_some_iff.mp expected).2).1

theorem Sound.transferred (sound : transferData.Sound) (request : UdsRequest) :
    (transferData.handleMessage request).2.Sound := by
  have handled := transferData.handling request
  generalize (transferData.handleMessage request).1 = answer at handled
  generalize (transferData.handleMessage request).2 = after at handled
  cases handled with
  | refuses | overreads | leaves => exact sound
  | stores expected | loads expected =>
    have active := accepted_active expected
    exact ⟨sound.inside, fun idle => absurd idle active⟩

theorem Sound.react (sound : transferData.Sound) (input : TransferInput) : (transferData.react input).2.Sound := by
  unfold TransferData.react
  cases input.service with
  | requestDownload => exact sound.requested downloadService input.request
  | requestUpload => exact sound.requested uploadService input.request
  | transferData => exact sound.transferred input.request
  | requestTransferExit =>
    dsimp only
    unfold RequestTransferExit.handleMessage
    cases reset : transferData.tryResetTransferConfiguration with
    | none => exact sound
    | some after =>
      obtain ⟨-, rfl⟩ := tryResetTransferConfiguration_eq_some.mp reset
      exact ⟨fun active => absurd rfl active, fun _ => ⟨rfl, rfl⟩⟩

/-- As long as there is a state, it is sound. -/
def AllSound (state : Option TransferData) : Prop := ∀ transferData ∈ state, transferData.Sound

theorem allSound_make (memoryAddress memorySize : UInt64) (memoryPool : Block cMemoryPoolSize) :
    AllSound (some (make memoryAddress memorySize memoryPool)) := by
  rintro _ ⟨⟩
  exact sound_make memoryAddress memorySize memoryPool

theorem AllSound.step {state state' : Option TransferData} {input : TransferInput} {answer : Answer}
    (sound : AllSound state) (taken : TransferData.step state input = .ok (answer, state')) : AllSound state' := by
  cases state with
  | none => cases taken
  | some transferData =>
    cases taken
    split_ifs
    · exact fun _ there => by cases there
    · rintro _ ⟨⟩
      exact (sound transferData rfl).react input

theorem allSound_of_run {memoryAddress memorySize : UInt64} {memoryPool : Block cMemoryPoolSize}
    {trace : List (Taken (Option TransferData) TransferInput Answer)} {state : Option TransferData}
    (run : Run TransferData.step (some (make memoryAddress memorySize memoryPool)) trace state) : AllSound state :=
  Run.reached (allSound_make memoryAddress memorySize memoryPool) (fun _ _ _ _ sound taken => sound.step taken) run

end TransferData

end AdaptiveAutosar.Diag
