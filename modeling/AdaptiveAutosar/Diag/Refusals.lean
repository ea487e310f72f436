import AdaptiveAutosar.Diag.UdsServiceRouter

/-! # What a negative response leaves behind

A transfer is set up, and the rapid shutdown is enabled, before the meta-info is asked for the value that the positive
response needs.
-/

namespace AdaptiveAutosar.Diag
open Foundations
set_option autoImplicit false

theorem MetaInfo.getValue_isSome_of_error {metaInfo : MetaInfo} {key : String} {e : Fault}
    (failed : metaInfo.tryExtractValue key = .error e) : (metaInfo.getValue key).isSome := by
  cases present : metaInfo.getValue key with
  | none => cases (tryExtractValue_none present).symm.trans failed
  | some valueStr => rfl

theorem MetaInfo.getValue_isSome_of_some {metaInfo : MetaInfo} {key : String} {number : ℤ}
    (extracted : metaInfo.tryExtractValue key = .ok (some number)) : (metaInfo.getValue key).isSome := by
  cases present : metaInfo.getValue key with
  | none => cases (tryExtractValue_none present).symm.trans extracted
  | some valueStr => rfl

/-! ## The services -/

namespace RequestTransfer
variable {service : RequestTransfer} {transferData : TransferData}

/-- No transfer is active, and the request is one for a range of the pool. -/
def Acceptable (transferData : TransferData) (requestData : Bytes) : Prop :=
  ∃ named ∈ range requestData, transferData.transferDirection = .none ∧ 0 < named.2.toNat ∧
    named.1.toNat + named.2.toNat ≤ cMemoryPoolSize

instance (transferData : TransferData) (requestData : Bytes) : Decidable (Acceptable transferData requestData) := by
  unfold Acceptable
  infer_instance

theorem acceptable_iff {requestData : Bytes} : Acceptable transferData requestData ↔
    ∃ after, service.configure transferData requestData = some after := by
  constructor
  · rintro ⟨⟨memoryAddress, memorySize⟩, named, idle, positive, fits⟩
    exact ⟨_, configure_eq_some.mpr ⟨memoryAddress, memorySize, named, idle, positive, fits, rfl⟩⟩
  · rintro ⟨after, configured⟩
    obtain ⟨memoryAddress, memorySize, named, idle, positive, fits, -⟩ := configure_eq_some.mp configured
    exact ⟨(memoryAddress, memorySize), named, idle, positive, fits⟩

theorem configure_ne {requestData : Bytes} {after : TransferData}
    (configured : service.configure transferData requestData = some after) : after ≠ transferData := by
  obtain ⟨_, _, -, idle, -, -, rfl⟩ := configure_eq_some.mp configured
  intro same
  exact service.determined ((congrArg TransferData.transferDirection same).trans idle)

theorem unchanged_iff (answered : service.sid + cPositiveResponseSidIncrement ≠ cNegativeResponseCodeSid)
    (transferData : TransferData) (request : UdsRequest) :
    ((service.handleMessage transferData request).1.IsNegative →
        (service.handleMessage transferData request).2 = transferData) ↔
      (Acceptable transferData request.requestData →
        (request.metaInfo.getValue cMaxNumberOfBlockLengthKey).isSome) := by
  cases configured : service.configure transferData request.requestData with
  | none =>
    obtain ⟨nrc, handled⟩ := handleMessage_none configured
    rw [handled]
    refine iff_of_true (fun _ => rfl) (fun acceptable => ?_)
    obtain ⟨after, impossible⟩ := acceptable_iff.mp acceptable
    cases configured.symm.trans impossible
  | some after =>
    have acceptable : Acceptable transferData request.requestData := acceptable_iff.mpr ⟨after, configured⟩
    rw [handleMessage_some configured, tryGeneratePositiveResponse]
    cases extracted : request.metaInfo.tryExtractValue cMaxNumberOfBlockLengthKey with
    | error e => exact iff_of_true False.elim (fun _ => MetaInfo.getValue_isSome_of_error extracted)
    | ok number =>
      cases number with
      | none =>
        have absent := (request.metaInfo.tryExtractValue_eq_none _).mp extracted
        refine iff_of_false (fun unchanged => configure_ne configured (unchanged rfl)) (fun present => ?_)
        have given := present acceptable
        rw [absent] at given
        cases given
      | some number =>
        exact iff_of_true (fun negative => absurd negative answered)
          (fun _ => MetaInfo.getValue_isSome_of_some extracted)

end RequestTransfer

theorem EcuResetRequest.unchanged_iff (service : EcuResetRequest) (request : UdsRequest) :
    ((service.handleMessage request).1.IsNegative → (service.handleMessage request).2 = service) ↔
      (request.requestData[cSubFunctionIndex]? = some cEnableRapidShutdownSubFunction →
        service.rapidShutdownEnabled = false → (request.metaInfo.getValue cPowerDownTimeKey).isSome) := by
  have positive : cSid + cPositiveResponseSidIncrement ≠ cNegativeResponseCodeSid := by decide
  have handled := service.handling request
  generalize (service.handleMessage request).1 = answer at handled
  generalize (service.handleMessage request).2 = after at handled
  cases handled with
  | refuses nrc other => exact iff_of_true (fun _ => rfl) (fun enable => absurd enable other)
  | resets given other =>
    refine iff_of_true (fun negative => absurd negative positive) (fun enable => ?_)
    exact absurd (Option.some.inj (given.symm.trans enable)) other
  | enables given extracted =>
    exact iff_of_true (fun negative => absurd negative positive)
      (fun _ _ => MetaInfo.getValue_isSome_of_some extracted)
  | faults given failed =>
    exact iff_of_true False.elim (fun _ _ => MetaInfo.getValue_isSome_of_error failed)
  | lacks given absent =>
    have missing := (request.metaInfo.tryExtractValue_eq_none _).mp absent
    rw [missing]
    constructor
    · intro unchanged _ disabled
      have enabled := congrArg EcuResetRequest.rapidShutdownEnabled (unchanged rfl)
      cases enabled.trans disabled
    · intro present _
      cases enabled : service.rapidShutdownEnabled with
      | false => cases present given enabled
      | true =>
        unfold enableRapidShutdown
        rw [← enabled]

theorem TransferData.unchanged (service : TransferData) (request : UdsRequest)
    (negative : (service.handleMessage request).1.IsNegative) : (service.handleMessage request).2 = service := by
  have positive : cSid + cPositiveResponseSidIncrement ≠ cNegativeResponseCodeSid := by decide
  have handled := service.handling request
  generalize (service.handleMessage request).1 = answer at handled negative
  generalize (service.handleMessage request).2 = after at handled
  cases handled with
  | refuses => rfl
  | stores | loads => exact absurd negative positive
  | overreads | leaves => cases negative

theorem RequestTransferExit.unchanged (transferData : TransferData)
    (negative : (handleMessage transferData).1.IsNegative) : (handleMessage transferData).2 = transferData := by
  have positive : cSid + cPositiveResponseSidIncrement ≠ cNegativeResponseCodeSid := by decide
  unfold handleMessage at negative ⊢
  split at negative
  · rfl
  · exact absurd negative positive

/-! ## Runs -/

inductive ServiceInput where
  | message (service : RoutableUdsService) (request : UdsRequest)
  | expire
  deriving DecidableEq, Repr

namespace UdsServices

def react (services : UdsServices) (input : ServiceInput) : Option Answer × UdsServices :=
  match input with
  | .message service request => (services.handleMessage service request).map some id
  | .expire => (none, services.expire)

def step (state : Option UdsServices) (input : ServiceInput) : Except Unit (Option Answer × Option UdsServices) :=
  match state with
  | none => .error ()
  | some services =>
    let (answer, after) := services.react input
    .ok (answer, if answer.any Answer.ends then none else some after)

/-- When a service other than `SecurityAccess` answers negatively, the state is the one before. -/
def Unchanged (taken : Taken (Option UdsServices) ServiceInput (Option Answer)) : Prop :=
  ∀ services ∈ taken.before, ∀ service request, taken.input = .message service request →
    service ≠ .securityAccess → (∃ answer ∈ taken.output, answer.IsNegative) →
    (services.react taken.input).2 = services

/-- A request that is acceptable but for its meta-info comes with the value that the positive response needs. -/
def Complete : Option UdsServices → ServiceInput → Prop
  | some services, .message .requestDownload request | some services, .message .requestUpload request =>
    RequestTransfer.Acceptable services.transferData request.requestData →
      (request.metaInfo.getValue RequestTransfer.cMaxNumberOfBlockLengthKey).isSome
  | some services, .message .ecuReset request =>
    request.requestData[EcuResetRequest.cSubFunctionIndex]? = some EcuResetRequest.cEnableRapidShutdownSubFunction →
      services.ecuReset.rapidShutdownEnabled = false →
      (request.metaInfo.getValue EcuResetRequest.cPowerDownTimeKey).isSome
  | _, _ => True

instance (state : Option UdsServices) (input : ServiceInput) : Decidable (Complete state input) := by
  unfold Complete
  split <;> infer_instance

theorem withTransferData_eq (services : UdsServices) (transferData : TransferData) :
    services.withTransferData transferData = services ↔ transferData = services.transferData := by
  constructor
  · exact congrArg UdsServices.transferData
  · rintro rfl
    rfl

theorem unchanged_iff (services : UdsServices) (service : RoutableUdsService) (request : UdsRequest)
    (other : service ≠ .securityAccess) :
    ((services.handleMessage service request).1.IsNegative → (services.handleMessage service request).2 = services) ↔
      Complete (some services) (.message service request) := by
  cases service with
  | securityAccess => exact absurd rfl other
  | ecuReset =>
    refine Iff.trans ?_ (services.ecuReset.unchanged_iff request)
    refine forall_congr' fun _ => ⟨congrArg UdsServices.ecuReset, fun same => ?_⟩
    show ({ services with ecuReset := (services.ecuReset.handleMessage request).2 } : UdsServices) = services
    rw [same]
  | requestDownload =>
    refine Iff.trans ?_ (RequestTransfer.unchanged_iff (by decide : downloadService.sid + _ ≠ _)
      services.transferData request)
    exact forall_congr' fun _ => services.withTransferData_eq _
  | requestUpload =>
    refine Iff.trans ?_ (RequestTransfer.unchanged_iff (by decide : uploadService.sid + _ ≠ _)
      services.transferData request)
    exact forall_congr' fun _ => services.withTransferData_eq _
  | transferData =>
    refine iff_of_true (fun negative => (services.withTransferData_eq _).mpr ?_) trivial
    exact services.transferData.unchanged request negative
  | requestTransferExit =>
    refine iff_of_true (fun negative => (services.withTransferData_eq _).mpr ?_) trivial
    exact RequestTransferExit.unchanged services.transferData negative

/-- For every sequence of requests with any meta-info: a negative response leaves the state as it was exactly when no
request is refused for want of a value that only its positive response needs. -/
theorem unchanged_iff_complete (services : UdsServices)
    {trace : List (Taken (Option UdsServices) ServiceInput (Option Answer))} {state : Option UdsServices}
    (run : Run step (some services) trace state) :
    (∀ taken ∈ trace, Unchanged taken) ↔ Run.Every Complete trace := by
  let anywhere (_ : Option UdsServices) : Prop := True
  have start : anywhere (some services) := trivial
  refine Run.all_iff_every start (fun _ _ _ _ _ _ => trivial) ?_ run
  intro state input answer state' _ taken
  cases state with
  | none => cases taken
  | some services =>
    cases taken
    cases input with
    | expire => exact iff_of_true (fun _ _ _ _ isMessage => by cases isMessage) trivial
    | message service request =>
      by_cases isAccess : service = .securityAccess
      · subst isAccess
        refine iff_of_true (fun _ _ service _ isMessage other => ?_) trivial
        cases isMessage
        exact absurd rfl other
      · rw [← services.unchanged_iff service request isAccess]
        constructor
        · exact fun unchanged negative => unchanged services rfl service request rfl isAccess ⟨_, rfl, negative⟩
        · rintro unchanged _ ⟨⟩ _ _ isMessage _ ⟨_, ⟨⟩, negative⟩
          exact unchanged negative

def message (service : RoutableUdsService) (requestData : Bytes) (values : List (String × String)) : ServiceInput :=
  .message service ⟨requestData, ⟨values⟩, ⟨false⟩⟩

/-- A range outside the pool and a second reset are refused. -/
theorem unchanged_iff_complete_refused : ∃ trace state,
    Run.play step [] (some (make 0 0 TransferData.blankPool)) [message .requestDownload [0x34, 0, 0x22, 4, 0, 0, 1] [],
        message .ecuReset [0x11, 1] [], message .ecuReset [0x11, 2] []] = .ok (trace, state) ∧
      (∀ taken ∈ trace, Unchanged taken) ∧
      trace.map Taken.output = [some (.refused 0x11 0x12), some (.response [0x51, 1]), some (.refused 0x34 0x70)] := by
  obtain ⟨trace, state, played, every, outputs⟩ : ∃ trace state,
      Run.play step [] (some (make 0 0 TransferData.blankPool))
        [message .requestDownload [0x34, 0, 0x22, 4, 0, 0, 1] [],
          message .ecuReset [0x11, 1] [], message .ecuReset [0x11, 2] []] = .ok (trace, state) ∧
        Run.Every Complete trace ∧
        trace.map Taken.output =
          [some (.refused 0x11 0x12), some (.response [0x51, 1]), some (.refused 0x34 0x70)] :=
    ⟨_, _, rfl, by decide, rfl⟩
  exact ⟨trace, state, played,
    (unchanged_iff_complete (make 0 0 TransferData.blankPool) (Run.of_play .start played)).mpr every, outputs⟩

/-- Without a maximum number of block length a download is refused and set up, and without a power-down time the rapid
shutdown is refused and enabled. -/
theorem not_always_unchanged : ∃ trace services,
    Run.play step [] (some (make 0 0 TransferData.blankPool)) [message .requestDownload [0x34, 0, 0x22, 0, 0, 0, 1] [],
        message .ecuReset [0x11, 4] []] = .ok (trace, some services) ∧
      trace.map Taken.output = [some (.refused 0x11 0x12), some (.refused 0x34 0x70)] ∧
      services.transferData.transferDirection = .download ∧ services.ecuReset.rapidShutdownEnabled = true ∧
      ¬ ∀ taken ∈ trace, Unchanged taken := by
  refine ⟨_, _, rfl, rfl, rfl, rfl, fun all => ?_⟩
  have same := all _ List.mem_cons_self _ rfl _ _ rfl RoutableUdsService.noConfusion ⟨_, rfl, rfl⟩
  cases congrArg (fun services => services.ecuReset.rapidShutdownEnabled) same

end UdsServices
end AdaptiveAutosar.Diag
