import AdaptiveAutosar.PackageManagement.Calls

/-! # Proxy and skeleton agree on the wire format

The skeleton reads back the call the proxy wrote, and the proxy the reply the skeleton wrote, exactly
when every size fits its prefix: 16 bits for strings, 32 bits for blocks and lists.
-/

namespace AdaptiveAutosar.PackageManagement
open Foundations Foundations.BigEndian Foundations.Cursor AdaptiveAutosar.Ucm
set_option autoImplicit false

/-- The strings fit their prefixes. -/
def PackageInfoFits (info : PackageInfoType) : Prop :=
  info.name.length < 2 ^ 16 ∧ info.version.length < 2 ^ 16

def Call.Fits : Call → Prop
  | transferStart info => PackageInfoFits info
  | transferData _ block _ => block.length < 2 ^ 32
  | activate installRoot manifestPath => installRoot.length < 2 ^ 16 ∧ manifestPath.length < 2 ^ 16
  | _ => True

def Reply.Fits : Reply → Prop
  | clusters infos => infos.length < 2 ^ 32 ∧ ∀ info ∈ infos, PackageInfoFits info
  | _ => True

/-- The skeleton extracts the arguments of the call from its request and consumes all of it. -/
def Call.Agrees (call : Call) : Prop :=
  PackageManagementSkeleton.arguments call.method (PackageManagementProxy.request call) 0 =
    .ok (call, (PackageManagementProxy.request call).length)

/-- The proxy returns what the skeleton replied. -/
def Reply.Agrees (method : Method) (reply : Reply) : Prop :=
  PackageManagementProxy.result method (some (PackageManagementSkeleton.response reply)) =
    .ok reply.returned

/-! ## A string or a block in front -/

section Prefixed
variable {α : Type} {f : Bytes → Cursor UInt8 α} {buffer s rest : Bytes} {offset : ℕ} {r : α × ℕ}

/-- When the result tells which string was read, it is read back only if it fits its prefix. -/
theorem bind_extractString_iff (holds : HoldsAt buffer offset (stringRecord s ++ rest))
    (tells : ∀ s' offset', f s' buffer offset' = .ok r → s' = s) :
    (extractString >>= f) buffer offset = .ok r ↔
      s.length < 2 ^ 16 ∧ f s buffer (offset + (stringRecord s).length) = .ok r := by
  obtain ⟨front, -⟩ := holds.append
  constructor
  · intro h
    obtain ⟨s', offset', read, after⟩ := bind_ok_inv h
    obtain rfl := tells s' offset' after
    have fits := length_lt_of_extractString front read
    rw [(extractString_record fits).then_at f front] at h
    exact ⟨fits, h⟩
  · rintro ⟨fits, after⟩
    rw [(extractString_record fits).then_at f front]
    exact after

theorem bind_extractBytes_iff (holds : HoldsAt buffer offset (bytesRecord s ++ rest))
    (tells : ∀ s' offset', f s' buffer offset' = .ok r → s' = s) :
    (extractBytes >>= f) buffer offset = .ok r ↔
      s.length < 2 ^ 32 ∧ f s buffer (offset + (bytesRecord s).length) = .ok r := by
  obtain ⟨front, -⟩ := holds.append
  constructor
  · intro h
    obtain ⟨s', offset', read, after⟩ := bind_ok_inv h
    obtain rfl := tells s' offset' after
    have fits := length_lt_of_extractBytes front read
    rw [(extractBytes_record fits).then_at f front] at h
    exact ⟨fits, h⟩
  · rintro ⟨fits, after⟩
    rw [(extractBytes_record fits).then_at f front]
    exact after

end Prefixed

/-- What the name, the version and the size of a package leave on the wire. -/
def infoRecord (info : PackageInfoType) : Bytes :=
  stringRecord info.name ++ (stringRecord info.version ++ bytes64 info.size)

theorem bind_extractInfo_iff {α : Type} {f : PackageInfoType → Cursor UInt8 α} {buffer : Bytes}
    {offset : ℕ} {info : PackageInfoType} {r : α × ℕ} (holds : HoldsAt buffer offset (infoRecord info))
    (tells : ∀ info' offset', f info' buffer offset' = .ok r → info' = info) :
    (do
        let name ← extractString
        let version ← extractString
        let size ← extractU64
        f ⟨name, version, size⟩ : Cursor UInt8 α) buffer offset = .ok r ↔
      PackageInfoFits info ∧ f info buffer (offset + (infoRecord info).length) = .ok r := by
  have second := holds.append.2
  have third := second.append.2
  have size : (infoRecord info).length = (stringRecord info.name).length +
      ((stringRecord info.version).length + (bytes64 info.size).length) := by
    simp only [infoRecord, List.length_append]
  rw [bind_extractString_iff holds, bind_extractString_iff second,
    (extractU64_bytes64 info.size).then_at _ third, size, ← and_assoc]
  · simp only [Nat.add_assoc]
    rfl
  · intro version' offset' after
    obtain ⟨_, _, _, last⟩ := bind_ok_inv after
    exact congrArg PackageInfoType.version (tells _ _ last)
  · intro name' offset' after
    obtain ⟨_, _, _, after⟩ := bind_ok_inv after
    obtain ⟨_, _, _, last⟩ := bind_ok_inv after
    exact congrArg PackageInfoType.name (tells _ _ last)

/-! ## Requests -/

theorem transferStart_agrees (info : PackageInfoType) :
    (Call.transferStart info).Agrees ↔ PackageInfoFits info := by
  have req : PackageManagementProxy.request (.transferStart info) = infoRecord info := by
    simp only [PackageManagementProxy.request, appendString_eq, appendU64, infoRecord, List.nil_append,
      List.append_assoc]
  have whole : HoldsAt (PackageManagementProxy.request (.transferStart info)) 0 (infoRecord info) :=
    ⟨[], [], by rw [req, List.nil_append, List.append_nil], rfl⟩
  refine (bind_extractInfo_iff (f := fun info => pure (Call.transferStart info)) whole ?_).trans ?_
  · intro info' offset' last
    exact Call.transferStart.inj (congrArg Prod.fst (Except.ok.inj last))
  · refine and_iff_left ?_
    rw [req, Nat.zero_add]
    rfl

theorem transferData_agrees (id : TransferIdType) (block : Bytes) (blockCounter : UInt32) :
    (Call.transferData id block blockCounter).Agrees ↔ block.length < 2 ^ 32 := by
  have req : PackageManagementProxy.request (.transferData id block blockCounter) =
      bytes32 id ++ (bytesRecord block ++ bytes32 blockCounter) := by
    simp only [PackageManagementProxy.request, appendBytes_eq, appendU32, List.nil_append,
      List.append_assoc]
  have whole : HoldsAt (PackageManagementProxy.request (.transferData id block blockCounter)) 0
      (bytes32 id ++ (bytesRecord block ++ bytes32 blockCounter)) :=
    ⟨[], [], by rw [req, List.nil_append, List.append_nil], rfl⟩
  obtain ⟨first, second⟩ := whole.append
  have third := second.append.2
  unfold Call.Agrees
  simp only [Call.method, PackageManagementSkeleton.arguments]
  rw [(extractU32_bytes32 id).then_at _ first, bind_extractBytes_iff second,
    (extractU32_bytes32 blockCounter).then_at _ third]
  · refine and_iff_left ?_
    rw [req]
    simp only [List.length_append, Nat.zero_add, Nat.add_assoc]
    rfl
  · intro block' offset' after
    obtain ⟨_, _, _, last⟩ := bind_ok_inv after
    cases last
    rfl

theorem activate_agrees (installRoot manifestPath : Bytes) :
    (Call.activate installRoot manifestPath).Agrees ↔
      installRoot.length < 2 ^ 16 ∧ manifestPath.length < 2 ^ 16 := by
  have req : PackageManagementProxy.request (.activate installRoot manifestPath) =
      stringRecord installRoot ++ (stringRecord manifestPath ++ []) := by
    simp only [PackageManagementProxy.request, appendString_eq, List.nil_append, List.append_nil]
  have whole : HoldsAt (PackageManagementProxy.request (.activate installRoot manifestPath)) 0
      (stringRecord installRoot ++ (stringRecord manifestPath ++ [])) :=
    ⟨[], [], by simp only [req, List.nil_append, List.append_nil], rfl⟩
  have second := whole.append.2
  unfold Call.Agrees
  simp only [Call.method, PackageManagementSkeleton.arguments]
  rw [bind_extractString_iff whole, bind_extractString_iff second]
  · refine and_congr_right fun _ => and_iff_left ?_
    rw [req]
    simp only [List.length_append, List.length_nil, Nat.zero_add, Nat.add_zero]
    rfl
  · intro path' offset' last
    cases last
    rfl
  · intro root' offset' after
    obtain ⟨_, _, _, last⟩ := bind_ok_inv after
    cases last
    rfl

theorem Call.agrees_iff (call : Call) : call.Agrees ↔ call.Fits := by
  cases call with
  | transferStart info => exact transferStart_agrees info
  | transferData id block blockCounter => exact transferData_agrees id block blockCounter
  | activate installRoot manifestPath => exact activate_agrees installRoot manifestPath
  | transferExit id =>
    exact iff_of_true ((extractU32_bytes32 id).then_at _ ⟨[], [], (List.append_nil _).symm, rfl⟩) trivial
  | processSwPackage id =>
    exact iff_of_true ((extractU32_bytes32 id).then_at _ ⟨[], [], (List.append_nil _).symm, rfl⟩) trivial
  | getSwClusterInfo => exact iff_of_true rfl trivial
  | getCurrentStatus => exact iff_of_true rfl trivial

/-! ## Replies -/

theorem extractCluster_iff {buffer : Bytes} {offset offset' : ℕ} {info : PackageInfoType}
    (holds : HoldsAt buffer offset (infoRecord info)) :
    PackageManagementProxy.extractCluster buffer offset = .ok (info, offset') ↔
      PackageInfoFits info ∧ offset' = offset + (infoRecord info).length := by
  refine (bind_extractInfo_iff (f := pure) holds ?_).trans (and_congr_right fun _ => ?_)
  · intro info' _ last
    exact congrArg Prod.fst (Except.ok.inj last)
  · constructor
    · intro last
      exact (congrArg Prod.snd (Except.ok.inj last)).symm
    · rintro rfl
      rfl

theorem foldl_appendCluster (infos : List PackageInfoType) (response : Bytes) :
    infos.foldl PackageManagementSkeleton.appendCluster response =
      response ++ infos.flatMap infoRecord := by
  induction infos generalizing response with
  | nil => simp
  | cons info infos ih =>
    simp [ih, PackageManagementSkeleton.appendCluster, appendString_eq, appendU64, infoRecord]

/-- The loop returns its clusters behind those it was given, as many as it was asked for. -/
theorem extractClusters_length {count : ℕ} {acc clusters : List PackageInfoType} {buffer : Bytes}
    {offset offset' : ℕ}
    (h : PackageManagementProxy.extractClusters count acc buffer offset = .ok (clusters, offset')) :
    ∃ more, clusters = acc ++ more ∧ more.length = count := by
  induction count generalizing acc offset with
  | zero =>
    cases h
    exact ⟨[], (List.append_nil _).symm, rfl⟩
  | succ count ih =>
    obtain ⟨c, _, _, after⟩ := bind_ok_inv h
    obtain ⟨more, rfl, length⟩ := ih after
    exact ⟨c :: more, List.append_assoc acc [c] more, congrArg (· + 1) length⟩

/-- The loop over the records of some clusters returns these clusters exactly when all of them fit. -/
theorem extractClusters_iff {infos : List PackageInfoType} (acc : List PackageInfoType)
    {buffer : Bytes} {offset : ℕ}
    (holds : HoldsAt buffer offset (infos.flatMap infoRecord)) :
    (∃ offset', PackageManagementProxy.extractClusters infos.length acc buffer offset =
        .ok (acc ++ infos, offset')) ↔ ∀ info ∈ infos, PackageInfoFits info := by
  induction infos generalizing acc offset with
  | nil =>
    refine iff_of_true ⟨offset, ?_⟩ (List.forall_mem_nil _)
    rw [List.append_nil]
    rfl
  | cons info infos ih =>
    rw [List.flatMap_cons] at holds
    obtain ⟨first, rest⟩ := holds.append
    rw [List.forall_mem_cons, ← ih (acc ++ [info]) rest, List.append_assoc]
    constructor
    · rintro ⟨offset', h⟩
      obtain ⟨c, middle, read, after⟩ := bind_ok_inv h
      obtain ⟨more, same, -⟩ := extractClusters_length after
      -- the first of the clusters returned is the one read first
      obtain ⟨rfl, -⟩ := List.cons.inj (List.append_cancel_left
        (same.trans (List.append_assoc acc [c] more)))
      obtain ⟨fits, rfl⟩ := (extractCluster_iff first).mp read
      exact ⟨fits, offset', after⟩
    · rintro ⟨fits, offset', after⟩
      exact ⟨offset', (bind_apply_ok ((extractCluster_iff first).mpr ⟨fits, rfl⟩)).trans after⟩

theorem clusters_agrees (infos : List PackageInfoType) :
    (Reply.clusters infos).Agrees .getSwClusterInfo ↔
      infos.length < 2 ^ 32 ∧ ∀ info ∈ infos, PackageInfoFits info := by
  have resp : PackageManagementSkeleton.response (.clusters infos) =
      cWireOk :: (bytes32 (UInt32.ofNat infos.length) ++ infos.flatMap infoRecord) := by
    simp only [PackageManagementSkeleton.response, foldl_appendCluster, appendU32, appendU8]
    rfl
  have whole : HoldsAt (PackageManagementSkeleton.response (.clusters infos)) 1
      (bytes32 (UInt32.ofNat infos.length) ++ infos.flatMap infoRecord) :=
    ⟨[cWireOk], [], by rw [resp, List.append_nil]; rfl, rfl⟩
  obtain ⟨counted, records⟩ := whole.append
  have count := (extractU32_bytes32 (UInt32.ofNat infos.length)).at counted
  have number : (UInt32.ofNat infos.length).toNat = infos.length % 2 ^ 32 := UInt32.toNat_ofNat' ..
  have small : infos.length < 2 ^ 32 ↔ infos.length % 2 ^ 32 = infos.length :=
    (Nat.mod_eq_iff_lt (by decide)).symm
  unfold Reply.Agrees
  simp only [PackageManagementProxy.result, PackageManagementProxy.getSwClusterInfo]
  have start : PackageManagementProxy.withStatus
      (some (PackageManagementSkeleton.response (.clusters infos))) = fun onOk =>
      onOk (PackageManagementSkeleton.response (.clusters infos)) := by
    rw [resp]
    rfl
  rw [start]
  simp only [count, Except.map, bind, Except.bind, number]
  constructor
  · intro h
    cases read : PackageManagementProxy.extractClusters (infos.length % 2 ^ 32) []
        (PackageManagementSkeleton.response (.clusters infos)) (1 + (bytes32 (UInt32.ofNat infos.length)).length) with
    | error e =>
      rw [read] at h
      cases h
    | ok result =>
      obtain ⟨clusters, offset'⟩ := result
      rw [read] at h
      have same : clusters = infos := Returned.clusters.inj (Except.ok.inj h)
      obtain ⟨more, grown, length⟩ := extractClusters_length read
      rw [List.nil_append] at grown
      have all : infos.length % 2 ^ 32 = infos.length := by rw [← length, ← grown, same]
      rw [all] at read
      refine ⟨small.mpr all, (extractClusters_iff [] records).mp ⟨offset', ?_⟩⟩
      rw [read, same]
      rfl
  · rintro ⟨fewer, fit⟩
    obtain ⟨offset', read⟩ := (extractClusters_iff [] records).mpr fit
    rw [small.mp fewer, read]
    rfl

theorem Reply.agrees_iff {method : Method} {reply : Reply} (answers : method.Answers reply) :
    reply.Agrees method ↔ reply.Fits := by
  cases reply with
  | clusters infos =>
    cases method <;> first | exact answers.elim | exact clusters_agrees infos
  | transferId id =>
    cases method <;> first | exact answers.elim | skip
    have holds : HoldsAt (PackageManagementSkeleton.response (.transferId id)) 1 (bytes32 id) :=
      ⟨[cWireOk], [], by rw [List.append_nil]; rfl, rfl⟩
    refine iff_of_true ?_ trivial
    exact bind_eq_ok.mpr ⟨_, (extractU32_bytes32 id).at holds, rfl⟩
  | done => cases method <;> first | exact answers.elim | exact iff_of_true rfl trivial
  | failed code =>
    cases method <;> first | exact answers.elim | (cases code <;> exact iff_of_true rfl trivial)
  | status state =>
    cases method <;> first | exact answers.elim | exact iff_of_true rfl trivial

/-- Both directions agree, for every call and every reply to it, exactly on what fits its prefixes. -/
theorem agree_iff_fit (call : Call) (reply : Reply) (answers : call.method.Answers reply) :
    (call.Agrees ↔ call.Fits) ∧ (reply.Agrees call.method ↔ reply.Fits) :=
  ⟨call.agrees_iff, Reply.agrees_iff answers⟩

theorem agree_iff_fit_sample :
    Call.getSwClusterInfo.Agrees ∧ (Reply.clusters [⟨[97], [49], 0⟩]).Agrees .getSwClusterInfo := by
  have fits : (Reply.clusters [⟨[97], [49], 0⟩]).Fits := by
    refine ⟨by decide, ?_⟩
    intro info member
    obtain rfl := List.mem_singleton.mp member
    exact ⟨by decide, by decide⟩
  obtain ⟨there, back⟩ := agree_iff_fit .getSwClusterInfo (.clusters _) trivial
  exact ⟨there.mpr trivial, back.mpr fits⟩

/-- A name of 65536 bytes: its prefix says 0, and the bytes of the name follow all the same. -/
def longNamed : Call := .transferStart ⟨List.replicate 65536 97, [], 0⟩

theorem longNamed_disagrees : ¬ longNamed.Agrees := by
  intro agrees
  have fits := ((transferStart_agrees _).mp agrees).1
  rw [List.length_replicate] at fits
  omega

end AdaptiveAutosar.PackageManagement
