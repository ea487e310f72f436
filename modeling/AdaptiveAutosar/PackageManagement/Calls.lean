import AdaptiveAutosar.PackageManagement.Wire

/-! # The calls of the package management service

What the proxy sends for a call and makes of a response, and what the skeleton makes of a request
and sends back. The proxy casts a status byte to an error or a state without a check, so the values
it returns are bytes.
-/

namespace AdaptiveAutosar.PackageManagement
open Foundations Foundations.Cursor AdaptiveAutosar.Ucm
set_option autoImplicit false

/-- A call with its arguments. -/
inductive Call where
  | transferStart (info : PackageInfoType)
  | transferData (id : TransferIdType) (block : Bytes) (blockCounter : UInt32)
  | transferExit (id : TransferIdType)
  | processSwPackage (id : TransferIdType)
  | activate (installRoot manifestPath : Bytes)
  | getSwClusterInfo
  | getCurrentStatus
  deriving DecidableEq, Repr

def Call.method : Call → Method
  | transferStart _ => .transferStart
  | transferData _ _ _ => .transferData
  | transferExit _ => .transferExit
  | processSwPackage _ => .processSwPackage
  | activate _ _ => .activate
  | getSwClusterInfo => .getSwClusterInfo
  | getCurrentStatus => .getCurrentStatus

/-- What a handler answers. -/
inductive Reply where
  | transferId (id : TransferIdType)
  | done
  | failed (code : UcmErrc)
  | clusters (infos : List PackageInfoType)
  | status (state : UpdateStateType)
  deriving DecidableEq, Repr

/-- The replies a method has. -/
def Method.Answers : Method → Reply → Prop
  | transferStart, .transferId _ => True
  | transferStart, .failed _ => True
  | getSwClusterInfo, .clusters _ => True
  | getCurrentStatus, .status _ => True
  | transferData, .done | transferExit, .done | processSwPackage, .done | activate, .done => True
  | transferData, .failed _ | transferExit, .failed _ | processSwPackage, .failed _
  | activate, .failed _ => True
  | _, _ => False

/-- What a call of the proxy returns; an error is the code the proxy puts into it. -/
inductive Returned where
  | transferId (id : TransferIdType)
  | done
  | failed (code : WireErrorCode)
  | clusters (infos : List PackageInfoType)
  | status (state : UInt8)
  deriving DecidableEq, Repr

/-- The reply as the caller of the proxy should see it. -/
def Reply.returned : Reply → Returned
  | transferId id => .transferId id
  | done => .done
  | failed code => .failed code.code
  | clusters infos => .clusters infos
  | status state => .status state.code

/-! ## The proxy -/

namespace PackageManagementProxy

/-- The `_req` of the service methods. -/
def request : Call → Bytes
  | .transferStart info =>
    let req := appendString [] info.name
    let req := appendString req info.version
    appendU64 req info.size
  | .transferData id block blockCounter =>
    let req := appendU32 [] id
    let req := appendBytes req block
    appendU32 req blockCounter
  | .transferExit id => appendU32 [] id
  | .processSwPackage id => appendU32 [] id
  | .activate installRoot manifestPath =>
    let req := appendString [] installRoot
    appendString req manifestPath
  | .getSwClusterInfo => []
  | .getCurrentStatus => []

/-- The start every method but `GetCurrentStatus` makes: no response in time or an empty one, then
the status byte. -/
def withStatus (resp : Option Bytes) (onOk : Bytes → Outcome Returned) : Outcome Returned :=
  match resp with
  | none | some [] => .ok (.failed UcmErrc.activationFailed.code)
  | some (status :: rest) =>
    if status ≠ cWireOk then .ok (.failed status) else onOk (status :: rest)

def voidResult (resp : Option Bytes) : Outcome Returned := withStatus resp fun _ => .ok .done

def transferStart (resp : Option Bytes) : Outcome Returned :=
  withStatus resp fun resp => do
    let (id, _) ← extractU32 resp 1
    pure (.transferId id)

def extractCluster : Cursor UInt8 PackageInfoType := do
  let name ← extractString
  let version ← extractString
  let size ← extractU64
  pure ⟨name, version, size⟩

/-- The loop over the announced number of clusters. -/
def extractClusters : ℕ → List PackageInfoType → Cursor UInt8 (List PackageInfoType)
  | 0, clusters => pure clusters
  | count + 1, clusters => do
    let c ← extractCluster
    extractClusters count (clusters ++ [c])

def getSwClusterInfo (resp : Option Bytes) : Outcome Returned :=
  withStatus resp fun resp => do
    let (count, off) ← extractU32 resp 1
    let (clusters, _) ← extractClusters count.toNat [] resp off
    pure (.clusters clusters)

def getCurrentStatus (resp : Option Bytes) : Outcome Returned :=
  match resp with
  | some (status :: state :: _) =>
    if status ≠ cWireOk then .ok (.failed status) else .ok (.status state)
  | _ => .ok (.failed UcmErrc.activationFailed.code)

/-- What a call returns for the response `sendAndWait` got it, if it got one. -/
def result : Method → Option Bytes → Outcome Returned
  | .transferStart => transferStart
  | .transferData => voidResult
  | .transferExit => voidResult
  | .processSwPackage => voidResult
  | .activate => voidResult
  | .getSwClusterInfo => getSwClusterInfo
  | .getCurrentStatus => getCurrentStatus

end PackageManagementProxy

/-! ## The skeleton -/

namespace PackageManagementSkeleton

/-- The arguments as the handler of a method extracts them. -/
def arguments : Method → Cursor UInt8 Call
  | .transferStart => do
    let name ← extractString
    let version ← extractString
    let size ← extractU64
    pure (.transferStart ⟨name, version, size⟩)
  | .transferData => do
    let id ← extractU32
    let block ← extractBytes
    let blockCounter ← extractU32
    pure (.transferData id block blockCounter)
  | .transferExit => do
    let id ← extractU32
    pure (.transferExit id)
  | .processSwPackage => do
    let id ← extractU32
    pure (.processSwPackage id)
  | .activate => do
    let installRoot ← extractString
    let manifestPath ← extractString
    pure (.activate installRoot manifestPath)
  | .getSwClusterInfo => pure .getSwClusterInfo
  | .getCurrentStatus => pure .getCurrentStatus

theorem arguments_method {method : Method} {payload : Bytes} {offset offset' : ℕ} {call : Call}
    (h : arguments method payload offset = .ok (call, offset')) : call.method = method := by
  cases method with
  | transferStart =>
    obtain ⟨_, _, _, h⟩ := bind_ok_inv h
    obtain ⟨_, _, _, h⟩ := bind_ok_inv h
    obtain ⟨_, _, _, h⟩ := bind_ok_inv h
    cases h
    rfl
  | transferData =>
    obtain ⟨_, _, _, h⟩ := bind_ok_inv h
    obtain ⟨_, _, _, h⟩ := bind_ok_inv h
    obtain ⟨_, _, _, h⟩ := bind_ok_inv h
    cases h
    rfl
  | activate =>
    obtain ⟨_, _, _, h⟩ := bind_ok_inv h
    obtain ⟨_, _, _, h⟩ := bind_ok_inv h
    cases h
    rfl
  | transferExit | processSwPackage =>
    obtain ⟨_, _, _, h⟩ := bind_ok_inv h
    cases h
    rfl
  | getSwClusterInfo | getCurrentStatus =>
    cases h
    rfl

def appendCluster (response : Bytes) (c : PackageInfoType) : Bytes :=
  let response := appendString response c.name
  let response := appendString response c.version
  appendU64 response c.size

/-- The bytes a handler appends to its empty response. -/
def response : Reply → Bytes
  | .transferId id => appendU32 (appendU8 [] cWireOk) id
  | .done => appendU8 [] cWireOk
  | .failed code => appendU8 [] code.code
  | .clusters infos =>
    infos.foldl appendCluster (appendU32 (appendU8 [] cWireOk) (UInt32.ofNat infos.length))
  | .status state => appendU8 (appendU8 [] cWireOk) state.code

def errorResponse (code : WireErrorCode) : Bytes := [code]

/-- What the operating system answers during a call. -/
structure Answers where
  exit : ExitAnswers
  process : ProcessAnswers
  activate : ActivateAnswers

/-- The request to the package manager that a call makes; the two queries make none. -/
def managerRequest (answers : Answers) : Call → Option Request
  | .transferStart info => some (.transferStart info)
  | .transferData id block blockCounter => some (.transferData id block blockCounter)
  | .transferExit id => some (.transferExit id answers.exit)
  | .processSwPackage id => some (.processSwPackage id answers.process)
  | .activate installRoot manifestPath => some (.activate installRoot manifestPath answers.activate)
  | .getSwClusterInfo => none
  | .getCurrentStatus => none

def replyOf : Response → Reply
  | .transferId id => .transferId id
  | .done => .done
  | .failed code => .failed code

/-- The call of the package manager; an exception in it ends the process. -/
def serve (codecs : Codecs) (answers : Answers) (host : Host) (call : Call) : Outcome (Reply × Host) :=
  match managerRequest answers call with
  | some request => do
    let (response, host) ← host.step codecs request
    pure (replyOf response, host)
  | none =>
    if call = .getSwClusterInfo then .ok (.clusters host.manager.getSwClusterInfo, host)
    else .ok (.status host.manager.state, host)

/-- The error a handler answers when it cannot extract its arguments; the two queries extract none. -/
def onError : Method → UcmErrc
  | .activate => .activationFailed
  | _ => .packageMalformed

/-- A handler: the bytes of its response. Its `catch` is for the exceptions of the extract helpers,
since the calls of the package manager are `noexcept`. -/
def handle (codecs : Codecs) (method : Method) (answers : Answers) (request : Bytes) (host : Host) :
    Outcome (Bytes × Host) :=
  match arguments method request 0 with
  | .ok (call, _) => do
    let (reply, host) ← serve codecs answers host call
    pure (response reply, host)
  | .error (.thrown _) => .ok (errorResponse (onError method).code, host)
  | .error fault => .error fault

def handleTransferStart (codecs : Codecs) := handle codecs .transferStart
def handleTransferData (codecs : Codecs) := handle codecs .transferData
def handleTransferExit (codecs : Codecs) := handle codecs .transferExit
def handleProcessSwPackage (codecs : Codecs) := handle codecs .processSwPackage
def handleActivate (codecs : Codecs) := handle codecs .activate
def handleGetSwClusterInfo (codecs : Codecs) := handle codecs .getSwClusterInfo
def handleGetCurrentStatus (codecs : Codecs) := handle codecs .getCurrentStatus

/-- `registerHandlers`. -/
def handler (codecs : Codecs) : Method → Answers → Bytes → Host → Outcome (Bytes × Host)
  | .transferStart => handleTransferStart codecs
  | .transferData => handleTransferData codecs
  | .transferExit => handleTransferExit codecs
  | .processSwPackage => handleProcessSwPackage codecs
  | .activate => handleActivate codecs
  | .getSwClusterInfo => handleGetSwClusterInfo codecs
  | .getCurrentStatus => handleGetCurrentStatus codecs

theorem handler_eq (codecs : Codecs) (method : Method) : handler codecs method = handle codecs method := by
  cases method <;> rfl

end PackageManagementSkeleton
end AdaptiveAutosar.PackageManagement
