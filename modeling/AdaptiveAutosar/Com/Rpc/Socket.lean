import AdaptiveAutosar.Foundations.Framing
import AdaptiveAutosar.Com.Rpc.Client

/-! # The RPC client and server over TCP

`SocketRpcClient` and `SocketRpcServer`: a reassembly buffer for what was received and a queue of
what is to be sent. `helper::ConcurrentQueue` guards its `std::queue` with a `try_lock`; whether the
lock was got is an argument here.
-/

namespace AdaptiveAutosar.Com
open Foundations Foundations.BigEndian Foundations.Cursor
set_option autoImplicit false

/-! ## The sending queue -/

namespace ConcurrentQueue
variable {α : Type}

def tryEnqueue (queue : List α) (locked : Bool) (element : α) : Bool × List α :=
  if locked then (true, queue ++ [element]) else (false, queue)

def tryDequeue (queue : List α) (locked : Bool) : Option α × List α :=
  match queue with
  | [] => (none, [])
  | element :: rest => if locked then (some element, rest) else (none, queue)

end ConcurrentQueue

/-- One round of the loop of `onSend`: the queue left and the bytes given to `::send`. -/
def sendRound (sendingQueue : List Bytes) (locked : Bool) : List Bytes × Bytes :=
  match ConcurrentQueue.tryDequeue sendingQueue locked with
  | (some payload, rest) => (rest, payload)
  | (none, rest) => (rest, [])

/-! ## Frames -/

def cMinHeader : ℕ := 8

namespace SomeIpRpcMessage

theorem lengthField_append {p : Bytes} (h : 8 ≤ p.length) (rest : Bytes) :
    lengthField (p ++ rest) = lengthField p := by
  obtain ⟨word, -, hword, hat⟩ := extractInteger_four h
  obtain ⟨pre, post, rfl, hpre⟩ := hat
  rw [← hword]
  exact lengthField_eq ⟨pre, post ++ rest, by simp only [List.append_assoc], hpre⟩

theorem lengthField_take {p : Bytes} {n : ℕ} (h8 : 8 ≤ n) (hn : n ≤ p.length) :
    lengthField (p.take n) = lengthField p := by
  have h := lengthField_append (show 8 ≤ (p.take n).length by rw [List.length_take]; omega) (p.drop n)
  rw [List.take_append_drop] at h
  exact h.symm

end SomeIpRpcMessage

/-- The header's length field, behind which the frame goes on for that many bytes. -/
def frameSize (buffer : Bytes) : Option ℕ :=
  if buffer.length < cMinHeader then none else some (cMinHeader + SomeIpRpcMessage.lengthField buffer)

theorem frameSize_eq_some {b : Bytes} {n : ℕ} (h : frameSize b = some n) :
    8 ≤ b.length ∧ n = 8 + SomeIpRpcMessage.lengthField b := by
  unfold frameSize cMinHeader at h
  by_cases hlt : b.length < 8
  · rw [if_pos hlt] at h
    cases h
  · rw [if_neg hlt] at h
    cases h
    exact ⟨Nat.le_of_not_lt hlt, rfl⟩

theorem frameSize_of_le {b : Bytes} (h : 8 ≤ b.length) :
    frameSize b = some (8 + SomeIpRpcMessage.lengthField b) := by
  have hlt : ¬ b.length < cMinHeader := Nat.not_lt.mpr h
  rw [frameSize, if_neg hlt]
  rfl

/-- The framing both receive loops cut their buffers with. -/
def someIp : Framing UInt8 where
  size := frameSize
  size_pos := by
    intro b n h
    have := (frameSize_eq_some h).2
    omega
  size_append := by
    intro b n h c
    obtain ⟨h8, rfl⟩ := frameSize_eq_some h
    rw [frameSize_of_le (by rw [List.length_append]; omega), SomeIpRpcMessage.lengthField_append h8]
  size_take := by
    intro b n h hn
    obtain ⟨h8, rfl⟩ := frameSize_eq_some h
    rw [frameSize_of_le (by rw [List.length_take]; omega),
      SomeIpRpcMessage.lengthField_take (by omega) hn]

theorem isFrame_payload (message : SomeIpRpcMessage) (h : message.Fits) :
    someIp.IsFrame message.payload := by
  have hl := message.payload_length
  show frameSize message.payload = some message.payload.length
  rw [frameSize_of_le (by omega), SomeIpRpcMessage.lengthField_payload message h, hl]
  congr 1
  omega

/-! ## The server -/

structure SocketRpcServer (σ : Type) extends RpcServer σ where
  receiveBuffer : Bytes
  sendingQueue : List Bytes
  disconnectHandler : Option (σ → σ)

/-- The server with the state of its handlers, the handler calls and the messages it dispatched and
answered so far, and the number of its attempts to enqueue. -/
structure Serving (σ : Type) where
  socket : SocketRpcServer σ
  state : σ
  calls : List Invocation
  dispatched : List Bytes
  answered : List Bytes
  enqueues : ℕ

namespace Serving
variable {σ : Type}

/-- The rest of a round of the receive loop, behind the message it cut off. -/
def handleMessage (locks : ℕ → Bool) (serving : Serving σ) (message : Bytes) : Outcome (Serving σ) :=
  let invoked := serving.socket.tryInvokeHandler message [] serving.state
  match invoked.result with
  | .error e => .error e
  | .ok handled =>
    let serving := { serving with
      state := invoked.state
      calls := serving.calls ++ invoked.calls
      dispatched := serving.dispatched ++ [message] }
    if handled then
      .ok { serving with
        socket := { serving.socket with
          sendingQueue := (ConcurrentQueue.tryEnqueue serving.socket.sendingQueue
            (locks serving.enqueues) invoked.responsePayload).2 }
        answered := serving.answered ++ [invoked.responsePayload]
        enqueues := serving.enqueues + 1 }
    else .ok serving

/-- `onReceive` with what `Receive` gave it: nothing at the end of the connection. -/
def onReceive (serving : Serving σ) (received : Bytes) (locks : ℕ → Bool) : Outcome (Serving σ) :=
  if received = [] then
    match serving.socket.disconnectHandler with
    | some handler => .ok { serving with state := handler serving.state }
    | none => .ok serving
  else do
    let (receiveBuffer, serving) ←
      someIp.drain (handleMessage locks) (serving.socket.receiveBuffer ++ received) serving
    pure { serving with socket := { serving.socket with receiveBuffer } }

/-- One round of `onSend`: the server and the bytes given to `::send`. -/
def onSend (serving : Serving σ) (locked : Bool) : Serving σ × Bytes :=
  let (sendingQueue, sent) := sendRound serving.socket.sendingQueue locked
  ({ serving with socket := { serving.socket with sendingQueue } }, sent)

end Serving

/-! ## The client -/

structure SocketRpcClient (τ : Type) extends RpcClient τ where
  receiveBuffer : Bytes
  sendingQueue : List Bytes

/-- The client with the state of its handlers and the messages they were called with so far. -/
structure Calling (τ : Type) where
  socket : SocketRpcClient τ
  state : τ
  deliveries : List SomeIpRpcMessage

namespace Calling
variable {τ : Type}

def handleMessage (calling : Calling τ) (message : Bytes) : Outcome (Calling τ) :=
  match calling.socket.invokeHandler message calling.state with
  | (.error e, _, _) => .error e
  | (.ok (), state, calls) => .ok { calling with state, deliveries := calling.deliveries ++ calls }

/-- `onReceive` with what `Receive` gave it: nothing at the end of the connection. -/
def onReceive (calling : Calling τ) (received : Bytes) : Outcome (Calling τ) :=
  if received = [] then .ok calling
  else do
    let (receiveBuffer, calling) ←
      someIp.drain handleMessage (calling.socket.receiveBuffer ++ received) calling
    pure { calling with socket := { calling.socket with receiveBuffer } }

def onSend (calling : Calling τ) (locked : Bool) : Calling τ × Bytes :=
  let (sendingQueue, sent) := sendRound calling.socket.sendingQueue locked
  ({ calling with socket := { calling.socket with sendingQueue } }, sent)

/-- `RpcClient::Send` with `SocketRpcClient::Send` as its transport. -/
def send (calling : Calling τ) (call : RpcCall) (locked : Bool) : Outcome (Calling τ) := do
  let (payload, client) ← calling.socket.toRpcClient.send call
  let sendingQueue := (ConcurrentQueue.tryEnqueue calling.socket.sendingQueue locked payload).2
  pure { calling with socket := { calling.socket with toRpcClient := client, sendingQueue } }

end Calling

end AdaptiveAutosar.Com
