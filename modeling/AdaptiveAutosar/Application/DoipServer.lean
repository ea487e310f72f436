import AdaptiveAutosar.Foundations.FrontDecoder
import AdaptiveAutosar.Foundations.MemoryBlock
import AdaptiveAutosar.Com.Rpc.Socket

/-! # The DoIP server

`application::doip::DoipServer` on an accepted connection. Whatever a receive returns, the controller is given the
whole buffer: the received bytes and behind them those that the buffer had before.
-/

namespace AdaptiveAutosar.Application
open Foundations Com
set_option autoImplicit false

def cDoipPacketSize : ℕ := 64

/-- `DoipLib::DoipController` and the handlers registered with it, with a state of type `σ`. -/
structure DoipController (σ : Type) extends FrontDecoder UInt8 where
  /-- The response of the message's handler, if it returns `true`. -/
  handle : σ → Bytes → Outcome (Option Bytes) × σ
  /-- What the controller responds by itself where it finds no message for a handler. -/
  refuse : Bytes → Option Bytes
  /-- Both kinds of registered messages, the vehicle identification request and the diagnostic message, can be short. -/
  two_messages : ∃ m₁ m₂, m₁ ≠ m₂ ∧ (decode m₁ = some m₁ ∧ m₁.length ≤ cDoipPacketSize) ∧
    decode m₂ = some m₂ ∧ m₂.length ≤ cDoipPacketSize

def DoipController.tryHandle {σ : Type} (controller : DoipController σ) (state : σ) (serializedRequest : Bytes) :
    Outcome (Option Bytes) × σ :=
  match controller.decode serializedRequest with
  | some message => controller.handle state message
  | none => (.ok (controller.refuse serializedRequest), state)

/-- What one `Receive` returns, if anything. -/
structure Segment where
  data : Bytes
  fits : data.length ≤ cDoipPacketSize
  deriving DecidableEq, Repr

/-- The receive buffer after `Receive` wrote the segment into it. -/
def Segment.receive (segment : Segment) (buffer : Block cDoipPacketSize) : Block cDoipPacketSize where
  bytes := segment.data ++ buffer.bytes.drop segment.data.length
  length_eq := by
    have fits := segment.fits
    rw [List.length_append, List.length_drop, buffer.length_eq]
    omega

/-- The server with the state of its handlers, the bytes it passed to the controller so far, and the exception that
ended it. -/
structure DoipServer (σ : Type) where
  receiver : Bool
  sender : Bool
  sendQueue : List Bytes
  state : σ
  passed : List Bytes
  fault : Option Fault

/-- What the poller calls the server for. The buffers are those on the stack. -/
inductive Polled where
  | readable (segment : Segment) (receiveBuffer : Block cDoipPacketSize) (locked : Bool)
  | writable (sendBuffer : Block cDoipPacketSize) (locked : Bool)
  deriving DecidableEq, Repr

namespace DoipServer
variable {σ : Type} (controller : DoipController σ)

def make (state : σ) : DoipServer σ := ⟨false, false, [], state, [], none⟩

/-- With the results of the four attempts. -/
def onAccept (server : DoipServer σ) (accepted nonblock receiverAdded senderAdded : Bool) : DoipServer σ :=
  if accepted && nonblock && receiverAdded then { server with receiver := true, sender := server.sender || senderAdded }
  else server

def onReceive (server : DoipServer σ) (segment : Segment) (receiveBuffer : Block cDoipPacketSize) (locked : Bool) :
    DoipServer σ :=
  let serializedRequest := (segment.receive receiveBuffer).bytes
  let (isHandled, state) := controller.tryHandle server.state serializedRequest
  let server := { server with state, passed := server.passed ++ [serializedRequest] }
  match isHandled with
  | .ok (some serializedResponse) =>
    { server with sendQueue := (ConcurrentQueue.tryEnqueue server.sendQueue locked serializedResponse).2 }
  | .ok none => server
  | .error e => { server with fault := some e }

/-- One round of the loop of `onSend`, and what it sends. -/
def onSend (server : DoipServer σ) (sendBuffer : Block cDoipPacketSize) (locked : Bool) : DoipServer σ × Option Bytes :=
  let (dequeued, sendQueue) := ConcurrentQueue.tryDequeue server.sendQueue locked
  let server := { server with sendQueue }
  match dequeued with
  | some sendData =>
    if sendData.length ≤ cDoipPacketSize then (server, some (sendData ++ sendBuffer.bytes.drop sendData.length))
    else (server, none)
  | none => (server, none)

/-- The poller's call, which an exception that nobody catches ends together with the server. -/
def poll (server : DoipServer σ) : Polled → DoipServer σ
  | .readable segment receiveBuffer locked =>
    if server.fault = none ∧ server.receiver then server.onReceive controller segment receiveBuffer locked else server
  | .writable sendBuffer locked =>
    if server.fault = none ∧ server.sender then (server.onSend sendBuffer locked).1 else server

/-- A run from a connection on. -/
def run (state : σ) (senderAdded : Bool) (polls : List Polled) : DoipServer σ :=
  polls.foldl (poll controller) ((make state).onAccept true true true senderAdded)

/-- The requests that the controller decodes from what it is passed. -/
def requestsPassed (server : DoipServer σ) : List Bytes := server.passed.filterMap controller.decode

end DoipServer

/-- What `Receive` returns on a run, with the buffer before. -/
def Polled.received : Polled → Option (Segment × Block cDoipPacketSize)
  | .readable segment receiveBuffer _ => some (segment, receiveBuffer)
  | .writable _ _ => none

namespace DoipController
variable {σ : Type} (controller : DoipController σ)

/-! ## The messages of a list of buffers -/

/-- The messages at the front of the buffers, up to the first whose handler throws. -/
def decoded : σ → List Bytes → List Bytes
  | _, [] => []
  | state, buffer :: rest =>
    match controller.decode buffer with
    | none => decoded state rest
    | some message =>
      message ::
        match controller.handle state message with
        | (.ok _, state) => decoded state rest
        | (.error _, _) => []

/-- The handlers' state behind the requests, if all their handlers returned. -/
def handled : σ → List Bytes → Option σ
  | state, [] => some state
  | state, request :: rest =>
    match controller.handle state request with
    | (.ok _, state) => handled state rest
    | (.error _, _) => none

def buffers (received : List (Segment × Block cDoipPacketSize)) : List Bytes :=
  received.map fun (segment, buffer) => (segment.receive buffer).bytes

end DoipController

namespace DoipServer
open DoipController
variable {σ : Type} {controller : DoipController σ}

theorem poll_ended {server : DoipServer σ} (ended : server.fault ≠ none) (polls : List Polled) :
    polls.foldl (poll controller) server = server := by
  induction polls with
  | nil => rfl
  | cons poll polls ih =>
    rw [List.foldl_cons]
    cases poll with
    | readable segment buffer locked => rw [DoipServer.poll, if_neg (fun live => ended live.1), ih]
    | writable buffer locked => rw [DoipServer.poll, if_neg (fun live => ended live.1), ih]

theorem onSend_keeps (server : DoipServer σ) (buffer : Block cDoipPacketSize) (locked : Bool) :
    ∃ sendQueue, (server.onSend buffer locked).1 = { server with sendQueue } := by
  unfold onSend
  generalize ConcurrentQueue.tryDequeue server.sendQueue locked = taken
  obtain ⟨dequeued, sendQueue⟩ := taken
  dsimp only
  split
  · split
    · exact ⟨sendQueue, rfl⟩
    · exact ⟨sendQueue, rfl⟩
  · exact ⟨sendQueue, rfl⟩

theorem tryHandle_none {serializedRequest : Bytes} (found : controller.decode serializedRequest = none) (state : σ) :
    controller.tryHandle state serializedRequest = (.ok (controller.refuse serializedRequest), state) := by
  rw [tryHandle, found]

theorem tryHandle_some {serializedRequest message : Bytes} (found : controller.decode serializedRequest = some message)
    (state : σ) : controller.tryHandle state serializedRequest = controller.handle state message := by
  rw [tryHandle, found]

theorem onReceive_cases (controller : DoipController σ) (server : DoipServer σ) (segment : Segment)
    (buffer : Block cDoipPacketSize) (locked : Bool) :
    ∃ sendQueue fault,
      server.onReceive controller segment buffer locked =
        { server with
          sendQueue
          state := (controller.tryHandle server.state (segment.receive buffer).bytes).2
          passed := server.passed ++ [(segment.receive buffer).bytes]
          fault } ∧
      match (controller.tryHandle server.state (segment.receive buffer).bytes).1 with
      | .ok _ => fault = server.fault
      | .error e => fault = some e := by
  unfold onReceive
  dsimp only
  generalize controller.tryHandle server.state (segment.receive buffer).bytes = outcome
  obtain ⟨isHandled, state⟩ := outcome
  cases isHandled with
  | error e => exact ⟨server.sendQueue, some e, rfl, rfl⟩
  | ok response =>
    cases response with
    | none => exact ⟨server.sendQueue, server.fault, rfl, rfl⟩
    | some response => exact ⟨_, server.fault, rfl, rfl⟩

theorem requestsPassed_onReceive (controller : DoipController σ) (server : DoipServer σ) (segment : Segment)
    (buffer : Block cDoipPacketSize) (locked : Bool) :
    (server.onReceive controller segment buffer locked).requestsPassed controller =
      server.requestsPassed controller ++ (controller.decode (segment.receive buffer).bytes).toList := by
  obtain ⟨sendQueue, fault, done, -⟩ := onReceive_cases controller server segment buffer locked
  rw [done]
  unfold requestsPassed
  rw [List.filterMap_append]
  cases found : controller.decode (segment.receive buffer).bytes with
  | none => rw [List.filterMap_cons_none found, List.filterMap_nil, Option.toList_none]
  | some message => rw [List.filterMap_cons_some found, List.filterMap_nil, Option.toList_some]

/-- A run passes on the messages at the front of its buffers. -/
theorem requestsPassed_foldl (polls : List Polled) (server : DoipServer σ) (connected : server.receiver = true)
    (live : server.fault = none) :
    (polls.foldl (poll controller) server).requestsPassed controller =
      server.requestsPassed controller ++
        controller.decoded server.state (buffers (polls.filterMap Polled.received)) := by
  induction polls generalizing server with
  | nil => exact (List.append_nil _).symm
  | cons poll polls ih =>
    rw [List.foldl_cons]
    cases poll with
    | writable buffer locked =>
      have same : (polls.filterMap Polled.received) =
          (Polled.writable buffer locked :: polls).filterMap Polled.received := rfl
      rw [← same, DoipServer.poll]
      split_ifs
      · obtain ⟨sendQueue, sent⟩ := onSend_keeps server buffer locked
        rw [sent]
        exact ih _ connected live
      · exact ih server connected live
    | readable segment buffer locked =>
      have head : buffers ((Polled.readable segment buffer locked :: polls).filterMap Polled.received) =
          (segment.receive buffer).bytes :: buffers (polls.filterMap Polled.received) := rfl
      have passed := requestsPassed_onReceive controller server segment buffer locked
      obtain ⟨sendQueue, fault, done, faulted⟩ := onReceive_cases controller server segment buffer locked
      rw [DoipServer.poll, if_pos ⟨live, connected⟩, head, decoded]
      cases found : controller.decode (segment.receive buffer).bytes with
      | none =>
        rw [tryHandle_none found] at done faulted
        rw [found, Option.toList_none, List.append_nil] at passed
        rw [ih _ (by rw [done]; exact connected) (by rw [done]; exact faulted.trans live), passed, done]
      | some message =>
        rw [tryHandle_some found] at done faulted
        rw [found, Option.toList_some] at passed
        dsimp only
        cases outcome : controller.handle server.state message with
        | mk isHandled state =>
          rw [outcome] at done faulted
          cases isHandled with
          | error e =>
            rw [poll_ended (by rw [done]; exact faulted ▸ Option.some_ne_none e), passed]
          | ok response =>
            rw [ih _ (by rw [done]; exact connected) (by rw [done]; exact faulted.trans live), passed, done,
              List.append_assoc]
            rfl

theorem requestsPassed_run (state : σ) (senderAdded : Bool) (polls : List Polled) :
    (run controller state senderAdded polls).requestsPassed controller =
      controller.decoded state (buffers (polls.filterMap Polled.received)) := by
  rw [run, requestsPassed_foldl polls _ rfl rfl]
  rfl

end DoipServer

namespace DoipController
variable {σ : Type} (controller : DoipController σ)

/-! ## Receives that return one request each -/

/-- Whatever the buffers held before, the requests are what is decoded. -/
def DecodesTo (state : σ) (segments : List Segment) (requests : List Bytes) : Prop :=
  ∀ received, received.map Prod.fst = segments → controller.decoded state (buffers received) = requests

/-- Every receive returns one request, and no request but the last one makes its handler throw. Behind one that does,
there may be receives that return nothing. -/
structure OneEach (state : σ) (segments : List Segment) (requests : List Bytes) : Prop where
  return_before_last : (controller.handled state requests.dropLast).isSome
  one_each : segments.map Segment.data = requests ∨
    controller.handled state requests = none ∧
      ∃ n, segments.map Segment.data = requests ++ List.replicate n []

variable {controller} {state : σ} {segment : Segment} {segments : List Segment} {requests : List Bytes}

def blankBuffer : Block cDoipPacketSize := ⟨List.replicate 64 0, rfl⟩

theorem decode_receive {message : Bytes} (complete : controller.IsMessage message) (same : segment.data = message)
    (buffer : Block cDoipPacketSize) : controller.decode (segment.receive buffer).bytes = some message := by
  show controller.decode (segment.data ++ _) = some message
  rw [same]
  exact complete.decode_append _

theorem received_blank (segments : List Segment) :
    (segments.map fun segment => (segment, blankBuffer)).map Prod.fst = segments := by
  rw [List.map_map]
  exact List.map_id segments

theorem DecodesTo.cons (decodes : controller.DecodesTo state (segment :: segments) requests)
    (buffer : Block cDoipPacketSize) {received : List (Segment × Block cDoipPacketSize)}
    (rest : received.map Prod.fst = segments) :
    controller.decoded state ((segment.receive buffer).bytes :: buffers received) = requests :=
  decodes ((segment, buffer) :: received) (by rw [List.map_cons, rest])

/-- A segment that is decoded to the same whatever stands behind it holds what it is decoded to. -/
theorem prefix_of_receive {message : Bytes}
    (always : ∀ buffer, controller.decode (segment.receive buffer).bytes = some message) :
    message <+: segment.data := by
  refine FrontDecoder.prefix_of_padded (D := controller.toFrontDecoder) (x := 0) (y := 1) (by decide)
    (n := cDoipPacketSize - segment.data.length) ?_
  intro padding size
  have fits := segment.fits
  have behind := always ⟨List.replicate segment.data.length 0 ++ padding, by
    rw [List.length_append, List.length_replicate, size]
    omega⟩
  have drop : (List.replicate segment.data.length 0 ++ padding).drop segment.data.length = padding :=
    List.drop_left' List.length_replicate
  change controller.decode (segment.data ++ List.drop _ (_ ++ padding)) = some message at behind
  rwa [drop] at behind

/-- The first segment is skipped with some content of the buffer, or it begins with the first request. -/
theorem DecodesTo.head_cases (decodes : controller.DecodesTo state (segment :: segments) requests) :
    controller.DecodesTo state segments requests ∨
      ∃ message rest, requests = message :: rest ∧ message <+: segment.data ∧
        match controller.handle state message with
        | (.ok _, after) => controller.DecodesTo after segments rest
        | (.error _, _) => rest = [] := by
  by_cases skipped : ∃ buffer, controller.decode (segment.receive buffer).bytes = none
  · left
    obtain ⟨buffer, none⟩ := skipped
    intro received same
    have all := decodes.cons buffer same
    rw [decoded, none] at all
    exact all
  · right
    have taken (buffer : Block cDoipPacketSize) :
        ∃ message, controller.decode (segment.receive buffer).bytes = some message :=
      Option.ne_none_iff_exists'.mp (fun none => skipped ⟨buffer, none⟩)
    -- with every content of the buffer the message is the first request
    have first {message : Bytes} {buffer : Block cDoipPacketSize}
        (found : controller.decode (segment.receive buffer).bytes = some message)
        {received : List (Segment × Block cDoipPacketSize)} (same : received.map Prod.fst = segments) :
        requests = message ::
          match controller.handle state message with
          | (.ok _, after) => controller.decoded after (buffers received)
          | (.error _, _) => [] := by
      have all := decodes.cons buffer same
      rw [decoded, found] at all
      exact all.symm
    obtain ⟨message, found⟩ := taken blankBuffer
    have head := first found (received_blank segments)
    have always (buffer : Block cDoipPacketSize) : controller.decode (segment.receive buffer).bytes = some message := by
      obtain ⟨other, found'⟩ := taken buffer
      have head' := first found' (received_blank segments)
      rw [head] at head'
      rw [found', (List.cons.inj head').1]
    refine ⟨message, _, head, prefix_of_receive always, ?_⟩
    cases outcome : controller.handle state message with
    | mk isHandled after =>
      cases isHandled with
      | error e => rfl
      | ok response =>
        intro received same
        have head' := first found same
        rw [head, outcome] at head'
        exact (List.cons.inj head').2.symm

theorem DecodesTo.length_le (decodes : controller.DecodesTo state segments requests) :
    requests.flatten.length ≤ (segments.map Segment.data).flatten.length := by
  induction segments generalizing state requests with
  | nil =>
    have none := decodes [] rfl
    rw [← none]
    exact Nat.le_refl _
  | cons segment segments ih =>
    rw [List.map_cons, List.flatten_cons, List.length_append]
    rcases decodes.head_cases with skipped | ⟨message, rest, rfl, inside, behind⟩
    · exact (ih skipped).trans (Nat.le_add_left _ _)
    · rw [List.flatten_cons, List.length_append]
      refine Nat.add_le_add inside.length_le ?_
      split at behind
      · exact ih behind
      · rw [behind]
        exact Nat.zero_le _

/-- A segment without data passes on what the buffer held before. -/
theorem DecodesTo.data_ne_nil (decodes : controller.DecodesTo state (segment :: segments) requests) :
    segment.data ≠ [] := by
  intro empty
  obtain ⟨m₁, m₂, different, ⟨complete₁, short₁⟩, complete₂, short₂⟩ := controller.two_messages
  have stale {m : Bytes} (complete : controller.decode m = some m) (short : m.length ≤ cDoipPacketSize) :
      requests.head? = some m := by
    let before : Block cDoipPacketSize :=
      ⟨m ++ List.replicate (cDoipPacketSize - m.length) 0, by
        rw [List.length_append, List.length_replicate]
        omega⟩
    have left_over : (segment.receive before).bytes = m ++ List.replicate (cDoipPacketSize - m.length) 0 := by
      show segment.data ++ before.bytes.drop segment.data.length = _
      rw [empty]
      rfl
    have all := decodes.cons before (received_blank segments)
    rw [left_over, decoded, controller.decode_append complete] at all
    rw [← all]
    rfl
  have same := (stale complete₁ short₁).symm.trans (stale complete₂ short₂)
  exact different (Option.some.inj same)

theorem replicate_of_flatten_nil {words : List Bytes} (h : words.flatten = []) :
    words = List.replicate words.length [] :=
  List.eq_replicate_iff.mpr ⟨rfl, List.flatten_eq_nil_iff.mp h⟩

theorem OneEach.of_decodesTo (sent : (segments.map Segment.data).flatten = requests.flatten)
    (decodes : controller.DecodesTo state segments requests) : controller.OneEach state segments requests := by
  induction segments generalizing state requests with
  | nil =>
    have none := decodes [] rfl
    rw [← none]
    exact ⟨rfl, .inl rfl⟩
  | cons segment segments ih =>
    have received := decodes.data_ne_nil
    rw [List.map_cons, List.flatten_cons] at sent
    have sizes := congrArg List.length sent
    rw [List.length_append] at sizes
    rcases decodes.head_cases with skipped | ⟨message, rest, rfl, inside, behind⟩
    · -- the other segments would hold all that was sent
      have enough := skipped.length_le
      have := List.length_pos_of_ne_nil received
      omega
    · rw [List.flatten_cons, List.length_append] at sizes
      split at behind
      · next after handled_ok =>
        have enough := behind.length_le
        have whole := inside.length_le
        obtain rfl := inside.eq_of_length (by omega)
        rw [List.flatten_cons] at sent
        obtain ⟨return_before_last, one_each⟩ := ih (List.append_cancel_left sent) behind
        have on (requests : List Bytes) :
            controller.handled state (segment.data :: requests) = controller.handled after requests := by
          rw [handled, handled_ok]
        constructor
        · cases rest with
          | nil => rfl
          | cons next rest =>
            rw [List.dropLast_cons_cons, on]
            exact return_before_last
        · rw [List.map_cons, on]
          rcases one_each with same | ⟨threw, n, same⟩
          · exact .inl (by rw [same])
          · exact .inr ⟨threw, n, by rw [same, List.cons_append]⟩
      · next handled_error =>
        subst behind
        have whole := inside.length_le
        rw [List.flatten_nil, List.length_nil] at sizes
        obtain rfl := inside.eq_of_length (by omega)
        have empty : (segments.map Segment.data).flatten = [] := List.length_eq_zero_iff.mp (by omega)
        refine ⟨rfl, .inr ⟨?_, segments.length, ?_⟩⟩
        · rw [handled, handled_error]
        · rw [List.map_cons, replicate_of_flatten_nil empty, List.length_map]
          rfl

theorem OneEach.decodesTo (complete : ∀ request ∈ requests, controller.IsMessage request)
    (each : controller.OneEach state segments requests) : controller.DecodesTo state segments requests := by
  obtain ⟨return_before_last, one_each⟩ := each
  have split : ∃ n, segments.map Segment.data = requests ++ List.replicate n [] ∧
      (n = 0 ∨ controller.handled state requests = none) := by
    rcases one_each with same | ⟨threw, n, same⟩
    · exact ⟨0, by rw [same, List.replicate_zero, List.append_nil], .inl rfl⟩
    · exact ⟨n, same, .inr threw⟩
  clear one_each
  intro received same
  subst same
  obtain ⟨n, same, behind⟩ := split
  rw [List.map_map] at same
  induction requests generalizing state received with
  | nil =>
    obtain rfl : n = 0 := by
      rcases behind with zero | threw
      · exact zero
      · cases threw
    rw [List.map_eq_nil_iff.mp same]
    rfl
  | cons request requests ih =>
    cases received with
    | nil => cases same
    | cons first received =>
      obtain ⟨segment, buffer⟩ := first
      obtain ⟨own, same⟩ := List.cons.inj same
      show controller.decoded state ((segment.receive buffer).bytes :: buffers received) = _
      rw [decoded, decode_receive (complete request List.mem_cons_self) own]
      rw [handled] at behind
      dsimp only
      cases outcome : controller.handle state request with
      | mk isHandled after =>
        rw [outcome] at behind
        cases isHandled with
        | error e =>
          cases requests with
          | nil => rfl
          | cons next rest =>
            rw [List.dropLast_cons_cons, handled, outcome] at return_before_last
            cases return_before_last
        | ok response =>
          refine congrArg (request :: ·)
            (ih (fun request later => complete request (List.mem_cons_of_mem _ later)) ?_ received same behind)
          cases requests with
          | nil => rfl
          | cons next rest =>
            rwa [List.dropLast_cons_cons, handled, outcome] at return_before_last

end DoipController

namespace DoipServer
open DoipController
variable {σ : Type}

/-- For every sequence of requests and every way to receive their bytes: on every run that receives them so, the
controller decodes each request once and nothing else, exactly when every receive returns one request and no handler but
that of the last one throws. -/
theorem passes_once_iff_oneEach (controller : DoipController σ) (state : σ) (requests : List Bytes)
    (segments : List Segment) (complete : ∀ request ∈ requests, controller.IsMessage request)
    (sent : (segments.map Segment.data).flatten = requests.flatten) :
    (∀ senderAdded polls, (polls.filterMap Polled.received).map Prod.fst = segments →
        (run controller state senderAdded polls).requestsPassed controller = requests) ↔
      controller.OneEach state segments requests := by
  have runs : (∀ senderAdded polls, (polls.filterMap Polled.received).map Prod.fst = segments →
      (run controller state senderAdded polls).requestsPassed controller = requests) ↔
        controller.DecodesTo state segments requests := by
    constructor
    · intro passes received same
      have readable : (received.map fun (segment, buffer) => Polled.readable segment buffer true).filterMap
          Polled.received = received := by
        rw [List.filterMap_map]
        exact List.filterMap_some
      have passed := passes true (received.map fun (segment, buffer) => .readable segment buffer true)
        (by rw [readable, same])
      rwa [requestsPassed_run, readable] at passed
    · intro decodes senderAdded polls same
      rw [requestsPassed_run]
      exact decodes _ same
  rw [runs]
  exact ⟨OneEach.of_decodesTo sent, OneEach.decodesTo complete⟩

/-! ## Two requests in one receive, and a receive without data -/

/-- A vehicle identification request in version 2. Its length stands where SOME/IP has it. -/
def vehicleIdRequest : Bytes := [0x02, 0xfd, 0x00, 0x01, 0x00, 0x00, 0x00, 0x00]

def vehicleIdResponse : Bytes := [0x02, 0xfd, 0x00, 0x04, 0x00, 0x00, 0x00, 0x20] ++ List.replicate 32 0

/-- Version 2 of the protocol, where diagnostic messages are handled without success. -/
def version2 : DoipController Unit where
  toFrontDecoder := .ofFraming someIp fun message =>
    message.take 4 = [0x02, 0xfd, 0x00, 0x01] || message.take 4 = [0x02, 0xfd, 0x80, 0x01]
  handle state message :=
    (.ok (if message.take 4 = [0x02, 0xfd, 0x00, 0x01] then some vehicleIdResponse else none), state)
  refuse _ := none
  two_messages := by
    refine ⟨vehicleIdRequest, [0x02, 0xfd, 0x80, 0x01, 0x00, 0x00, 0x00, 0x05, 0x0e, 0x80, 0x10, 0x00, 0x22],
      ?_, ?_, ?_⟩
    · decide
    · exact ⟨rfl, by decide⟩
    · exact ⟨rfl, by decide⟩

def oneRequest : Segment := ⟨vehicleIdRequest, by decide⟩

def twoRequests : Segment := ⟨vehicleIdRequest ++ vehicleIdRequest, by decide⟩

def noData : Segment := ⟨[], by decide⟩

theorem passes_once_iff_oneEach_vehicleIdRequest :
    (run version2 () true
        [.readable oneRequest blankBuffer true, .writable blankBuffer true,
          .readable oneRequest (oneRequest.receive blankBuffer) false]).requestsPassed version2 =
      [vehicleIdRequest, vehicleIdRequest] :=
  (passes_once_iff_oneEach version2 () [vehicleIdRequest, vehicleIdRequest] [oneRequest, oneRequest]
    (by simp only [List.mem_cons, List.not_mem_nil, or_false, or_self, forall_eq]; rfl) rfl).mpr ⟨rfl, .inl rfl⟩
    true _ rfl

/-- Two requests in one receive, and one request with a receive without data into the same buffer behind it. -/
theorem not_always_once :
    version2.IsMessage vehicleIdRequest ∧
      (run version2 () true [.readable twoRequests blankBuffer true]).requestsPassed version2 = [vehicleIdRequest] ∧
      (run version2 () true
          [.readable oneRequest blankBuffer true,
            .readable noData (oneRequest.receive blankBuffer) true]).requestsPassed version2 =
        [vehicleIdRequest, vehicleIdRequest] := by
  refine ⟨rfl, ?_, ?_⟩
  · rfl
  · rfl

end DoipServer

end AdaptiveAutosar.Application
