import AdaptiveAutosar.Application.PlatformHealthManagement
import AdaptiveAutosar.Com.Datagram
import AdaptiveAutosar.Com.E2E.Stream
import AdaptiveAutosar.Foundations.Gaps

/-! # Checkpoints over a FIFO

`application::helper::FifoCheckpointCommunicator` in the process of an application, which reports
checkpoints, and in the process of the platform health management. Both have both ends of the same FIFO
open, so that the communicator of the application may read what it has written itself.
-/

namespace AdaptiveAutosar.Application
open Foundations Foundations.BigEndian Com Com.E2E
set_option autoImplicit false

def cE2eHeaderSize : ℕ := 2

def cBufferSize : ℕ := cE2eHeaderSize + 4

/-- `callback` tells whether `Callback` is set. -/
structure FifoCheckpointCommunicator where
  profile11 : Profile11
  sendQueue : List Bytes
  callback : Bool
  deriving DecidableEq, Repr

/-- A round of the loop of `onCheckpointSend`: whether `TryDequeue` gets the lock, what the buffer holds
before the copy and whether the FIFO takes the buffer. -/
structure CheckpointRound where
  locked : Bool
  buffer : Buffer cBufferSize
  written : Bool

namespace FifoCheckpointCommunicator

def make : FifoCheckpointCommunicator := ⟨.make, [], false⟩

def setCallback (communicator : FifoCheckpointCommunicator) : FifoCheckpointCommunicator :=
  { communicator with callback := true }

def resetCallback (communicator : FifoCheckpointCommunicator) : FifoCheckpointCommunicator :=
  { communicator with callback := false }

/-- `locked` is whether `TryEnqueue` gets the lock. -/
def trySend (communicator : FifoCheckpointCommunicator) (checkpoint : UInt32) (locked : Bool) :
    Bool × FifoCheckpointCommunicator :=
  match communicator.profile11.tryProtect (injectInteger [] checkpoint) with
  | (none, profile11) => (false, { communicator with profile11 })
  | (some protectedPayload, profile11) =>
    let (result, sendQueue) := ConcurrentQueue.tryEnqueue communicator.sendQueue locked protectedPayload
    (result, { communicator with profile11, sendQueue })

/-- A round of the loop, with the bytes that it writes to the FIFO. -/
def onCheckpointSend (communicator : FifoCheckpointCommunicator) (round : CheckpointRound) :
    Outcome (Bytes × FifoCheckpointCommunicator) :=
  match ConcurrentQueue.tryDequeue communicator.sendQueue round.locked with
  | (none, sendQueue) => .ok ([], { communicator with sendQueue })
  | (some payload, sendQueue) =>
    if payload.length ≤ cBufferSize then do
      let buffer ← round.buffer.copyN payload
      pure (if round.written then buffer.1 else [], { communicator with sendQueue })
    else .ok ([], { communicator with sendQueue })

/-- The checkpoint that `Callback` is invoked with, and what is left in the FIFO. Only what is received
overwrites the buffer. -/
def onCheckpointReceive (communicator : FifoCheckpointCommunicator) (buffer : Buffer cBufferSize) (fifo : Bytes) :
    Outcome (Option UInt32 × FifoCheckpointCommunicator × Bytes) :=
  let received := fifo.take cBufferSize
  let rest := fifo.drop cBufferSize
  if received ≠ [] ∧ communicator.callback then do
    let payload := received ++ buffer.1.drop received.length
    let (checkStatus, profile11) := communicator.profile11.check payload
    let communicator := { communicator with profile11 }
    if checkStatus = .kOk then
      let (checkpoint, _) ← extractInteger payload cE2eHeaderSize
      pure (some checkpoint, communicator, rest)
    else pure (none, communicator, rest)
  else .ok (none, communicator, rest)

end FifoCheckpointCommunicator

/-- The communicator of the application, which is the one that reports, and the one of the platform health
management, whose `onReportCheckpoint` is its callback. -/
structure CheckpointChannel where
  entity : FifoCheckpointCommunicator
  monitor : FifoCheckpointCommunicator
  fifo : Bytes
  management : PlatformHealthManagement

inductive ChannelStep where
  | report (checkpoint : UInt32) (locked : Bool)
  | send (round : CheckpointRound)
  /-- The communicator of the application, whose callback is never set, reads from the FIFO. -/
  | takeBack (buffer : Buffer cBufferSize)
  | receive (buffer : Buffer cBufferSize)
  | setCallback
  | resetCallback

inductive ChannelEvent where
  | reported (result : Bool)
  | received (checkpoint : Option UInt32) (calls : List ReportDelegate)
  | nothing
  deriving DecidableEq, Repr

namespace CheckpointChannel

def make (management : PlatformHealthManagement) : CheckpointChannel := ⟨.make, .make, [], management⟩

def step (channel : CheckpointChannel) : ChannelStep → Outcome (ChannelEvent × CheckpointChannel)
  | .report checkpoint locked =>
    let (result, entity) := channel.entity.trySend checkpoint locked
    .ok (.reported result, { channel with entity })
  | .send round => do
    let (bytes, entity) ← channel.entity.onCheckpointSend round
    pure (.nothing, { channel with entity, fifo := channel.fifo ++ bytes })
  | .takeBack buffer => do
    let (checkpoint, entity, fifo) ← channel.entity.onCheckpointReceive buffer channel.fifo
    pure (.received checkpoint [], { channel with entity, fifo })
  | .receive buffer => do
    let (checkpoint, monitor, fifo) ← channel.monitor.onCheckpointReceive buffer channel.fifo
    let channel := { channel with monitor, fifo }
    match checkpoint with
    | none => pure (.received none [], channel)
    | some checkpoint =>
      let (calls, management) := channel.management.onReportCheckpoint checkpoint
      pure (.received (some checkpoint) calls, { channel with management })
  | .setCallback => .ok (.nothing, { channel with monitor := channel.monitor.setCallback })
  | .resetCallback => .ok (.nothing, { channel with monitor := channel.monitor.resetCallback })

/-! ## What is seen of a run -/

def checkpointOf (taken : Taken CheckpointChannel ChannelStep ChannelEvent) : Option UInt32 :=
  match taken.input with
  | .report checkpoint _ => some checkpoint
  | _ => none

def queuedOf (taken : Taken CheckpointChannel ChannelStep ChannelEvent) : Option UInt32 :=
  if taken.output = .reported true then checkpointOf taken else none

def deliveredOf (taken : Taken CheckpointChannel ChannelStep ChannelEvent) : Option UInt32 :=
  match taken.output with
  | .received checkpoint _ => checkpoint
  | _ => none

def callsOf (taken : Taken CheckpointChannel ChannelStep ChannelEvent) : List ReportDelegate :=
  match taken.output with
  | .received _ calls => calls
  | _ => []

/-- The step loses a checkpoint: the queue or the FIFO does not take it, the communicator of the application
reads it, or that of the platform health management reads it without a callback. -/
def Loses (taken : Taken CheckpointChannel ChannelStep ChannelEvent) : Bool :=
  match taken.input with
  | .report _ _ => taken.output = .reported false
  | .send round => taken.before.entity.sendQueue ≠ [] ∧ round.locked ∧ ¬ round.written
  | .takeBack _ => taken.before.fifo ≠ []
  | .receive _ => taken.before.fifo ≠ [] ∧ ¬ taken.before.monitor.callback
  | .setCallback => false
  | .resetCallback => false

/-- The checkpoints reported, the oldest first. -/
def reported (trace : List (Taken CheckpointChannel ChannelStep ChannelEvent)) : List UInt32 :=
  trace.reverse.filterMap checkpointOf

/-- Those for which `TrySend` answers true. -/
def queued (trace : List (Taken CheckpointChannel ChannelStep ChannelEvent)) : List UInt32 :=
  trace.reverse.filterMap queuedOf

def delivered (trace : List (Taken CheckpointChannel ChannelStep ChannelEvent)) : List UInt32 :=
  trace.reverse.filterMap deliveredOf

def calls (trace : List (Taken CheckpointChannel ChannelStep ChannelEvent)) : List ReportDelegate :=
  trace.reverse.flatMap callsOf

def lost (trace : List (Taken CheckpointChannel ChannelStep ChannelEvent)) : ℕ := trace.countP Loses

/-- The number of messages in the queue and in the FIFO. -/
def waiting (channel : CheckpointChannel) : ℕ :=
  channel.fifo.length / cBufferSize + channel.entity.sendQueue.length

/-! ## The messages -/

/-- The message of a checkpoint and its number, where the first one reported is number one. -/
def messageOf (numbered : UInt32 × ℕ) : Bytes :=
  Profile11.sealed ((Stream.counterOf numbered.2 ||| 0xf0) :: bytes32 numbered.1)

theorem messageOf_length (numbered : UInt32 × ℕ) : (messageOf numbered).length = cBufferSize := rfl

theorem messageOf_ne_nil (numbered : UInt32 × ℕ) : messageOf numbered ≠ [] := List.cons_ne_nil _ _

theorem flatMap_messageOf_length (messages : List (UInt32 × ℕ)) :
    (messages.flatMap messageOf).length = messages.length * cBufferSize := by
  induction messages with
  | nil => rfl
  | cons head rest ih =>
    rw [List.flatMap_cons, List.length_append, messageOf_length, ih, List.length_cons, Nat.succ_mul, Nat.add_comm]

/-- The counters tell the message of this number from the one of the number before. -/
def Accepts (last number : ℕ) : Prop :=
  Profile11.sequenceStatus (Stream.counterOf last) (Stream.counterOf number) = .kOk

instance : DecidableRel Accepts := fun _ _ => inferInstanceAs (Decidable (_ = _))

theorem accepts_direct (number : ℕ) : Accepts number (number + 1) := by
  rw [Accepts, Stream.sequenceStatus_eq_kOk]
  omega

theorem extractInteger_messageOf (numbered : UInt32 × ℕ) :
    extractInteger (messageOf numbered) cE2eHeaderSize = .ok (numbered.1, cBufferSize) := by
  have read := extractInteger_bytes32 numbered.1
    [Profile11.calculateCrc Profile11.mCrcTable ((Stream.counterOf numbered.2 ||| 0xf0) :: bytes32 numbered.1) 0,
      Stream.counterOf numbered.2 ||| 0xf0] []
  rw [List.append_nil] at read
  exact read

end CheckpointChannel

namespace FifoCheckpointCommunicator
open CheckpointChannel
variable {communicator : FifoCheckpointCommunicator} {last : ℕ}

theorem trySend_eq (counted : communicator.profile11.mProtectingCounter = Stream.counterOf last)
    (checkpoint : UInt32) (locked : Bool) :
    communicator.trySend checkpoint locked = (locked,
      { communicator with
        profile11 := { communicator.profile11 with mProtectingCounter := Stream.counterOf (last + 1) }
        sendQueue := communicator.sendQueue ++ if locked then [messageOf (checkpoint, last + 1)] else [] }) := by
  have given : injectInteger [] checkpoint ≠ [] := List.cons_ne_nil _ _
  have protects := Profile11.tryProtect_of_ne_nil communicator.profile11 given
  rw [counted, Stream.nextCounter_counterOf] at protects
  unfold trySend
  rw [protects]
  cases locked with
  | false =>
    rw [if_neg Bool.false_ne_true, List.append_nil]
    rfl
  | true => rfl

/-- A message that is received whole is taken exactly when the counters accept it. -/
theorem onCheckpointReceive_message (counted : communicator.profile11.mCheckingCounter = Stream.counterOf last)
    (listening : communicator.callback = true) (buffer : Buffer cBufferSize) (numbered : UInt32 × ℕ) (rest : Bytes) :
    communicator.onCheckpointReceive buffer (messageOf numbered ++ rest) =
      .ok (if Accepts last numbered.2 then some numbered.1 else none,
        { communicator with
          profile11 := { communicator.profile11 with mCheckingCounter := Stream.counterOf numbered.2 } }, rest) := by
  have received : (messageOf numbered ++ rest).take cBufferSize = messageOf numbered :=
    List.take_left' (messageOf_length numbered)
  have left : (messageOf numbered ++ rest).drop cBufferSize = rest :=
    List.drop_left' (messageOf_length numbered)
  have whole : messageOf numbered ++ buffer.1.drop (messageOf numbered).length = messageOf numbered := by
    rw [messageOf_length, List.drop_eq_nil_of_le (le_of_eq buffer.2), List.append_nil]
  have checked : communicator.profile11.check (messageOf numbered) =
      (Profile11.sequenceStatus (Stream.counterOf last) (Stream.counterOf numbered.2),
        { communicator.profile11 with mCheckingCounter := Stream.counterOf numbered.2 }) := by
    have right := Profile11.check_rightCrc communicator.profile11 (Stream.counterOf numbered.2 ||| 0xf0)
      (numbered.1 >>> 24).toUInt8 [(numbered.1 >>> 16).toUInt8, (numbered.1 >>> 8).toUInt8, numbered.1.toUInt8]
    rw [counted, Stream.masked_counterOf] at right
    exact right
  have some_bytes : messageOf numbered ≠ [] ∧ communicator.callback = true := ⟨List.cons_ne_nil _ _, listening⟩
  have read := extractInteger_messageOf numbered
  simp only [onCheckpointReceive, received, left, if_pos some_bytes, whole, checked, read]
  by_cases taken : Accepts last numbered.2
  · rw [if_pos taken]
    exact if_pos taken
  · rw [if_neg taken]
    exact if_neg taken

theorem onCheckpointReceive_silent (silent : communicator.callback = false) (buffer : Buffer cBufferSize)
    (fifo : Bytes) :
    communicator.onCheckpointReceive buffer fifo = .ok (none, communicator, fifo.drop cBufferSize) := by
  unfold onCheckpointReceive
  rw [if_neg]
  rintro ⟨-, listening⟩
  rw [silent] at listening
  cases listening

theorem onCheckpointSend_nil (round : CheckpointRound) (nothing : communicator.sendQueue = []) :
    communicator.onCheckpointSend round = .ok ([], communicator) := by
  obtain ⟨profile11, sendQueue, callback⟩ := communicator
  cases nothing
  rfl

theorem onCheckpointSend_cons {numbered : UInt32 × ℕ} {rest : List Bytes} (round : CheckpointRound)
    (pending : communicator.sendQueue = messageOf numbered :: rest) :
    communicator.onCheckpointSend round =
      if round.locked then
        .ok (if round.written then messageOf numbered else [], { communicator with sendQueue := rest })
      else .ok ([], communicator) := by
  obtain ⟨profile11, sendQueue, callback⟩ := communicator
  obtain ⟨locked, buffer, written⟩ := round
  cases pending
  cases locked with
  | false => rfl
  | true =>
    have whole : messageOf numbered ++ buffer.1.drop (messageOf numbered).length = messageOf numbered := by
      rw [messageOf_length, List.drop_eq_nil_of_le (le_of_eq buffer.2), List.append_nil]
    have fits : (messageOf numbered).length ≤ cBufferSize := le_of_eq (messageOf_length numbered)
    unfold onCheckpointSend
    simp only [ConcurrentQueue.tryDequeue, if_true, if_pos fits, Buffer.copyN, dif_pos fits, whole]
    rfl

end FifoCheckpointCommunicator

namespace CheckpointChannel

/-! ## One step more -/

theorem reported_cons (taken : Taken CheckpointChannel ChannelStep ChannelEvent)
    (trace : List (Taken CheckpointChannel ChannelStep ChannelEvent)) :
    reported (taken :: trace) = reported trace ++ (checkpointOf taken).toList :=
  Run.seen_cons checkpointOf taken trace

theorem queued_cons (taken : Taken CheckpointChannel ChannelStep ChannelEvent)
    (trace : List (Taken CheckpointChannel ChannelStep ChannelEvent)) :
    queued (taken :: trace) = queued trace ++ (queuedOf taken).toList :=
  Run.seen_cons queuedOf taken trace

theorem delivered_cons (taken : Taken CheckpointChannel ChannelStep ChannelEvent)
    (trace : List (Taken CheckpointChannel ChannelStep ChannelEvent)) :
    delivered (taken :: trace) = delivered trace ++ (deliveredOf taken).toList :=
  Run.seen_cons deliveredOf taken trace

theorem calls_cons (taken : Taken CheckpointChannel ChannelStep ChannelEvent)
    (trace : List (Taken CheckpointChannel ChannelStep ChannelEvent)) :
    calls (taken :: trace) = calls trace ++ callsOf taken := by
  rw [calls, List.reverse_cons, List.flatMap_append, ← calls, List.flatMap_singleton]

theorem lost_cons (taken : Taken CheckpointChannel ChannelStep ChannelEvent)
    (trace : List (Taken CheckpointChannel ChannelStep ChannelEvent)) :
    lost (taken :: trace) = lost trace + if Loses taken then 1 else 0 := List.countP_cons

/-! ## Where the messages are -/

/-- The messages that the platform health management has checked, those in the FIFO and those in the queue
are reported ones in their order, and all others are lost. -/
structure Carried (management : PlatformHealthManagement)
    (trace : List (Taken CheckpointChannel ChannelStep ChannelEvent)) (channel : CheckpointChannel)
    (read flowing pending : List (UInt32 × ℕ)) : Prop where
  sender : channel.entity.profile11.mProtectingCounter = Stream.counterOf (reported trace).length
  receiver : channel.monitor.profile11.mCheckingCounter = Stream.counterOf (Gaps.lastOf 0 read)
  silent : channel.entity.callback = false
  sendQueue : channel.entity.sendQueue = pending.map messageOf
  fifo : channel.fifo = flowing.flatMap messageOf
  numbered : (read ++ flowing ++ pending).Sublist ((reported trace).zipIdx 1)
  order : ((read ++ flowing ++ pending).map Prod.fst).Sublist (queued trace)
  delivers : delivered trace = Gaps.heard Accepts 0 read
  dispatches : calls trace = (delivered trace).flatMap fun checkpoint =>
    (management.reportDelegates.find? checkpoint).toList
  delegates : channel.management.reportDelegates = management.reportDelegates
  balance : (reported trace).length = (read ++ flowing ++ pending).length + lost trace

theorem carried_make (management : PlatformHealthManagement) : Carried management [] (make management) [] [] [] where
  sender := rfl
  receiver := rfl
  silent := rfl
  sendQueue := rfl
  fifo := rfl
  numbered := List.Sublist.slnil
  order := List.Sublist.slnil
  delivers := rfl
  dispatches := rfl
  delegates := rfl
  balance := rfl

variable {management : PlatformHealthManagement} {channel channel' : CheckpointChannel} {event : ChannelEvent}
  {trace : List (Taken CheckpointChannel ChannelStep ChannelEvent)} {read flowing pending : List (UInt32 × ℕ)}

theorem Carried.report (carried : Carried management trace channel read flowing pending) (checkpoint : UInt32)
    (locked : Bool) : ∃ event channel' pending', channel.step (.report checkpoint locked) = .ok (event, channel') ∧
      Carried management (⟨channel, .report checkpoint locked, event⟩ :: trace) channel' read flowing pending' := by
  have stepped : channel.step (.report checkpoint locked) = .ok (.reported locked,
      { channel with
        entity := { channel.entity with
          profile11 := { channel.entity.profile11 with
            mProtectingCounter := Stream.counterOf ((reported trace).length + 1) }
          sendQueue := channel.entity.sendQueue ++
            if locked then [messageOf (checkpoint, (reported trace).length + 1)] else [] } }) := by
    rw [step, FifoCheckpointCommunicator.trySend_eq carried.sender]
  have reported_one : reported (⟨channel, .report checkpoint locked, .reported locked⟩ :: trace) =
      reported trace ++ [checkpoint] := reported_cons _ _
  have queued_one : queued (⟨channel, .report checkpoint locked, .reported locked⟩ :: trace) =
      queued trace ++ if locked then [checkpoint] else [] := by
    rw [queued_cons]
    cases locked <;> rfl
  have lost_one : lost (⟨channel, .report checkpoint locked, .reported locked⟩ :: trace) =
      lost trace + if locked then 0 else 1 := by
    rw [lost_cons]
    cases locked <;> rfl
  have numbers : (reported trace ++ [checkpoint]).zipIdx 1 =
      (reported trace).zipIdx 1 ++ [(checkpoint, (reported trace).length + 1)] := by
    rw [List.zipIdx_append, Nat.add_comm 1]
    rfl
  have behind : delivered (⟨channel, .report checkpoint locked, .reported locked⟩ :: trace) = delivered trace := by
    rw [delivered_cons]
    exact List.append_nil _
  have called : calls (⟨channel, .report checkpoint locked, .reported locked⟩ :: trace) = calls trace := by
    rw [calls_cons]
    exact List.append_nil _
  let added := if locked then [(checkpoint, (reported trace).length + 1)] else []
  have few : added.Sublist [(checkpoint, (reported trace).length + 1)] := by
    cases locked
    · exact List.nil_sublist _
    · exact List.Sublist.refl _
  refine ⟨_, _, pending ++ added, stepped, ?_, carried.receiver, carried.silent, ?_, carried.fifo, ?_, ?_,
    behind.trans carried.delivers, ?_, carried.delegates, ?_⟩
  · rw [reported_one, List.length_append]
    rfl
  · show channel.entity.sendQueue ++ (if locked then _ else _) = _
    rw [carried.sendQueue, List.map_append]
    cases locked <;> rfl
  · rw [reported_one, numbers, ← List.append_assoc]
    exact carried.numbered.append few
  · rw [queued_one, ← List.append_assoc, List.map_append]
    refine carried.order.append ?_
    cases locked
    · exact List.Sublist.slnil
    · exact List.Sublist.refl _
  · rw [called, behind]
    exact carried.dispatches
  · rw [reported_one, lost_one, ← List.append_assoc, List.length_append, List.length_append, carried.balance]
    cases locked
    · rfl
    · show _ + 1 = _ + 1 + (lost trace + 0)
      omega

/-- A step that reports and delivers nothing moves messages on or loses one. -/
theorem Carried.quiet (carried : Carried management trace channel read flowing pending) {input : ChannelStep}
    {flowing' pending' : List (UInt32 × ℕ)} (noReport : checkpointOf ⟨channel, input, event⟩ = none)
    (noDelivery : deliveredOf ⟨channel, input, event⟩ = none) (noCalls : callsOf ⟨channel, input, event⟩ = [])
    (entity : channel'.entity.profile11 = channel.entity.profile11 ∧ channel'.entity.callback = channel.entity.callback)
    (monitor : channel'.monitor.profile11 = channel.monitor.profile11) (kept : channel'.management = channel.management)
    (sendQueue : channel'.entity.sendQueue = pending'.map messageOf) (fifo : channel'.fifo = flowing'.flatMap messageOf)
    (fewer : (flowing' ++ pending').Sublist (flowing ++ pending))
    (balance : (flowing ++ pending).length =
      (flowing' ++ pending').length + if Loses ⟨channel, input, event⟩ then 1 else 0) :
    Carried management (⟨channel, input, event⟩ :: trace) channel' read flowing' pending' := by
  have same_reported : reported (⟨channel, input, event⟩ :: trace) = reported trace := by
    rw [reported_cons, noReport]
    exact List.append_nil _
  have same_queued : queued (⟨channel, input, event⟩ :: trace) = queued trace := by
    rw [queued_cons, queuedOf, noReport, ite_self]
    exact List.append_nil _
  have same_delivered : delivered (⟨channel, input, event⟩ :: trace) = delivered trace := by
    rw [delivered_cons, noDelivery]
    exact List.append_nil _
  have same_calls : calls (⟨channel, input, event⟩ :: trace) = calls trace := by
    rw [calls_cons, noCalls]
    exact List.append_nil _
  have all_fewer : (read ++ flowing' ++ pending').Sublist (read ++ flowing ++ pending) := by
    rw [List.append_assoc, List.append_assoc]
    exact fewer.append_left read
  constructor
  case sender => rw [same_reported, entity.1]; exact carried.sender
  case receiver => rw [monitor]; exact carried.receiver
  case silent => exact entity.2.trans carried.silent
  case sendQueue => exact sendQueue
  case fifo => exact fifo
  case numbered => rw [same_reported]; exact all_fewer.trans carried.numbered
  case order => rw [same_queued]; exact (all_fewer.map Prod.fst).trans carried.order
  case delivers => exact same_delivered.trans carried.delivers
  case dispatches => rw [same_calls, same_delivered]; exact carried.dispatches
  case delegates => rw [kept]; exact carried.delegates
  case balance =>
    have before := carried.balance
    rw [List.append_assoc, List.length_append, balance] at before
    rw [same_reported, lost_cons, List.append_assoc, List.length_append, before]
    omega

theorem Carried.write {numbered : UInt32 × ℕ}
    (carried : Carried management trace channel read flowing (numbered :: pending)) {round : CheckpointRound}
    (locked : round.locked = true) (written : round.written = true) :
    ∃ channel', channel.step (.send round) = .ok (.nothing, channel') ∧ channel'.monitor = channel.monitor ∧
      Carried management (⟨channel, .send round, .nothing⟩ :: trace) channel' read (flowing ++ [numbered]) pending := by
  have sent := FifoCheckpointCommunicator.onCheckpointSend_cons round carried.sendQueue
  rw [if_pos locked, if_pos written] at sent
  have stepped : channel.step (.send round) = .ok (.nothing,
      { channel with
        entity := { channel.entity with sendQueue := pending.map messageOf }
        fifo := channel.fifo ++ messageOf numbered }) := by
    rw [step, sent]
    rfl
  refine ⟨_, stepped, rfl, ?_⟩
  refine carried.quiet rfl rfl rfl ⟨rfl, rfl⟩ rfl rfl rfl ?_ ?_ ?_
  · rw [List.flatMap_append, List.flatMap_singleton, ← carried.fifo]
  · rw [List.append_assoc]
    exact List.Sublist.refl _
  · simp [Loses, written]

theorem Carried.send (carried : Carried management trace channel read flowing pending) (round : CheckpointRound) :
    ∃ event channel' flowing' pending', channel.step (.send round) = .ok (event, channel') ∧
      Carried management (⟨channel, .send round, event⟩ :: trace) channel' read flowing' pending' := by
  have same : channel.fifo ++ [] = flowing.flatMap messageOf := (List.append_nil _).trans carried.fifo
  cases pending with
  | nil =>
    have sent := FifoCheckpointCommunicator.onCheckpointSend_nil round carried.sendQueue
    refine ⟨_, _, flowing, [], by rw [step, sent]; rfl, ?_⟩
    refine carried.quiet rfl rfl rfl ⟨rfl, rfl⟩ rfl rfl carried.sendQueue same (List.Sublist.refl _) ?_
    simp [Loses, carried.sendQueue]
  | cons numbered rest =>
    have sent := FifoCheckpointCommunicator.onCheckpointSend_cons round carried.sendQueue
    cases locked : round.locked with
    | false =>
      rw [locked, if_neg Bool.false_ne_true] at sent
      refine ⟨_, _, flowing, numbered :: rest, by rw [step, sent]; rfl, ?_⟩
      refine carried.quiet rfl rfl rfl ⟨rfl, rfl⟩ rfl rfl carried.sendQueue same (List.Sublist.refl _) ?_
      simp [Loses, locked]
    | true =>
      cases written : round.written with
      | true =>
        obtain ⟨channel', stepped, -, carried'⟩ := carried.write locked written
        exact ⟨_, channel', flowing ++ [numbered], rest, stepped, carried'⟩
      | false =>
        rw [if_pos locked, written, if_neg Bool.false_ne_true] at sent
        refine ⟨_, _, flowing, rest, by rw [step, sent]; rfl, ?_⟩
        refine carried.quiet rfl rfl rfl ⟨rfl, rfl⟩ rfl rfl rfl same ?_ ?_
        · exact (List.sublist_cons_self numbered rest).append_left flowing
        · simp [Loses, locked, written, carried.sendQueue]
          omega

/-- What is read without a callback is the first message in the FIFO. -/
theorem drop_flowing (numbered : UInt32 × ℕ) (rest : List (UInt32 × ℕ)) :
    ((numbered :: rest).flatMap messageOf).drop cBufferSize = rest.flatMap messageOf := by
  rw [List.flatMap_cons]
  exact List.drop_left' (messageOf_length numbered)

theorem Carried.takeBack (carried : Carried management trace channel read flowing pending)
    (buffer : Buffer cBufferSize) :
    ∃ event channel' flowing', channel.step (.takeBack buffer) = .ok (event, channel') ∧
      Carried management (⟨channel, .takeBack buffer, event⟩ :: trace) channel' read flowing' pending := by
  have silent := FifoCheckpointCommunicator.onCheckpointReceive_silent carried.silent buffer channel.fifo
  have stepped : channel.step (.takeBack buffer) =
      .ok (.received none [], { channel with fifo := channel.fifo.drop cBufferSize }) := by
    rw [step, silent]
    rfl
  cases flowing with
  | nil =>
    have empty : channel.fifo = [] := carried.fifo
    refine ⟨_, _, [], stepped, ?_⟩
    refine carried.quiet rfl rfl rfl ⟨rfl, rfl⟩ rfl rfl carried.sendQueue ?_ (List.Sublist.refl _) ?_
    · show channel.fifo.drop cBufferSize = []
      rw [empty, List.drop_nil]
    · simp [Loses, empty]
  | cons numbered rest =>
    refine ⟨_, _, rest, stepped, ?_⟩
    refine carried.quiet rfl rfl rfl ⟨rfl, rfl⟩ rfl rfl carried.sendQueue ?_ ?_ ?_
    · show channel.fifo.drop cBufferSize = _
      rw [carried.fifo, drop_flowing]
    · exact List.sublist_cons_self _ _
    · have loses : Loses ⟨channel, .takeBack buffer, .received none []⟩ = true := by
        simp [Loses, carried.fifo, messageOf_ne_nil]
      rw [loses]
      rfl

/-- A message that the platform health management reads is handed to its supervisions, or refused. -/
theorem receive_message {last : ℕ} (counted : channel.monitor.profile11.mCheckingCounter = Stream.counterOf last)
    (listening : channel.monitor.callback = true) {checkpoint : UInt32} {number : ℕ} {rest : List (UInt32 × ℕ)}
    (first : channel.fifo = ((checkpoint, number) :: rest).flatMap messageOf) (buffer : Buffer cBufferSize) :
    ∃ event platform, channel.step (.receive buffer) = .ok (event,
        { channel with
          monitor := { channel.monitor with
            profile11 := { channel.monitor.profile11 with mCheckingCounter := Stream.counterOf number } }
          fifo := rest.flatMap messageOf
          management := platform }) ∧
      (deliveredOf ⟨channel, .receive buffer, event⟩).toList = (if Accepts last number then [checkpoint] else []) ∧
      callsOf ⟨channel, .receive buffer, event⟩ =
        (deliveredOf ⟨channel, .receive buffer, event⟩).toList.flatMap (fun checkpoint =>
          (channel.management.reportDelegates.find? checkpoint).toList) ∧
      platform.reportDelegates = channel.management.reportDelegates := by
  have received := FifoCheckpointCommunicator.onCheckpointReceive_message counted listening buffer
    (checkpoint, number) (rest.flatMap messageOf)
  rw [← List.flatMap_cons, ← first] at received
  obtain ⟨dispatched, delegates⟩ := PlatformHealthManagement.onReportCheckpoint_eq channel.management checkpoint
  by_cases taken : Accepts last number
  · rw [if_pos taken] at received ⊢
    refine ⟨_, _, by rw [step, received]; rfl, rfl, ?_, delegates⟩
    show (channel.management.onReportCheckpoint checkpoint).1 = _
    rw [dispatched]
    exact (List.flatMap_singleton _ _).symm
  · rw [if_neg taken] at received ⊢
    exact ⟨_, _, by rw [step, received]; rfl, rfl, rfl, rfl⟩

theorem Carried.receive (carried : Carried management trace channel read flowing pending)
    (buffer : Buffer cBufferSize) :
    ∃ event channel' read' flowing', channel.step (.receive buffer) = .ok (event, channel') ∧
      channel'.monitor.callback = channel.monitor.callback ∧
      (channel.monitor.callback = true → flowing' = flowing.tail) ∧
      Carried management (⟨channel, .receive buffer, event⟩ :: trace) channel' read' flowing' pending := by
  cases listening : channel.monitor.callback with
  | false =>
    have silent := FifoCheckpointCommunicator.onCheckpointReceive_silent listening buffer channel.fifo
    have stepped : channel.step (.receive buffer) =
        .ok (.received none [], { channel with fifo := channel.fifo.drop cBufferSize }) := by
      rw [step, silent]
      rfl
    cases flowing with
    | nil =>
      have empty : channel.fifo = [] := carried.fifo
      refine ⟨_, _, read, [], stepped, listening, nofun, ?_⟩
      refine carried.quiet rfl rfl rfl ⟨rfl, rfl⟩ rfl rfl carried.sendQueue ?_ (List.Sublist.refl _) ?_
      · show channel.fifo.drop cBufferSize = []
        rw [empty, List.drop_nil]
      · simp [Loses, empty]
    | cons numbered rest =>
      refine ⟨_, _, read, rest, stepped, listening, nofun, ?_⟩
      refine carried.quiet rfl rfl rfl ⟨rfl, rfl⟩ rfl rfl carried.sendQueue ?_ ?_ ?_
      · show channel.fifo.drop cBufferSize = _
        rw [carried.fifo, drop_flowing]
      · exact List.sublist_cons_self _ _
      · have loses : Loses ⟨channel, .receive buffer, .received none []⟩ = true := by
          simp [Loses, carried.fifo, listening, messageOf_ne_nil]
        rw [loses]
        rfl
  | true =>
    cases flowing with
    | nil =>
      have empty : channel.fifo = [] := carried.fifo
      have stepped : channel.step (.receive buffer) = .ok (.received none [], channel) := by
        obtain ⟨entity, monitor, fifo, platform⟩ := channel
        cases empty
        rfl
      refine ⟨_, _, read, [], stepped, listening, fun _ => rfl, ?_⟩
      refine carried.quiet rfl rfl rfl ⟨rfl, rfl⟩ rfl rfl carried.sendQueue carried.fifo (List.Sublist.refl _) ?_
      simp [Loses, empty]
    | cons numbered rest =>
      obtain ⟨checkpoint, number⟩ := numbered
      have last : Gaps.lastOf 0 (read ++ [(checkpoint, number)]) = number := Gaps.lastOf_concat 0 number checkpoint read
      have moved :
          read ++ [(checkpoint, number)] ++ rest ++ pending = read ++ (checkpoint, number) :: rest ++ pending := by
        rw [List.append_assoc read, List.singleton_append]
      have heard : Gaps.heard Accepts 0 (read ++ [(checkpoint, number)]) = _ :=
        Gaps.heard_concat 0 number checkpoint read
      obtain ⟨event, platform, stepped, delivers, dispatches, kept⟩ :=
        receive_message carried.receiver listening carried.fifo buffer
      have noReport : checkpointOf ⟨channel, .receive buffer, event⟩ = none := rfl
      have same_reported : reported (⟨channel, .receive buffer, event⟩ :: trace) = reported trace :=
        (reported_cons _ _).trans (List.append_nil _)
      have same_queued : queued (⟨channel, .receive buffer, event⟩ :: trace) = queued trace := by
        rw [queued_cons, queuedOf, noReport, ite_self]
        exact List.append_nil _
      have delivered_one : delivered (⟨channel, .receive buffer, event⟩ :: trace) =
          Gaps.heard Accepts 0 (read ++ [(checkpoint, number)]) := by
        rw [delivered_cons, carried.delivers, delivers, heard]
      have kept_all : Loses ⟨channel, .receive buffer, event⟩ = false := by simp [Loses, listening]
      refine ⟨_, _, read ++ [(checkpoint, number)], rest, stepped, listening, fun _ => rfl, ?_⟩
      constructor
      case sender => rw [same_reported]; exact carried.sender
      case receiver => rw [last]
      case silent => exact carried.silent
      case sendQueue => exact carried.sendQueue
      case fifo => rfl
      case numbered => rw [moved, same_reported]; exact carried.numbered
      case order => rw [moved, same_queued]; exact carried.order
      case delivers => exact delivered_one
      case dispatches =>
        rw [calls_cons, carried.dispatches, dispatches, carried.delegates, delivered_cons, List.flatMap_append]
      case delegates => exact kept.trans carried.delegates
      case balance =>
        rw [same_reported, moved, lost_cons, kept_all]
        exact carried.balance

theorem Carried.callback (carried : Carried management trace channel read flowing pending) {input : ChannelStep}
    {monitor : FifoCheckpointCommunicator} (noReport : checkpointOf ⟨channel, input, .nothing⟩ = none)
    (same : monitor.profile11 = channel.monitor.profile11) (keeps : Loses ⟨channel, input, .nothing⟩ = false) :
    Carried management (⟨channel, input, .nothing⟩ :: trace) { channel with monitor } read flowing pending := by
  refine carried.quiet noReport rfl rfl ⟨rfl, rfl⟩ same rfl carried.sendQueue carried.fifo (List.Sublist.refl _) ?_
  rw [keeps]
  rfl

/-- Every step is taken, and the messages stay where they are or move on. -/
theorem Carried.next (carried : Carried management trace channel read flowing pending) (input : ChannelStep) :
    ∃ event channel' read' flowing' pending', channel.step input = .ok (event, channel') ∧
      Carried management (⟨channel, input, event⟩ :: trace) channel' read' flowing' pending' := by
  cases input with
  | report checkpoint locked =>
    obtain ⟨event, channel', pending', stepped, carried'⟩ := carried.report checkpoint locked
    exact ⟨event, channel', read, flowing, pending', stepped, carried'⟩
  | send round =>
    obtain ⟨event, channel', flowing', pending', stepped, carried'⟩ := carried.send round
    exact ⟨event, channel', read, flowing', pending', stepped, carried'⟩
  | takeBack buffer =>
    obtain ⟨event, channel', flowing', stepped, carried'⟩ := carried.takeBack buffer
    exact ⟨event, channel', read, flowing', pending, stepped, carried'⟩
  | receive buffer =>
    obtain ⟨event, channel', read', flowing', stepped, -, -, carried'⟩ := carried.receive buffer
    exact ⟨event, channel', read', flowing', pending, stepped, carried'⟩
  | setCallback => exact ⟨_, _, read, flowing, pending, rfl, carried.callback rfl rfl rfl⟩
  | resetCallback => exact ⟨_, _, read, flowing, pending, rfl, carried.callback rfl rfl rfl⟩

theorem carried_of_run (run : Run step (make management) trace channel) :
    ∃ read flowing pending, Carried management trace channel read flowing pending := by
  induction run with
  | start => exact ⟨[], [], [], carried_make management⟩
  | next _ taken ih =>
    obtain ⟨read, flowing, pending, carried⟩ := ih
    obtain ⟨event, channel', read', flowing', pending', stepped, carried'⟩ := carried.next _
    cases taken.symm.trans stepped
    exact ⟨read', flowing', pending', carried'⟩

/-! ## What arrives -/

/-- A lost message costs itself and at most the one that is read after it. -/
theorem Carried.read_le (carried : Carried management trace channel read flowing pending) :
    read.length ≤ (delivered trace).length + lost trace := by
  have numbers := carried.numbered.map Prod.snd
  rw [List.zipIdx_map_snd] at numbers
  have missing := Gaps.gaps_le_missing numbers
  have front := Gaps.gaps_le_append 0 read (flowing ++ pending)
  rw [← List.append_assoc] at front
  have taken := Gaps.length_le_heard accepts_direct 0 read
  rw [← carried.delivers] at taken
  have balance := carried.balance
  omega

theorem Carried.waiting_eq (carried : Carried management trace channel read flowing pending) :
    channel.waiting = (flowing ++ pending).length := by
  rw [waiting, carried.fifo, carried.sendQueue, flatMap_messageOf_length, List.length_map, List.length_append,
    Nat.mul_div_cancel _ (by decide : 0 < cBufferSize)]

/-- In every run: what the platform health management is told are checkpoints that were queued, in their order
and each of them once, and so are those still waiting behind them; it misses at most two checkpoints for each
one that a queue, the FIFO or a missing callback loses; and it calls for each the delegate that is configured
on it. -/
theorem checkpoints_delivered (run : Run step (make management) trace channel) :
    ∃ onTheWay : List UInt32, onTheWay.length = channel.waiting ∧
      (delivered trace ++ onTheWay).Sublist (queued trace) ∧
      (reported trace).length ≤ (delivered trace ++ onTheWay).length + 2 * lost trace ∧
      calls trace = (delivered trace).flatMap fun checkpoint =>
        (management.reportDelegates.find? checkpoint).toList := by
  obtain ⟨read, flowing, pending, carried⟩ := carried_of_run run
  refine ⟨(flowing ++ pending).map Prod.fst, ?_, ?_, ?_, carried.dispatches⟩
  · rw [List.length_map, carried.waiting_eq]
  · have order := carried.order
    rw [List.append_assoc, List.map_append] at order
    rw [carried.delivers]
    exact ((Gaps.heard_sublist 0 read).append_right _).trans order
  · have read_le := carried.read_le
    have balance := carried.balance
    rw [List.append_assoc, List.length_append] at balance
    rw [List.length_append, List.length_map]
    omega

/-- The alive supervision is on the checkpoint 1. -/
def aliveOnly : PlatformHealthManagement := ⟨none, none, OrderedMap.empty.insertNew 1 .reportAliveness⟩

def sampleRound (written : Bool) : CheckpointRound := ⟨true, .zero _, written⟩

/-- The second of four checkpoints does not get into the FIFO. -/
theorem checkpoints_delivered_sample : ∃ trace channel, Run step (make aliveOnly) trace channel ∧
    trace.map Taken.output = [.received (some 3) [], .received (some 1) [.reportAliveness], .nothing, .nothing,
      .nothing, .reported true, .reported true, .reported true, .reported true, .nothing] ∧
    ∃ onTheWay : List UInt32, onTheWay.length = channel.waiting ∧
      (delivered trace ++ onTheWay).Sublist (queued trace) ∧
      (reported trace).length ≤ (delivered trace ++ onTheWay).length + 2 * lost trace ∧
      calls trace = (delivered trace).flatMap fun checkpoint =>
        (aliveOnly.reportDelegates.find? checkpoint).toList := by
  obtain ⟨trace, channel, run, outputs⟩ := Run.of_seen step (make aliveOnly) Taken.output
    [.setCallback, .report 1 true, .report 2 true, .report 3 true, .report 4 true, .send (sampleRound true),
      .send (sampleRound false), .send (sampleRound true), .receive (.zero _), .receive (.zero _)]
    [.received (some 3) [], .received (some 1) [.reportAliveness], .nothing, .nothing, .nothing, .reported true,
      .reported true, .reported true, .reported true, .nothing] (by decide +kernel)
  exact ⟨trace, channel, run, outputs, checkpoints_delivered run⟩

/-! ## What is waiting arrives -/

theorem Carried.sends (carried : Carried management trace channel read flowing pending) {round : CheckpointRound}
    (locked : round.locked = true) (written : round.written = true) : ∃ trace' channel',
      Run.play step trace channel (List.replicate pending.length (.send round)) = .ok (trace', channel') ∧
        channel'.monitor = channel.monitor ∧ reported trace' = reported trace ∧ lost trace' = lost trace ∧
        Carried management trace' channel' read (flowing ++ pending) [] := by
  induction pending generalizing trace channel flowing with
  | nil =>
    refine ⟨trace, channel, rfl, rfl, rfl, rfl, ?_⟩
    rwa [List.append_nil]
  | cons numbered rest ih =>
    obtain ⟨next, stepped, monitor, carried'⟩ := carried.write locked written
    obtain ⟨trace', channel', played, monitor', reported', lost', carried''⟩ := ih carried'
    have kept : Loses ⟨channel, .send round, .nothing⟩ = false := by simp [Loses, written]
    refine ⟨trace', channel', ?_, monitor'.trans monitor, ?_, ?_, ?_⟩
    · rw [List.length_cons, List.replicate_succ, Run.play_cons stepped]
      exact played
    · rw [reported', reported_cons]
      exact List.append_nil _
    · rw [lost', lost_cons, kept]
      rfl
    · rwa [List.append_assoc] at carried''

theorem Carried.receives (carried : Carried management trace channel read flowing [])
    (listening : channel.monitor.callback = true) (buffer : Buffer cBufferSize) : ∃ trace' channel' read',
      Run.play step trace channel (List.replicate flowing.length (.receive buffer)) = .ok (trace', channel') ∧
        reported trace' = reported trace ∧ lost trace' = lost trace ∧
        Carried management trace' channel' read' [] [] := by
  induction flowing generalizing trace channel read with
  | nil => exact ⟨trace, channel, read, rfl, rfl, rfl, carried⟩
  | cons numbered rest ih =>
    obtain ⟨event, next, read', flowing', stepped, same, moves, carried'⟩ := carried.receive buffer
    cases moves listening
    obtain ⟨trace', channel', read'', played, reported', lost', carried''⟩ := ih carried' (same.trans listening)
    have kept : Loses ⟨channel, .receive buffer, event⟩ = false := by simp [Loses, listening]
    refine ⟨trace', channel', read'', ?_, ?_, ?_, carried''⟩
    · rw [List.length_cons, List.replicate_succ, Run.play_cons stepped]
      exact played
    · rw [reported', reported_cons]
      exact List.append_nil _
    · rw [lost', lost_cons, kept]
      rfl

/-- From every state reached, once the callback is set: as many rounds as there are messages in the queue and as
many receptions as there are messages bring everything that waits to the platform health management. What it then
has been told is all that was reported when nothing was lost, and misses at most two checkpoints for each one
that was. -/
theorem checkpoints_arrive (run : Run step (make management) trace channel)
    (listening : channel.monitor.callback = true) {round : CheckpointRound} (locked : round.locked = true)
    (written : round.written = true) (buffer : Buffer cBufferSize) : ∃ trace' channel',
      Run.play step trace channel (List.replicate channel.entity.sendQueue.length (.send round) ++
        List.replicate channel.waiting (.receive buffer)) = .ok (trace', channel') ∧
      channel'.waiting = 0 ∧ reported trace' = reported trace ∧ lost trace' = lost trace ∧
      (lost trace = 0 → delivered trace' = reported trace) ∧
      (reported trace).length ≤ (delivered trace').length + 2 * lost trace := by
  obtain ⟨read, flowing, pending, carried⟩ := carried_of_run run
  have waiting_eq := carried.waiting_eq
  have pending_eq : channel.entity.sendQueue.length = pending.length := by
    rw [carried.sendQueue, List.length_map]
  obtain ⟨middle, half, sent, monitor, reported₁, lost₁, carried₁⟩ := carried.sends locked written
  rw [← monitor] at listening
  obtain ⟨trace', channel', read', received, reported₂, lost₂, carried₂⟩ := carried₁.receives listening buffer
  have all_reported := reported₂.trans reported₁
  have all_lost := lost₂.trans lost₁
  have balance := carried₂.balance
  have read_le := carried₂.read_le
  rw [List.append_nil, List.append_nil, all_reported, all_lost] at balance
  rw [all_lost] at read_le
  refine ⟨trace', channel', ?_, carried₂.waiting_eq, all_reported, all_lost, ?_, ?_⟩
  · rw [pending_eq, waiting_eq, Run.play_append sent]
    exact received
  · intro lossless
    -- as many as were reported, and in their order
    have numbered := carried₂.numbered.map Prod.fst
    rw [List.zipIdx_map_fst, List.append_nil, List.append_nil, all_reported] at numbered
    have order : (Gaps.heard Accepts 0 read').Sublist (reported trace) :=
      (Gaps.heard_sublist 0 read').trans numbered
    rw [← carried₂.delivers] at order
    exact order.eq_of_length_le (by omega)
  · omega

theorem checkpoints_arrive_sample : ∃ trace channel, Run step (make aliveOnly) trace channel ∧
    ∃ trace' channel', Run.play step trace channel (List.replicate channel.entity.sendQueue.length
        (.send (sampleRound true)) ++ List.replicate channel.waiting (.receive (.zero _))) = .ok (trace', channel') ∧
      channel'.waiting = 0 ∧ reported trace' = reported trace ∧ lost trace' = lost trace ∧
      (lost trace = 0 → delivered trace' = reported trace) ∧
      (reported trace).length ≤ (delivered trace').length + 2 * lost trace := by
  have played : Run.play step [] (make aliveOnly) [.setCallback, .report 1 true, .report 2 true] = .ok (_, _) := rfl
  exact ⟨_, _, Run.of_play .start played,
    checkpoints_arrive (Run.of_play .start played) rfl
      (rfl : (sampleRound true).locked = true) rfl (.zero _)⟩

end CheckpointChannel
end AdaptiveAutosar.Application
