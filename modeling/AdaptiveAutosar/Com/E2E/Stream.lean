import AdaptiveAutosar.Com.E2E.Profile11
import AdaptiveAutosar.Foundations.Transition

/-! # A stream of protected messages

One profile protects messages and another one checks them behind a channel that loses, repeats or delays
them, but leaves them as they are. The messages are numbered from one on, and message `number` carries
the counter `number % 15`.
-/

namespace AdaptiveAutosar.Com.E2E
open Foundations
set_option autoImplicit false

/-- The messages `sent`, the oldest first, and the numbers of the last one that arrived, of the furthest
one of them and of the last one that was checked as `kOk`: zero before there is any. -/
structure Stream where
  sender : Profile11
  receiver : Profile11
  sent : List Bytes
  arrived : ℕ
  furthest : ℕ
  accepted : ℕ
  deriving DecidableEq, Repr

inductive StreamStep where
  | send (unprotectedData : Bytes)
  | arrive (number : ℕ)
  deriving DecidableEq, Repr

namespace Stream

def make : Stream := ⟨.make, .make, [], 0, 0, 0⟩

/-- A channel that keeps the order and loses fewer than 14 messages in a row. -/
def InOrder (stream : Stream) (number : ℕ) : Prop :=
  stream.arrived < number ∧ number - stream.arrived - 1 < 14

/-- A channel that brings a message fewer than 7 positions behind the furthest one. -/
def Delayed (stream : Stream) (number : ℕ) : Prop := stream.furthest < number + 7

instance : DecidableRel InOrder := fun _ _ => inferInstanceAs (Decidable (_ ∧ _))

instance : DecidableRel Delayed := fun _ _ => inferInstanceAs (Decidable (_ < _))

def message? (stream : Stream) : ℕ → Option Bytes
  | 0 => none
  | index + 1 => stream.sent[index]?

/-- What the channel does not bring is no step. -/
def step (brings : Stream → ℕ → Prop) [DecidableRel brings] (stream : Stream) :
    StreamStep → Outcome (Option CheckStatusType × Stream)
  | .send unprotectedData =>
    match stream.sender.tryProtect unprotectedData with
    | (some message, sender) => .ok (none, { stream with sender, sent := stream.sent ++ [message] })
    | (none, sender) => .ok (none, { stream with sender })
  | .arrive number =>
    match stream.message? number with
    | none => .error .undefined
    | some message =>
      if brings stream number then
        let (status, receiver) := stream.receiver.check message
        .ok (some status,
          { stream with
            receiver
            arrived := number
            furthest := max stream.furthest number
            accepted := if status = .kOk then number else stream.accepted })
      else .error .undefined

/-! ## The counter of a message -/

def counterOf (number : ℕ) : UInt8 := UInt8.ofNat (number % 15)

theorem nextCounter_counterOf (number : ℕ) :
    Profile11.nextCounter (counterOf number) = counterOf (number + 1) := by
  have each : ∀ r < 15, Profile11.nextCounter (UInt8.ofNat r) = UInt8.ofNat ((r + 1) % 15) := by decide
  rw [counterOf, each _ (Nat.mod_lt _ (by decide)), counterOf, Nat.mod_add_mod]

theorem masked_counterOf (number : ℕ) : (counterOf number ||| 0xf0) &&& 0x0f = counterOf number := by
  have each : ∀ r < 15, (UInt8.ofNat r ||| 0xf0) &&& 0x0f = UInt8.ofNat r := by decide
  exact each _ (Nat.mod_lt _ (by decide))

/-- The counters alone decide whether a message is taken for a new one. -/
theorem sequenceStatus_eq_kOk (arrived number : ℕ) :
    Profile11.sequenceStatus (counterOf arrived) (counterOf number) = .kOk ↔
      number % 15 ≠ arrived % 15 ∧ (arrived % 15 = 14 ∨ arrived % 15 < number % 15) := by
  have each : ∀ a < 15, ∀ n < 15, Profile11.sequenceStatus (UInt8.ofNat a) (UInt8.ofNat n) = .kOk ↔
      n ≠ a ∧ (a = 14 ∨ a < n) := by decide
  exact each _ (Nat.mod_lt _ (by decide)) _ (Nat.mod_lt _ (by decide))

/-! ## What the profiles know -/

/-- The message `number` for some data. -/
def IsMessage (number : ℕ) (message : Bytes) : Prop :=
  ∃ element rest, message = Profile11.sealed ((counterOf number ||| 0xf0) :: element :: rest)

structure Counted (stream : Stream) : Prop where
  sender : stream.sender.mProtectingCounter = counterOf stream.sent.length
  receiver : stream.receiver.mCheckingCounter = counterOf stream.arrived
  messages : ∀ number message, stream.message? number = some message → IsMessage number message
  arrived_le : stream.arrived ≤ stream.furthest
  accepted_le : stream.accepted ≤ stream.furthest

theorem counted_make : Counted make where
  sender := rfl
  receiver := rfl
  messages := by
    intro number message found
    cases number <;> cases found
  arrived_le := Nat.le_refl 0
  accepted_le := Nat.le_refl 0

theorem message?_append {stream stream' : Stream} {last message : Bytes} {number : ℕ}
    (sent : stream'.sent = stream.sent ++ [last]) (found : stream'.message? number = some message) :
    stream.message? number = some message ∨ number = stream.sent.length + 1 ∧ message = last := by
  cases number with
  | zero => cases found
  | succ index =>
    rw [message?, sent] at found
    rcases Nat.lt_or_ge index stream.sent.length with inside | beyond
    · rw [List.getElem?_append_left inside] at found
      exact .inl found
    · rw [List.getElem?_append_right beyond] at found
      obtain ⟨here, rfl⟩ := List.getElem?_eq_some_iff.mp found
      have last_index : index = stream.sent.length := by
        simp only [List.length_singleton] at here
        omega
      subst last_index
      exact .inr ⟨rfl, by simp⟩

variable {stream : Stream}

theorem Counted.check (counted : stream.Counted) {number : ℕ} {message : Bytes}
    (found : stream.message? number = some message) :
    stream.receiver.check message =
      (Profile11.sequenceStatus (counterOf stream.arrived) (counterOf number),
        { stream.receiver with mCheckingCounter := counterOf number }) := by
  obtain ⟨element, rest, rfl⟩ := counted.messages number message found
  rw [Profile11.check_rightCrc, counted.receiver, masked_counterOf]

theorem Counted.send (counted : stream.Counted) {brings : Stream → ℕ → Prop} [DecidableRel brings]
    {unprotectedData : Bytes} {output : Option CheckStatusType} {stream' : Stream}
    (taken : step brings stream (.send unprotectedData) = .ok (output, stream')) :
    output = none ∧ stream'.Counted ∧ stream'.arrived = stream.arrived ∧
      stream'.furthest = stream.furthest := by
  cases unprotectedData with
  | nil =>
    cases taken
    exact ⟨rfl, counted, rfl, rfl⟩
  | cons element rest =>
    have made := Profile11.tryProtect_of_ne_nil stream.sender (List.cons_ne_nil element rest)
    rw [counted.sender, nextCounter_counterOf] at made
    generalize isMessage : Profile11.sealed _ = message at made
    rw [step, made] at taken
    cases taken
    refine ⟨rfl, ⟨?_, counted.receiver, ?_, counted.arrived_le, counted.accepted_le⟩, rfl, rfl⟩
    · show counterOf (stream.sent.length + 1) = counterOf (stream.sent ++ [message]).length
      rw [List.length_append, List.length_singleton]
    · intro number message found
      rcases message?_append rfl found with earlier | ⟨rfl, rfl⟩
      · exact counted.messages number message earlier
      · exact ⟨element, rest, isMessage.symm⟩

theorem Counted.arrive (counted : stream.Counted) {brings : Stream → ℕ → Prop} [DecidableRel brings]
    {number : ℕ} {output : Option CheckStatusType} {stream' : Stream}
    (taken : step brings stream (.arrive number) = .ok (output, stream')) :
    0 < number ∧ brings stream number ∧
      output = some (Profile11.sequenceStatus (counterOf stream.arrived) (counterOf number)) ∧
      stream'.Counted ∧ stream'.arrived = number ∧ stream'.furthest = max stream.furthest number := by
  cases found : stream.message? number with
  | none =>
    rw [step, found] at taken
    cases taken
  | some message =>
    rw [step, found] at taken
    replace taken : (if brings stream number then _ else _) = _ := taken
    by_cases brought : brings stream number
    · rw [if_pos brought, counted.check found] at taken
      cases taken
      refine ⟨?_, brought, rfl, ⟨counted.sender, rfl, counted.messages, Nat.le_max_right _ _, ?_⟩, rfl, rfl⟩
      · cases number with
        | zero => cases found
        | succ index => exact Nat.succ_pos index
      · show (if _ then number else stream.accepted) ≤ max stream.furthest number
        split
        · exact Nat.le_max_right _ _
        · exact counted.accepted_le.trans (Nat.le_max_left _ _)
    · rw [if_neg brought] at taken
      cases taken

/-! ## Messages that are lost -/

def AnsweredOk (taken : Taken Stream StreamStep (Option CheckStatusType)) : Prop :=
  ∀ status, taken.output = some status → status = .kOk

/-- None of the messages lost before this one carries the last counter before the wrap. -/
def KeepsLast (stream : Stream) (input : StreamStep) : Prop :=
  ∀ number, input = .arrive number → ∀ lost, stream.arrived < lost → lost < number → lost % 15 ≠ 14

theorem InOrder.kOk_iff {number : ℕ} (inOrder : stream.InOrder number) :
    Profile11.sequenceStatus (counterOf stream.arrived) (counterOf number) = .kOk ↔
      ∀ lost, stream.arrived < lost → lost < number → lost % 15 ≠ 14 := by
  obtain ⟨later, few⟩ := inOrder
  rw [sequenceStatus_eq_kOk]
  constructor
  · rintro ⟨-, inLap⟩ lost after before
    omega
  · intro kept
    have last := kept (stream.arrived / 15 * 15 + 14)
    omega

/-- Every message that arrives in order is checked as `kOk` exactly when no message with the counter 14
is lost before one that arrives. -/
theorem answersOk_iff {trace : List (Taken Stream StreamStep (Option CheckStatusType))}
    (run : Run (step InOrder) make trace stream) :
    (∀ taken ∈ trace, AnsweredOk taken) ↔ Run.Every KeepsLast trace := by
  refine Run.all_iff_every counted_make ?_ ?_ run
  · intro stream input output stream' counted taken
    cases input with
    | send unprotectedData =>
      obtain ⟨-, counted', -⟩ := counted.send taken
      exact counted'
    | arrive number =>
      obtain ⟨-, -, -, counted', -⟩ := counted.arrive taken
      exact counted'
  · intro stream input output stream' counted taken
    cases input with
    | send unprotectedData =>
      obtain ⟨rfl, -⟩ := counted.send taken
      exact iff_of_true (fun _ h => by cases h) (fun _ h => by cases h)
    | arrive number =>
      obtain ⟨-, inOrder, rfl, -⟩ := counted.arrive taken
      have kOk_iff := inOrder.kOk_iff
      constructor
      · rintro ok _ ⟨rfl⟩
        exact kOk_iff.mp (ok _ rfl)
      · rintro kept _ ⟨rfl⟩
        exact kOk_iff.mpr (kept number rfl)

theorem answersOk_iff_sample : ∃ trace stream,
    Run (step InOrder) make trace stream ∧ trace.map Taken.output = [some .kOk, none, none] ∧
      Run.Every KeepsLast trace := by
  obtain ⟨trace, stream, run, outputs⟩ := Run.of_seen (step InOrder) make Taken.output
    [.send [0x12], .send [0x34], .arrive 2] [some .kOk, none, none] (by decide +kernel)
  refine ⟨trace, stream, run, outputs, (answersOk_iff run).mp ?_⟩
  intro taken there status answered
  have member : some status ∈ [some CheckStatusType.kOk, none, none] := by
    rw [← outputs, ← answered]
    exact List.mem_map_of_mem there
  simpa using member

/-- Of fifteen messages the one with the counter 14 is lost, and the next one is refused. -/
theorem not_always_answersOk : ∃ trace stream,
    Run (step InOrder) make trace stream ∧ ¬ ∀ taken ∈ trace, AnsweredOk taken := by
  obtain ⟨trace, stream, run, outputs⟩ := Run.of_seen (step InOrder) make Taken.output
    (List.replicate 15 (.send [0x12]) ++ (List.range 13).map (fun index => .arrive (index + 1)) ++ [.arrive 15])
    (some .kWrongSequence :: List.replicate 13 (some .kOk) ++ List.replicate 15 none) (by decide +kernel)
  refine ⟨trace, stream, run, fun all => ?_⟩
  have refused : some CheckStatusType.kWrongSequence ∈ trace.map Taken.output := by
    rw [outputs]
    exact List.mem_cons_self
  obtain ⟨taken, there, answered⟩ := List.mem_map.mp refused
  exact absurd (all taken there _ answered) nofun

/-! ## Messages that are late -/

/-- A message that was sent no later than the last one checked as `kOk` is not checked so itself. -/
def Fresh (taken : Taken Stream StreamStep (Option CheckStatusType)) : Prop :=
  ∀ number, taken.input = .arrive number → taken.output = some .kOk → taken.before.accepted < number

/-- The counters tell that a late message is no new one: it arrived last, or what arrived last does not
carry the counter 14 and is a later message of the same lap or one of an earlier lap. -/
def Recognised (arrived number : ℕ) : Prop :=
  number = arrived ∨
    arrived % 15 ≠ 14 ∧ (number < arrived ∧ number / 15 = arrived / 15 ∨ arrived / 15 < number / 15)

def RecognisesLate (stream : Stream) (input : StreamStep) : Prop :=
  ∀ number, input = .arrive number → number ≤ stream.accepted → Recognised stream.arrived number

theorem recognised_iff {arrived number : ℕ} (near : number < arrived + 7) (near' : arrived < number + 7) :
    Profile11.sequenceStatus (counterOf arrived) (counterOf number) ≠ .kOk ↔ Recognised arrived number := by
  rw [ne_eq, sequenceStatus_eq_kOk, Recognised]
  omega

/-- The last message that arrived is itself fewer than 7 positions late. -/
structure Near (stream : Stream) : Prop where
  counted : stream.Counted
  near : stream.furthest < stream.arrived + 7

theorem Near.fresh_iff (near : stream.Near) {number : ℕ} (delayed : stream.Delayed number) :
    (Profile11.sequenceStatus (counterOf stream.arrived) (counterOf number) = .kOk →
        stream.accepted < number) ↔
      (number ≤ stream.accepted → Recognised stream.arrived number) := by
  have late (stale : number ≤ stream.accepted) :
      Profile11.sequenceStatus (counterOf stream.arrived) (counterOf number) ≠ .kOk ↔
        Recognised stream.arrived number := by
    have reached := near.counted.accepted_le
    have behind := near.counted.arrived_le
    have last := near.near
    have this := delayed
    rw [Delayed] at this
    exact recognised_iff (by omega) (by omega)
  constructor
  · intro fresh stale
    exact (late stale).mp fun ok => absurd (fresh ok) (Nat.not_lt.mpr stale)
  · intro recognised ok
    by_contra stale
    exact (late (Nat.not_lt.mp stale)).mpr (recognised (Nat.not_lt.mp stale)) ok

/-- No message is taken for a new one too late exactly when every late one is recognised by what arrived
last. -/
theorem staysFresh_iff {trace : List (Taken Stream StreamStep (Option CheckStatusType))}
    (run : Run (step Delayed) make trace stream) :
    (∀ taken ∈ trace, Fresh taken) ↔ Run.Every RecognisesLate trace := by
  have start : Near make := ⟨counted_make, by decide⟩
  refine Run.all_iff_every start ?_ ?_ run
  · intro stream input output stream' near taken
    cases input with
    | send unprotectedData =>
      obtain ⟨-, counted, arrived, furthest⟩ := near.counted.send taken
      exact ⟨counted, by rw [arrived, furthest]; exact near.near⟩
    | arrive number =>
      obtain ⟨-, delayed, -, counted, arrived, furthest⟩ := near.counted.arrive taken
      have this := delayed
      rw [Delayed] at this
      exact ⟨counted, by rw [arrived, furthest]; omega⟩
  · intro stream input output stream' near taken
    cases input with
    | send unprotectedData =>
      obtain ⟨rfl, -⟩ := near.counted.send taken
      exact iff_of_true (fun _ _ h => by cases h) (fun _ h => by cases h)
    | arrive number =>
      obtain ⟨-, delayed, rfl, -⟩ := near.counted.arrive taken
      have fresh_iff := near.fresh_iff delayed
      constructor
      · rintro fresh _ ⟨rfl⟩
        exact fresh_iff.mp fun ok => fresh number rfl (congrArg some ok)
      · rintro recognised _ ⟨rfl⟩ ok
        exact fresh_iff.mpr (recognised number rfl) (Option.some.inj ok)

theorem staysFresh_iff_sample : ∃ trace stream,
    Run (step Delayed) make trace stream ∧
      trace.map Taken.output = [some .kWrongSequence, some .kOk, some .kOk, none, none] ∧
      ((∀ taken ∈ trace, Fresh taken) ↔ Run.Every RecognisesLate trace) := by
  obtain ⟨trace, stream, run, outputs⟩ := Run.of_seen (step Delayed) make Taken.output
    [.send [0x12], .send [0x34], .arrive 1, .arrive 2, .arrive 1]
    [some .kWrongSequence, some .kOk, some .kOk, none, none] (by decide +kernel)
  exact ⟨trace, stream, run, outputs, staysFresh_iff run⟩

/-- Behind a repeated first message, which is refused, the second one is taken for a new one again. -/
theorem not_always_staysFresh : ∃ trace stream,
    Run (step Delayed) make trace stream ∧ ¬ ∀ taken ∈ trace, Fresh taken := by
  let see (taken : Taken Stream StreamStep (Option CheckStatusType)) :=
    (taken.input, taken.output, taken.before.accepted)
  obtain ⟨trace, stream, run, seen⟩ := Run.of_seen (step Delayed) make see
    (List.replicate 3 (.send [0x12]) ++ [.arrive 1, .arrive 2, .arrive 3, .arrive 1, .arrive 2])
    ([(.arrive 2, some .kOk, 3), (.arrive 1, some .kWrongSequence, 3), (.arrive 3, some .kOk, 2),
      (.arrive 2, some .kOk, 1), (.arrive 1, some .kOk, 0)] ++
      List.replicate 3 (.send [0x12], none, 0)) (by decide +kernel)
  refine ⟨trace, stream, run, fun all => ?_⟩
  have stale : (StreamStep.arrive 2, some CheckStatusType.kOk, 3) ∈ trace.map see := by
    rw [seen]
    exact List.mem_cons_self
  obtain ⟨taken, there, isStale⟩ := List.mem_map.mp stale
  obtain ⟨arrives, isOk⟩ := Prod.mk.inj isStale
  obtain ⟨isOk, accepted⟩ := Prod.mk.inj isOk
  have fresh := all taken there 2 arrives isOk
  rw [accepted] at fresh
  exact absurd fresh (by decide)

end Stream
end AdaptiveAutosar.Com.E2E
