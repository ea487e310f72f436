import AdaptiveAutosar.Foundations.DecimalText

/-! # UDS services

`ara::diag::routing::RoutableUdsService` and the `ara::diag::MetaInfo` of a request. The meta-info keeps
numbers as texts.
-/

namespace AdaptiveAutosar.Diag
open Foundations
set_option autoImplicit false

/-! ## The meta-info of a request -/

structure MetaInfo where
  values : List (String × String)
  deriving DecidableEq, Repr

namespace MetaInfo

def getValue (metaInfo : MetaInfo) (key : String) : Option String := metaInfo.values.lookup key

/-- `std::map::insert`: a key keeps the value it has. -/
def setValue (metaInfo : MetaInfo) (key value : String) : MetaInfo :=
  match metaInfo.getValue key with
  | some _ => metaInfo
  | none => ⟨metaInfo.values ++ [(key, value)]⟩

/-- `TryExtractValue` up to the cast of the number to the type asked for. -/
def tryExtractValue (metaInfo : MetaInfo) (key : String) : Outcome (Option ℤ) :=
  match metaInfo.getValue key with
  | none => .ok none
  | some valueStr => (DecimalText.stoi valueStr).map some

theorem tryExtractValue_none {metaInfo : MetaInfo} {key : String}
    (absent : metaInfo.getValue key = none) : metaInfo.tryExtractValue key = .ok none := by
  rw [tryExtractValue, absent]

theorem tryExtractValue_some {metaInfo : MetaInfo} {key valueStr : String}
    (present : metaInfo.getValue key = some valueStr) :
    metaInfo.tryExtractValue key = (DecimalText.stoi valueStr).map some := by
  rw [tryExtractValue, present]

/-- Without an exception no value is extracted exactly when there is none. -/
theorem tryExtractValue_eq_none (metaInfo : MetaInfo) (key : String) :
    metaInfo.tryExtractValue key = .ok none ↔ metaInfo.getValue key = none := by
  cases present : metaInfo.getValue key with
  | none => exact iff_of_true (tryExtractValue_none present) rfl
  | some valueStr =>
    rw [tryExtractValue_some present]
    refine iff_of_false ?_ (fun absent => by cases absent)
    cases DecimalText.stoi valueStr with
    | error e => exact fun same => by cases same
    | ok number => exact fun same => by cases same

theorem tryExtractValue_thrown {metaInfo : MetaInfo} {key : String} {e : Fault}
    (failed : metaInfo.tryExtractValue key = .error e) : ∃ exn, e = .thrown exn := by
  cases present : metaInfo.getValue key with
  | none =>
    rw [tryExtractValue_none present] at failed
    cases failed
  | some valueStr =>
    rw [tryExtractValue_some present] at failed
    cases read : DecimalText.stoi valueStr with
    | error e' =>
      rw [read] at failed
      cases failed
      exact DecimalText.stoi_thrown read
    | ok number =>
      rw [read] at failed
      cases failed

end MetaInfo

/-! ## Requests and responses -/

/-- `CancellationHandler`, whose notifier no service sets. -/
structure CancellationHandler where
  isCanceled : Bool
  deriving DecidableEq, Repr

/-- A request as `HandleMessage` is given it. -/
structure UdsRequest where
  requestData : Bytes
  metaInfo : MetaInfo
  cancellationHandler : CancellationHandler
  deriving DecidableEq, Repr

/-- How the handling of a request ends: with a response, with a fault, or with `std::terminate`. -/
inductive Answer where
  | response (responseData : Bytes)
  | faulted (fault : Fault)
  | terminated
  deriving DecidableEq, Repr

def cPositiveResponseSidIncrement : UInt8 := 0x40
def cNegativeResponseCodeSid : UInt8 := 0x7f
def cSubFunctionNotSupported : UInt8 := 0x12
def cIncorrectMessageLength : UInt8 := 0x13
def cRequestSequenceError : UInt8 := 0x24

def generateNegativeResponse (sid nrc : UInt8) : Bytes := [cNegativeResponseCodeSid, sid, nrc]

def Answer.refused (sid nrc : UInt8) : Answer := .response (generateNegativeResponse sid nrc)

def Answer.IsNegative : Answer → Prop
  | .response (first :: _) => first = cNegativeResponseCodeSid
  | _ => False

/-- A response that is neither negative nor suppressed. -/
def Answer.IsPositive : Answer → Prop
  | .response (first :: _) => first ≠ cNegativeResponseCodeSid
  | _ => False

instance (answer : Answer) : Decidable answer.IsNegative := by
  unfold Answer.IsNegative
  split <;> infer_instance

instance (answer : Answer) : Decidable answer.IsPositive := by
  unfold Answer.IsPositive
  split <;> infer_instance

@[simp] theorem Answer.refused_isNegative (sid nrc : UInt8) : (Answer.refused sid nrc).IsNegative := rfl

end AdaptiveAutosar.Diag
