import AdaptiveAutosar.Application.ReadDataByIdentifier

/-! # Diagnostic messages over DoIP

`application::doip::DiagMessageHandler`, whose router knows the one service. It catches `std::invalid_argument` only.
-/

namespace AdaptiveAutosar.Application
open Foundations Foundations.BigEndian Per Diag
set_option autoImplicit false

structure DiagMessage where
  sourceAddress : UInt16
  targetAddress : UInt16
  userData : Bytes
  deriving DecidableEq, Repr

structure DiagMessageAck where
  protocolVersion : UInt8
  sourceAddress : UInt16
  targetAddress : UInt16
  previousMessage : Bytes
  deriving DecidableEq, Repr

namespace DiagMessageHandler
open ReadDataByIdentifier

def router : UdsServiceRouter Unit := UdsServiceRouter.make.addService ReadDataByIdentifier.cSid ()

def route (environment : Environment) (cache : ResponseCache) (userData : Bytes) : Answer × ResponseCache :=
  router.route (fun _ => true) (fun cache _ request => handleMessage environment cache request.requestData) cache
    ⟨userData, ⟨[]⟩, ⟨false⟩⟩

/-- The response, if the result is `true`. The request is `none` when it is no `DiagMessage`, and `serialize` is that of
the acknowledgement. -/
def tryHandle (serialize : DiagMessageAck → Bytes) (cProtocolVersion : UInt8) (environment : Environment)
    (cache : ResponseCache) (request : Option DiagMessage) : Outcome (Option Bytes) × ResponseCache :=
  match request with
  | none => (.ok none, cache)
  | some diagMessage =>
    let (answer, cache) := route environment cache diagMessage.userData
    match answer with
    | .response responseData =>
      (.ok (some (serialize
        ⟨cProtocolVersion, diagMessage.sourceAddress, diagMessage.targetAddress, responseData⟩)), cache)
    | .faulted (.thrown (.invalidArgument _)) => (.ok none, cache)
    | .faulted e => (.error e, cache)
    -- no service of the router ends so
    | .terminated => (.error .undefined, cache)

/-! ## What escapes -/

variable {lenient : Prop} {environment : Environment} {cache : ResponseCache} {userData : Bytes}

/-- User data for the service has an identifier, and where the server is asked for it, an answer that the service can
use. -/
def Answerable (lenient : Prop) (environment : Environment) (cache : ResponseCache) (userData : Bytes) : Prop :=
  userData.head? = some ReadDataByIdentifier.cSid →
    3 ≤ userData.length ∧ ∀ did key, getDid userData = .ok did →
      (cache.tryGet did environment.lookupTime).1 = none → resourceKey did = some key →
        Answers lenient environment did key

theorem find_router (sid : UInt8) :
    router.find (fun _ => true) sid = if sid = ReadDataByIdentifier.cSid then some () else none := by
  unfold UdsServiceRouter.find router UdsServiceRouter.addService
  rw [OrderedMap.find?_insert]
  split_ifs <;> rfl

/-- The router throws for empty user data, and what the service throws. -/
theorem route_contained_iff (environment : Environment) (cache : ResponseCache) (userData : Bytes) :
    AnswerContained lenient (route environment cache userData).1 ↔
      (lenient ∨ userData ≠ []) ∧ Answerable lenient environment cache userData := by
  unfold route UdsServiceRouter.route Answerable
  cases userData with
  | nil =>
    refine (answerContained_faulted _).trans ?_
    constructor
    · exact fun caught => ⟨.inl caught.1, fun impossible => by cases impossible⟩
    · rintro ⟨isLenient | impossible, -⟩
      · exact ⟨isLenient, _, rfl⟩
      · exact absurd rfl impossible
  | cons sid rest =>
    rw [and_iff_right (.inr (List.cons_ne_nil _ _)), List.head?_cons, Option.some.injEq]
    dsimp only
    rw [find_router]
    by_cases own : sid = ReadDataByIdentifier.cSid
    · rw [if_pos own, forall_prop_of_true own]
      exact handleMessage_contained_iff environment cache (sid :: rest)
    · rw [if_neg own]
      exact iff_of_true (answerContained_response _) (fun same => absurd same own)

theorem route_ne_terminated (environment : Environment) (cache : ResponseCache) (userData : Bytes) :
    (route environment cache userData).1 ≠ .terminated := by
  have resource (cache : ResponseCache) (did : UInt16) (key : Bytes) (convert : Bytes → Outcome Bytes) :
      (getResource environment cache did key convert).1 ≠ .terminated := by
    unfold getResource
    split
    · exact Answer.noConfusion
    · exact Answer.noConfusion
    · split <;> exact Answer.noConfusion
  unfold route UdsServiceRouter.route
  split
  · exact Answer.noConfusion
  · split
    · dsimp only
      unfold handleMessage
      split
      · exact Answer.noConfusion
      · split
        · exact Answer.noConfusion
        · rw [getValue_eq]
          split
          · exact resource _ _ _ _
          · exact Answer.noConfusion
    · exact Answer.noConfusion

theorem tryHandle_ok_iff (serialize : DiagMessageAck → Bytes) (cProtocolVersion : UInt8) (environment : Environment)
    (cache : ResponseCache) (diagMessage : DiagMessage) :
    (∃ result, (tryHandle serialize cProtocolVersion environment cache (some diagMessage)).1 = .ok result) ↔
      AnswerContained True (route environment cache diagMessage.userData).1 := by
  have alive := route_ne_terminated environment cache diagMessage.userData
  unfold tryHandle
  dsimp only
  generalize route environment cache diagMessage.userData = outcome at alive ⊢
  obtain ⟨answer, after⟩ := outcome
  dsimp only at alive ⊢
  cases answer with
  | response responseData => exact iff_of_true ⟨_, rfl⟩ (answerContained_response _)
  | terminated => exact absurd rfl alive
  | faulted e =>
    rw [answerContained_faulted]
    split
    · next impossible => cases impossible
    · next what same =>
      cases same
      exact iff_of_true ⟨_, rfl⟩ ⟨trivial, what, rfl⟩
    · next other same =>
      cases same
      refine iff_of_false (fun ⟨_, impossible⟩ => by cases impossible) ?_
      rintro ⟨-, what, rfl⟩
      exact other what rfl
    · next impossible => cases impossible

/-- For every message, every content of the cache and every answer of the resource server: the handler answers the
message with a response or with `false` exactly when its user data, if they are for the service, can be answered but
for a text without a number. The router throws nothing exactly when there are user data, and a number too. -/
theorem tryHandle_returns_iff_answerable (serialize : DiagMessageAck → Bytes) (cProtocolVersion : UInt8)
    (environment : Environment) (cache : ResponseCache) (request : Option DiagMessage) :
    ((∃ result, (tryHandle serialize cProtocolVersion environment cache request).1 = .ok result) ↔
        ∀ diagMessage ∈ request, Answerable True environment cache diagMessage.userData) ∧
      ∀ userData, (∀ e, (route environment cache userData).1 ≠ .faulted e) ↔
        userData ≠ [] ∧ Answerable False environment cache userData := by
  constructor
  · cases request with
    | none => exact iff_of_true ⟨_, rfl⟩ (fun _ impossible => by cases impossible)
    | some diagMessage =>
      rw [tryHandle_ok_iff, route_contained_iff, and_iff_right (.inl trivial)]
      exact ⟨fun answerable _ same => Option.some.inj same ▸ answerable, fun all => all diagMessage rfl⟩
  · intro userData
    have strict : AnswerContained False (route environment cache userData).1 ↔
        (False ∨ userData ≠ []) ∧ Answerable False environment cache userData :=
      route_contained_iff environment cache userData
    rw [false_or] at strict
    rw [← strict]
    exact ⟨fun none e failed => absurd failed (none e), fun contained e failed => (contained e failed).1⟩

/-- Exact numbers for the doubles. -/
def exactNumbers : Doubles where
  Double := ℚ
  stod str :=
    match DecimalText.value (chars str) with
    | none => .error (.thrown (.invalidArgument "stod"))
    | some number => .ok number
  stod_throws := by
    intro str e failed
    split at failed
    · exact .inl (Except.error.inj failed).symm
    · cases failed
  literal := id
  ofUnsignedLong number := number.toNat
  mul := (· * ·)
  cast bits number := if 0 ≤ number.floor ∧ number.floor < 2 ^ bits then some number.floor.toNat else none

/-- A server with one document, and a parser that knows it. -/
def serving (document : Bytes) (value : Json) : Environment where
  reader :=
    { parse := fun given =>
        .ok (if given = document then some (.object [(text "averageSpeed", .object [(text "value", value)])]) else none)
      parse_throws := fun _ _ failed => by cases failed }
  values := .plain
  doubles := exactNumbers
  resourcesUrl := text "https://resources"
  tryExecute := fun _ => some document
  lookupTime := 0
  additionTime := 1

def fastServer : Environment :=
  serving (text "\x7b\"averageSpeed\":\x7b\"value\":\"99999999999999999999\"\x7d\x7d")
    (.string (text "99999999999999999999"))

def emptyCache : ResponseCache := ⟨cCacheLifetime, OrderedMap.empty⟩

/-- A request of one byte, and an average speed that is no `unsigned long`. -/
theorem not_always_answered :
    (tryHandle DiagMessageAck.previousMessage 2 fastServer emptyCache (some ⟨0x0e80, 0x1000, [0x22]⟩)).1 =
        .error (.thrown (.outOfRange "vector::_M_range_check")) ∧
      (tryHandle DiagMessageAck.previousMessage 2 fastServer emptyCache
          (some ⟨0x0e80, 0x1000, [0x22, 0xf5, 0x0d]⟩)).1 =
        .error (.thrown (.outOfRange "stoul")) := by
  constructor
  · rfl
  · rfl

end DiagMessageHandler
end AdaptiveAutosar.Application
