import AdaptiveAutosar.Application.DiagMessageHandler
import AdaptiveAutosar.Foundations.Cursor

/-! # What the diagnostic service reads

A parameter is answered with what the resource server holds for it, or with what it held when the cache was
filled, which is not longer ago than the cache keeps an item.
-/

namespace AdaptiveAutosar.Application
open Foundations Foundations.BigEndian Per Diag
set_option autoImplicit false

namespace MemoryCache
variable {K T : Type} [LinearOrder K] {P Q : K → ℤ → T → Prop} {cache : MemoryCache K T}

/-- Every item of the cache, with its key and the time it was added at. -/
def Holds (P : K → ℤ → T → Prop) (cache : MemoryCache K T) : Prop :=
  ∀ key time item, cache.cachedItems.find? key = some (time, item) → P key time item

theorem Holds.mono (holds : cache.Holds P) (weaker : ∀ key time item, P key time item → Q key time item) :
    cache.Holds Q :=
  fun key time item found => weaker key time item (holds key time item found)

theorem Holds.add {key : K} {item : T} {now : ℤ} (holds : cache.Holds P) (new : P key now item) :
    (cache.add key item now).Holds P := by
  unfold MemoryCache.add
  cases there : cache.cachedItems.find? key with
  | some old => exact holds
  | none =>
    intro other time content found
    rw [OrderedMap.find?_insert] at found
    split_ifs at found with same
    · cases found
      exact same ▸ new
    · exact holds other time content found

theorem add_lifetime (cache : MemoryCache K T) (key : K) (item : T) (now : ℤ) :
    (cache.add key item now).lifetime = cache.lifetime := by
  unfold MemoryCache.add
  split
  · rfl
  · rfl

/-- An item that is found is not older than the cache keeps it; otherwise the cache has no more than before. -/
theorem tryGet_cases (holds : cache.Holds P) (key : K) (now : ℤ) :
    (∃ time item, cache.tryGet key now = (some item, cache) ∧ P key time item ∧ now - time < cache.lifetime) ∨
      ∃ after, cache.tryGet key now = (none, after) ∧ after.lifetime = cache.lifetime ∧ after.Holds P := by
  unfold MemoryCache.tryGet
  cases found : cache.cachedItems.find? key with
  | none => exact .inr ⟨cache, rfl, rfl, holds⟩
  | some entry =>
    obtain ⟨time, item⟩ := entry
    by_cases young : now - time < cache.lifetime
    · exact .inl ⟨time, item, if_pos young, holds key time item found, young⟩
    · refine .inr ⟨_, if_neg young, rfl, ?_⟩
      intro other at_ content there
      rw [OrderedMap.find?_erase] at there
      split_ifs at there
      exact holds other at_ content there

end MemoryCache

namespace ReadDataByIdentifier
variable {environment : Environment} {did : UInt16}

/-- The resource server holds this value for the parameter. -/
def Reads (environment : Environment) (did : UInt16) (value : Bytes) : Prop :=
  ∃ key resource, resourceKey did = some key ∧ tryGetResourceValue environment key = .ok (some resource) ∧
    (environment.values.asString resource >>= convert environment.doubles did) = .ok value

/-- The server cannot be asked, or holds a value for the parameter. -/
def Readable (environment : Environment) (did : UInt16) : Prop :=
  ∀ key, resourceKey did = some key → tryGetResourceValue environment key = .ok none ∨
    ∃ value, Reads environment did value

theorem convert_length {doubles : Doubles} {str value : Bytes} (converted : convert doubles did str = .ok value) :
    value.length ≤ 4 := by
  unfold convert at converted
  split_ifs at converted
  · obtain ⟨number, -, done⟩ := bind_eq_ok.mp converted
    cases done
    exact Nat.le_of_ble_eq_true rfl
  · obtain ⟨number, -, rest⟩ := bind_eq_ok.mp converted
    obtain ⟨amount, -, done⟩ := bind_eq_ok.mp rest
    cases done
    exact Nat.le_of_ble_eq_true rfl
  · obtain ⟨number, -, rest⟩ := bind_eq_ok.mp converted
    obtain ⟨consumption, -, done⟩ := bind_eq_ok.mp rest
    cases done
    exact Nat.le_of_ble_eq_true rfl
  · obtain ⟨number, -, rest⟩ := bind_eq_ok.mp converted
    obtain ⟨odometer, -, done⟩ := bind_eq_ok.mp rest
    cases done
    exact Nat.le_of_ble_eq_true rfl
  · obtain ⟨number, -, done⟩ := bind_eq_ok.mp converted
    cases done
    exact Nat.le_of_ble_eq_true rfl

theorem Reads.length_le {value : Bytes} (reads : Reads environment did value) : value.length ≤ 4 := by
  obtain ⟨key, resource, -, -, converted⟩ := reads
  obtain ⟨str, -, done⟩ := bind_eq_ok.mp converted
  exact convert_length done

/-! ## The answers -/

/-- The cache has responses with values that are `P`. -/
def Caches (P : UInt16 → ℤ → Bytes → Prop) : ResponseCache → Prop :=
  MemoryCache.Holds fun did time item => ∃ value, item = generateResponse did ++ value ∧ P did time value

/-- How a parameter is answered: not at all, in the negative, or with a value that is read or was cached. -/
inductive Reading (P : UInt16 → ℤ → Bytes → Prop) (environment : Environment) (lifetime : ℤ) (did : UInt16) :
    Answer → Prop where
  | failed (e : Fault) (unreadable : ¬ Readable environment did) : Reading P environment lifetime did (.faulted e)
  | refused : Reading P environment lifetime did (.refused cSid cConditionsNotCorrectNrc)
  | read {value : Bytes} (reads : Reads environment did value) :
      Reading P environment lifetime did (.response (generateResponse did ++ value))
  | cached {value : Bytes} (time : ℤ) (was : P did time value) (young : environment.lookupTime - time < lifetime) :
      Reading P environment lifetime did (.response (generateResponse did ++ value))

variable {P : UInt16 → ℤ → Bytes → Prop} {cache : ResponseCache}

/-- What the cache has behind an answer for a parameter. -/
def Extended (P : UInt16 → ℤ → Bytes → Prop) (environment : Environment) (asked : UInt16) (answer : Answer) :
    UInt16 → ℤ → Bytes → Prop :=
  fun did time value => P did time value ∨ did = asked ∧ answer = .response (generateResponse did ++ value) ∧
    Reads environment did value ∧ time = environment.additionTime

theorem Caches.mono {Q : UInt16 → ℤ → Bytes → Prop} (holds : Caches P cache)
    (weaker : ∀ did time value, P did time value → Q did time value) : Caches Q cache :=
  MemoryCache.Holds.mono holds fun did time _ ⟨value, same, was⟩ => ⟨value, same, weaker did time value was⟩

theorem Caches.extended (holds : Caches P cache) (asked : UInt16) (answer : Answer) :
    Caches (Extended P environment asked answer) cache :=
  holds.mono fun _ _ _ was => .inl was

theorem getResource_reading (holds : Caches P cache) {key : Bytes} (named : resourceKey did = some key) (lifetime : ℤ) :
    ∃ answer after, getResource environment cache did key (convert environment.doubles did) = (answer, after) ∧
      Reading P environment lifetime did answer ∧ after.lifetime = cache.lifetime ∧
      Caches (Extended P environment did answer) after := by
  unfold getResource
  cases found : tryGetResourceValue environment key with
  | error e =>
    refine ⟨_, cache, rfl, .failed e fun readable => ?_, rfl, holds.extended did _⟩
    rcases readable key named with unanswered | ⟨value, other, resource, same, answered, -⟩
    · cases found.symm.trans unanswered
    · cases named.symm.trans same
      cases found.symm.trans answered
  | ok answer =>
    cases answer with
    | none => exact ⟨_, cache, rfl, .refused, rfl, holds.extended did _⟩
    | some resource =>
      dsimp only
      cases converted : environment.values.asString resource >>= convert environment.doubles did with
      | error e =>
        refine ⟨_, cache, rfl, .failed e fun readable => ?_, rfl, holds.extended did _⟩
        rcases readable key named with unanswered | ⟨value, other, resource', same, answered, done⟩
        · cases found.symm.trans unanswered
        · cases named.symm.trans same
          cases found.symm.trans answered
          cases converted.symm.trans done
      | ok value =>
        have reads : Reads environment did value := ⟨key, resource, named, found, converted⟩
        exact ⟨_, _, rfl, .read reads, MemoryCache.add_lifetime _ _ _ _,
          MemoryCache.Holds.add (holds.extended did _) ⟨value, rfl, .inr ⟨rfl, rfl, reads, rfl⟩⟩⟩

theorem handleMessage_reading (holds : Caches P cache) {requestData : Bytes} (asked : getDid requestData = .ok did)
    (known : (resourceKey did).isSome) :
    ∃ answer after, handleMessage environment cache requestData = (answer, after) ∧
      Reading P environment cache.lifetime did answer ∧ after.lifetime = cache.lifetime ∧
      Caches (Extended P environment did answer) after := by
  unfold handleMessage
  rw [asked]
  dsimp only
  rcases MemoryCache.tryGet_cases holds did environment.lookupTime with
    ⟨time, item, looked, ⟨value, rfl, was⟩, young⟩ | ⟨after, looked, lifetime, holds'⟩
  · rw [looked]
    exact ⟨_, cache, rfl, .cached time was young, rfl, holds.extended did _⟩
  · rw [looked]
    obtain ⟨key, named⟩ := Option.isSome_iff_exists.mp known
    dsimp only
    rw [getValue_eq, named]
    obtain ⟨answer, last, done, reading, same, extended⟩ := getResource_reading holds' named cache.lifetime
    exact ⟨answer, last, done, reading, same.trans lifetime, extended⟩

end ReadDataByIdentifier

namespace DiagMessageHandler
open ReadDataByIdentifier

/-- A request for a parameter gets to the service. -/
theorem route_reading (environment : Environment) {cache : ResponseCache} {P : UInt16 → ℤ → Bytes → Prop}
    (holds : Caches P cache) {msb lsb : UInt8} (known : (resourceKey (word16 msb lsb)).isSome) :
    ∃ answer after, route environment cache [ReadDataByIdentifier.cSid, msb, lsb] = (answer, after) ∧
      Reading P environment cache.lifetime (word16 msb lsb) answer ∧ after.lifetime = cache.lifetime ∧
      Caches (Extended P environment (word16 msb lsb) answer) after := by
  have here : route environment cache [ReadDataByIdentifier.cSid, msb, lsb] =
      handleMessage environment cache [ReadDataByIdentifier.cSid, msb, lsb] := by
    unfold route UdsServiceRouter.route
    dsimp only
    rw [find_router, if_pos rfl]
  rw [here]
  exact handleMessage_reading holds rfl known

end DiagMessageHandler
end AdaptiveAutosar.Application
