import AdaptiveAutosar.Diag.SecurityAccess
import AdaptiveAutosar.Foundations.Transition

/-! # Which security levels are unlocked

Next to the service stands the level whose correct key was accepted last. `handlePassedAttempt` unlocks a
level without locking the others.
-/

namespace AdaptiveAutosar.Diag
open Foundations
set_option autoImplicit false

structure Unlocking where
  service : SecurityAccess
  accepted : Option UInt8

namespace Unlocking
variable {state state' : Unlocking} {input : SecurityInput}

def make : Unlocking := ⟨.make, none⟩

/-- With `std::terminate` the run ends. -/
def step (state : Unlocking) (input : SecurityInput) : Except Unit (Option Answer × Unlocking) :=
  let (answer, service) := state.service.react input
  if answer = some .terminated then .error ()
  else .ok (answer, ⟨service, (state.service.accepts input).or state.accepted⟩)

/-- No level is unlocked but the one whose correct key was accepted last, and that one is. -/
def OnlyAccepted (state : Unlocking) : Prop :=
  ∀ level, state.service.isUnlocked level = true ↔ state.accepted = some level

/-- No correct key is given for a level while another one is unlocked. -/
def Exclusive (state : Unlocking) (input : SecurityInput) : Prop :=
  ∀ level ∈ state.service.accepts input, ∀ entry ∈ state.service.securityLevels.entries,
    entry.2.unlocked = true → entry.1 = level

instance (state : Unlocking) (input : SecurityInput) : Decidable (state.Exclusive input) :=
  @Option.decidableForallMem _ _ (fun _ => inferInstance) (state.service.accepts input)

theorem exists_unlocked_iff (service : SecurityAccess) (level : UInt8) :
    (∃ entry ∈ service.securityLevels.entries, entry.2.unlocked = true ∧ entry.1 = level) ↔
      service.isUnlocked level = true := by
  unfold SecurityAccess.isUnlocked
  constructor
  · rintro ⟨⟨_, securityLevel⟩, there, unlocked, rfl⟩
    rw [(service.securityLevels.mem_entries_iff _ _).mp there]
    exact unlocked
  · intro unlocked
    cases stored : service.securityLevels.find? level with
    | none =>
      rw [stored] at unlocked
      cases unlocked
    | some securityLevel =>
      rw [stored] at unlocked
      exact ⟨(level, securityLevel), (service.securityLevels.mem_entries_iff _ _).mpr stored, unlocked, rfl⟩

theorem exclusive_iff (state : Unlocking) (input : SecurityInput) :
    state.Exclusive input ↔ ∀ level ∈ state.service.accepts input, ∀ other,
      state.service.isUnlocked other = true → other = level := by
  unfold Exclusive
  refine forall₂_congr fun level accepted => ?_
  constructor
  · intro exclusive other unlocked
    obtain ⟨entry, there, isUnlocked, rfl⟩ := (exists_unlocked_iff state.service other).mpr unlocked
    exact exclusive entry there isUnlocked
  · intro exclusive entry there unlocked
    exact exclusive entry.1 ((exists_unlocked_iff state.service entry.1).mp ⟨entry, there, unlocked, rfl⟩)

theorem step_taken {answer : Option Answer} (taken : state.step input = .ok (answer, state')) :
    state'.service = (state.service.react input).2 ∧
      state'.accepted = (state.service.accepts input).or state.accepted := by
  unfold step at taken
  simp only at taken
  split at taken
  · cases taken
  · cases taken
    exact ⟨rfl, rfl⟩

/-- A key that is accepted leaves one level unlocked exactly when no other was. -/
theorem onlyAccepted_step {answer : Option Answer} (only : state.OnlyAccepted)
    (taken : state.step input = .ok (answer, state')) : state'.OnlyAccepted ↔ state.Exclusive input := by
  obtain ⟨service, accepted⟩ := step_taken taken
  have unlocked (level : UInt8) : state'.service.isUnlocked level = true ↔
      state.service.accepts input = some level ∨ state.accepted = some level := by
    rw [service, state.service.isUnlocked_react, only level]
  rw [exclusive_iff]
  unfold OnlyAccepted
  cases accepts : state.service.accepts input with
  | none =>
    rw [accepts] at unlocked accepted
    refine iff_of_true ?_ (fun level there => by cases there)
    intro level
    rw [unlocked, accepted]
    simp
  | some given =>
    rw [accepts] at unlocked accepted
    constructor
    · intro onlyAfter level there other was
      cases there
      have after := (onlyAfter other).mp ((unlocked other).mpr (.inr ((only other).mp was)))
      rw [accepted] at after
      exact (Option.some.inj after).symm
    · intro exclusive level
      rw [unlocked, accepted]
      constructor
      · rintro (isGiven | was)
        · exact isGiven
        · rw [exclusive given rfl level ((only level).mpr was)]
          rfl
      · exact fun isGiven => .inl isGiven

theorem onlyAccepted_make : make.OnlyAccepted := by
  intro level
  exact iff_of_false (fun unlocked => by cases unlocked) (fun accepted => by cases accepted)

/-- For every sequence of requests and ends of the delay: in every state only the level whose key was
accepted last is unlocked exactly when no key is accepted while another level is unlocked. -/
theorem onlyAccepted_iff_exclusive {trace : List (Taken Unlocking SecurityInput (Option Answer))}
    (run : Run step make trace state) :
    Run.Throughout OnlyAccepted trace state ↔ Run.Every Exclusive trace := by
  apply Run.throughout_iff_every (fun _ only => only) onlyAccepted_make ?_ ?_ run
  · intro state input answer state' only exclusive taken
    exact (onlyAccepted_step only taken).mpr exclusive
  · intro state input answer state' only shared taken onlyAfter
    exact shared ((onlyAccepted_step only taken).mp onlyAfter)

def encrypted : MetaInfo := ⟨[("Encryptor", "4660")]⟩

def securityRequest (requestData : Bytes) : SecurityInput :=
  .request ⟨0x27 :: requestData, encrypted, ⟨false⟩⟩

theorem onlyAccepted_iff_exclusive_oneLevel : ∃ trace state,
    Run.play step [] make [securityRequest [1], securityRequest [3], securityRequest [2, 0x12, 0x35]] =
        .ok (trace, state) ∧
      Run.Throughout OnlyAccepted trace state ∧ state.accepted = some 1 := by
  obtain ⟨trace, state, played, every, accepted⟩ : ∃ trace state,
      Run.play step [] make [securityRequest [1], securityRequest [3], securityRequest [2, 0x12, 0x35]] =
          .ok (trace, state) ∧ Run.Every Exclusive trace ∧ state.accepted = some 1 :=
    ⟨_, _, rfl, by decide, rfl⟩
  exact ⟨trace, state, played, (onlyAccepted_iff_exclusive (Run.of_play .start played)).mpr every, accepted⟩

/-- With the keys of the levels 1 and 3 accepted both are unlocked. -/
theorem not_always_onlyAccepted : ∃ trace state,
    Run.play step [] make [securityRequest [1], securityRequest [2, 0x12, 0x35], securityRequest [3],
        securityRequest [4, 0x12, 0x36]] = .ok (trace, state) ∧
      state.service.isUnlocked 1 = true ∧ state.service.isUnlocked 3 = true ∧
      ¬ Run.Throughout OnlyAccepted trace state := by
  refine ⟨_, _, rfl, rfl, rfl, ?_⟩
  rintro ⟨only, -⟩
  cases (only 1).mp rfl

end Unlocking
end AdaptiveAutosar.Diag
