import Mathlib.Data.Nat.Basic
import AdaptiveAutosar.Foundations.Cursor
import AdaptiveAutosar.Foundations.OrderedMap

/-! # The process manager

`application::platform::ProcessManager` with the child processes of the operating system: those that are
alive, and those that have ended and are not waited for yet.
-/

namespace AdaptiveAutosar.Application
open Foundations
set_option autoImplicit false

/-- A child that is alive, with the index of the process descriptor that it was spawned for. -/
structure Child where
  pid : ℕ
  descriptor : ℕ
  argv : List Bytes
  deriving DecidableEq, Repr

/-- A child that has ended. `exitStatus` is missing if a signal has ended it. -/
structure Zombie where
  pid : ℕ
  exitStatus : Option UInt8
  deriving DecidableEq, Repr

/-- `children` is `mChildren`. -/
structure ProcessManager where
  children : OrderedMap ℕ Bytes
  live : List Child
  zombies : List Zombie

namespace ProcessManager

def make : ProcessManager := ⟨.empty, [], []⟩

/-- The process ids that `fork` does not give. -/
def InUse (manager : ProcessManager) (pid : ℕ) : Prop :=
  pid = 0 ∨ pid ∈ manager.live.map Child.pid ∨ pid ∈ manager.zombies.map Zombie.pid

instance (manager : ProcessManager) (pid : ℕ) : Decidable (manager.InUse pid) :=
  @instDecidableOr _ _ _ instDecidableOr

/-- `Spawn`. `fork` is the process id of the child, if there is one. -/
def spawn (manager : ProcessManager) (descriptor : ℕ) (executablePath : Bytes) (argv : List Bytes)
    (fork : Option ℕ) : Except Unit ProcessManager :=
  match fork with
  | some pid =>
    if manager.InUse pid then .error ()
    else
      .ok { manager with
        children := manager.children.insert pid executablePath
        live := ⟨pid, descriptor, argv⟩ :: manager.live }
  | none => .ok manager

/-- A child ends. -/
def exit (manager : ProcessManager) (pid : ℕ) (exitStatus : Option UInt8) : Except Unit ProcessManager :=
  if pid ∈ manager.live.map Child.pid then
    .ok { manager with
      live := manager.live.filter fun child => child.pid ≠ pid
      zombies := manager.zombies ++ [⟨pid, exitStatus⟩] }
  else .error ()

def exitCode (exitStatus : Option UInt8) : ℕ :=
  match exitStatus with
  | some code => code.toNat
  | none => 1

/-- Every child that has ended is waited for. -/
def reapFinished (manager : ProcessManager) : List (ℕ × ℕ) × ProcessManager :=
  (manager.zombies.map fun zombie => (zombie.pid, exitCode zombie.exitStatus),
    { manager with
      children := manager.zombies.foldl (fun children zombie => children.erase zombie.pid) manager.children
      zombies := [] })

/-! ## The table of the children -/

/-- The table has every child that is alive. -/
def Listed (manager : ProcessManager) : Prop :=
  ∀ child ∈ manager.live, (manager.children.find? child.pid).isSome

/-- A process id is of one child only, alive or ended. -/
structure Sound (manager : ProcessManager) : Prop where
  listed : manager.Listed
  apart : ∀ child ∈ manager.live, child.pid ∉ manager.zombies.map Zombie.pid

variable {manager manager' : ProcessManager}

theorem make_sound : make.Sound where
  listed _ there := by cases there
  apart _ there := by cases there

/-- A child that is forked is alive and in the table, beside all others. -/
theorem Sound.spawn (sound : manager.Sound) {descriptor : ℕ} {executablePath : Bytes} {argv : List Bytes}
    {fork : Option ℕ} (spawned : manager.spawn descriptor executablePath argv fork = .ok manager') :
    manager'.Sound ∧ manager'.live = (fork.map fun pid => ⟨pid, descriptor, argv⟩).toList ++ manager.live := by
  unfold ProcessManager.spawn at spawned
  cases fork with
  | none =>
    cases spawned
    exact ⟨sound, rfl⟩
  | some pid =>
    dsimp only at spawned
    split_ifs at spawned with used
    cases spawned
    unfold InUse at used
    push Not at used
    obtain ⟨-, -, fresh⟩ := used
    refine ⟨⟨?_, ?_⟩, rfl⟩
    · intro child there
      rw [OrderedMap.find?_insert]
      split_ifs with here
      · rfl
      · rcases List.mem_cons.mp there with rfl | earlier
        · exact absurd rfl here
        · exact sound.listed child earlier
    · intro child there
      rcases List.mem_cons.mp there with rfl | earlier
      · exact fresh
      · exact sound.apart child earlier

theorem Sound.exit (sound : manager.Sound) {pid : ℕ} {exitStatus : Option UInt8}
    (exits : manager.exit pid exitStatus = .ok manager') :
    manager'.Sound ∧ manager'.live = manager.live.filter fun child => child.pid ≠ pid := by
  unfold ProcessManager.exit at exits
  split_ifs at exits
  cases exits
  refine ⟨⟨?_, ?_⟩, rfl⟩
  · intro child there
    exact sound.listed child (List.mem_filter.mp there).1
  · intro child there
    obtain ⟨earlier, other⟩ := List.mem_filter.mp there
    rw [List.map_append, List.mem_append]
    rintro (before | last)
    · exact sound.apart child earlier before
    · exact of_decide_eq_true other (List.mem_singleton.mp last)

theorem find?_foldl_erase (zombies : List Zombie) (children : OrderedMap ℕ Bytes) {pid : ℕ}
    (other : pid ∉ zombies.map Zombie.pid) :
    (zombies.foldl (fun children zombie => children.erase zombie.pid) children).find? pid = children.find? pid := by
  induction zombies generalizing children with
  | nil => rfl
  | cons zombie rest ih =>
    rw [List.map_cons, List.mem_cons, not_or] at other
    rw [List.foldl_cons, ih _ other.2, OrderedMap.find?_erase, if_neg other.1]

theorem Sound.reapFinished (sound : manager.Sound) : manager.reapFinished.2.Sound := by
  refine ⟨?_, fun _ _ there => by cases there⟩
  intro child there
  unfold ProcessManager.reapFinished
  dsimp only
  rw [find?_foldl_erase _ _ (sound.apart child there)]
  exact sound.listed child there

end ProcessManager
end AdaptiveAutosar.Application
