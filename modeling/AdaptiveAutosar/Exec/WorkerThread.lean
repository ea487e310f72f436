import AdaptiveAutosar.Foundations.Transition
import Mathlib.Tactic.Ring

/-! # Random numbers of worker threads

`ara::exec::WorkerThread::GetRandom` step by step: the draw from the generator of the thread, the load of the
offset that all threads share, and the addition to it. The generator and its seed, the same for every thread, are
parameters.
-/

namespace AdaptiveAutosar.Exec
open Foundations
set_option autoImplicit false

/-- Where a thread is in `GetRandom`. -/
inductive RandomCall where
  | idle
  | drawn (randomNumber : Fin 6)
  | loaded (randomNumber : Fin 6) (offset : UInt64)
  deriving DecidableEq, Repr

inductive WorkerStep (ι : Type) where
  | draw (thread : ι)
  | load (thread : ι)
  | add (thread : ι)

/-- `offset` is the static `mOffset`, `generators` the thread-local ones. -/
structure WorkerThreads (ι G : Type) where
  offset : UInt64
  generators : ι → G
  calls : ι → RandomCall

namespace WorkerThreads
variable {ι G : Type}

def cOffsetStep : UInt64 := 6

def make (seed : G) : WorkerThreads ι G := ⟨0, fun _ => seed, fun _ => .idle⟩

/-- `_result`. -/
def result (randomNumber : Fin 6) (offset : UInt64) : UInt64 := offset + UInt64.ofNat randomNumber.val

section
variable [DecidableEq ι]

/-- `add` ends a call and returns its number. -/
def step (draw : G → Fin 6 × G) (threads : WorkerThreads ι G) :
    WorkerStep ι → Except Unit (Option UInt64 × WorkerThreads ι G)
  | .draw thread =>
    match threads.calls thread with
    | .idle =>
      let (randomNumber, generator) := draw (threads.generators thread)
      .ok (none, { threads with
        generators := Function.update threads.generators thread generator
        calls := Function.update threads.calls thread (.drawn randomNumber) })
    | _ => .error ()
  | .load thread =>
    match threads.calls thread with
    | .drawn randomNumber =>
      .ok (none, { threads with
        calls := Function.update threads.calls thread (.loaded randomNumber threads.offset) })
    | _ => .error ()
  | .add thread =>
    match threads.calls thread with
    | .loaded randomNumber offset =>
      .ok (some (result randomNumber offset), { threads with
        offset := threads.offset + cOffsetStep
        calls := Function.update threads.calls thread .idle })
    | _ => .error ()

end

/-! ## The calls of a run -/

/-- The number that a step has drawn and the offset it has loaded, for the call that it ends. -/
def ended (taken : Taken (WorkerThreads ι G) (WorkerStep ι) (Option UInt64)) : Option (Fin 6 × UInt64) :=
  match taken.input with
  | .add thread =>
    match taken.before.calls thread with
    | .loaded randomNumber offset => some (randomNumber, offset)
    | _ => none
  | _ => none

/-- The calls that have returned, the last one first. -/
def returned (trace : List (Taken (WorkerThreads ι G) (WorkerStep ι) (Option UInt64))) : List (Fin 6 × UInt64) :=
  trace.filterMap ended

/-- The numbers they have returned. -/
def numbers (trace : List (Taken (WorkerThreads ι G) (WorkerStep ι) (Option UInt64))) : List UInt64 :=
  trace.filterMap Taken.output

/-- The number of the call reaches into the first window again. -/
def Wraps (call other : Fin 6 × UInt64) : Prop :=
  call.2.toNat = 2 ^ 64 - 4 ∧ other.2 = 0 ∧ call.1.val = other.1.val + 4

/-- Calls that have loaded one offset have drawn different numbers, and none of two wraps into the other. -/
structure Differ (call other : Fin 6 × UInt64) : Prop where
  window : call.2 = other.2 → call.1 ≠ other.1
  ahead : ¬ Wraps call other
  behind : ¬ Wraps other call

instance (call other : Fin 6 × UInt64) : Decidable (Wraps call other) :=
  inferInstanceAs (Decidable (_ ∧ _ ∧ _))

instance (call other : Fin 6 × UInt64) : Decidable (Differ call other) :=
  decidable_of_iff ((call.2 = other.2 → call.1 ≠ other.1) ∧ ¬ Wraps call other ∧ ¬ Wraps other call)
    ⟨fun all => ⟨all.1, all.2.1, all.2.2⟩, fun differ => ⟨differ.window, differ.ahead, differ.behind⟩⟩

theorem result_toNat (randomNumber : Fin 6) (offset : UInt64) :
    (result randomNumber offset).toNat = (offset.toNat + randomNumber.val) % 2 ^ 64 := by
  have small := randomNumber.isLt
  unfold result
  rw [UInt64.toNat_add, UInt64.toNat_ofNat']
  omega

variable {call other : Fin 6 × UInt64}

theorem Wraps.result_eq (wraps : Wraps call other) : result call.1 call.2 = result other.1 other.2 := by
  obtain ⟨last, first, reached⟩ := wraps
  have start : other.2.toNat = 0 := congrArg UInt64.toNat first
  have small := call.1.isLt
  apply UInt64.toNat_inj.mp
  rw [result_toNat, result_toNat]
  omega

/-- A sum at or above 2^64 belongs to the last window, and comes out below two. -/
theorem wraps_of_result_eq (window : call.2.toNat % 6 = 0) (window' : other.2.toNat % 6 = 0)
    (equal : result call.1 call.2 = result other.1 other.2) (high : 2 ^ 64 ≤ call.2.toNat + call.1.val)
    (low : other.2.toNat + other.1.val < 2 ^ 64) : Wraps call other := by
  have below := call.2.toNat_lt
  have small := call.1.isLt
  have sums := congrArg UInt64.toNat equal
  rw [result_toNat, result_toNat, Nat.mod_eq_of_lt low] at sums
  have cut : (call.2.toNat + call.1.val) % 2 ^ 64 = call.2.toNat + call.1.val - 2 ^ 64 := by omega
  have last : call.2.toNat = 2 ^ 64 - 4 := by omega
  have first : other.2.toNat = 0 := by omega
  have reached : call.1.val = other.1.val + 4 := by omega
  exact ⟨last, UInt64.toNat_inj.mp first, reached⟩

/-- Numbers of windows are equal within one window, or when the last window has wrapped. -/
theorem result_ne_iff (window : call.2.toNat % 6 = 0) (window' : other.2.toNat % 6 = 0) :
    result call.1 call.2 ≠ result other.1 other.2 ↔ Differ call other := by
  constructor
  · intro different
    refine ⟨fun one same => different ?_, fun wraps => different wraps.result_eq,
      fun wraps => different wraps.result_eq.symm⟩
    rw [one, same]
  · rintro ⟨one, ahead, behind⟩ equal
    have small := call.1.isLt
    have small' := other.1.isLt
    have sums := congrArg UInt64.toNat equal
    rw [result_toNat, result_toNat] at sums
    have apart : call.2.toNat ≠ other.2.toNat := by
      intro level
      refine one (UInt64.toNat_inj.mp level) (Fin.ext ?_)
      omega
    obtain ⟨i, index⟩ : ∃ i, call.2.toNat = 6 * i := ⟨call.2.toNat / 6, by omega⟩
    obtain ⟨j, index'⟩ : ∃ j, other.2.toNat = 6 * j := ⟨other.2.toNat / 6, by omega⟩
    by_cases high : 2 ^ 64 ≤ call.2.toNat + call.1.val
    · by_cases high' : 2 ^ 64 ≤ other.2.toNat + other.1.val
      · have below := call.2.toNat_lt
        have below' := other.2.toNat_lt
        omega
      · exact ahead (wraps_of_result_eq window window' equal high (Nat.lt_of_not_le high'))
    · by_cases high' : 2 ^ 64 ≤ other.2.toNat + other.1.val
      · exact behind (wraps_of_result_eq window' window equal.symm high' (Nat.lt_of_not_le high))
      · rw [Nat.mod_eq_of_lt (Nat.lt_of_not_le high), Nat.mod_eq_of_lt (Nat.lt_of_not_le high')] at sums
        omega

/-! ## One step -/

variable [DecidableEq ι] {draw : G → Fin 6 × G} {seed : G} {threads threads' : WorkerThreads ι G}
  {input : WorkerStep ι} {output : Option UInt64}

theorem step_cases (taken : threads.step draw input = .ok (output, threads')) :
    (∃ thread, input = .draw thread ∧ output = none ∧ threads'.offset = threads.offset ∧
      threads'.calls = Function.update threads.calls thread (.drawn (draw (threads.generators thread)).1)) ∨
    (∃ thread randomNumber, input = .load thread ∧ output = none ∧ threads.calls thread = .drawn randomNumber ∧
      threads'.offset = threads.offset ∧
      threads'.calls = Function.update threads.calls thread (.loaded randomNumber threads.offset)) ∨
    ∃ thread randomNumber offset, input = .add thread ∧ threads.calls thread = .loaded randomNumber offset ∧
      output = some (result randomNumber offset) ∧ threads'.offset = threads.offset + cOffsetStep ∧
      threads'.calls = Function.update threads.calls thread .idle := by
  cases input with
  | draw thread =>
    left
    cases call : threads.calls thread with
    | idle =>
      simp only [step, call] at taken
      cases taken
      exact ⟨thread, rfl, rfl, rfl, rfl⟩
    | drawn _ | loaded _ _ =>
      simp only [step, call] at taken
      cases taken
  | load thread =>
    right; left
    cases call : threads.calls thread with
    | drawn randomNumber =>
      simp only [step, call] at taken
      cases taken
      exact ⟨thread, randomNumber, rfl, rfl, call, rfl, rfl⟩
    | idle | loaded _ _ =>
      simp only [step, call] at taken
      cases taken
  | add thread =>
    right; right
    cases call : threads.calls thread with
    | loaded randomNumber offset =>
      simp only [step, call] at taken
      cases taken
      exact ⟨thread, randomNumber, offset, rfl, call, rfl, rfl, rfl⟩
    | idle | drawn _ =>
      simp only [step, call] at taken
      cases taken

/-- The call that a step ends returns the number of the step. -/
theorem ended_result (taken : threads.step draw input = .ok (output, threads')) :
    (ended ⟨threads, input, output⟩).map (fun call => result call.1 call.2) = output := by
  rcases step_cases taken with ⟨thread, rfl, rfl, -⟩ | ⟨thread, _, rfl, rfl, -⟩ | ⟨thread, n, o, rfl, call, rfl, -⟩
  · rfl
  · rfl
  · unfold ended
    dsimp only
    rw [call]
    rfl

theorem numbers_eq {trace : List (Taken (WorkerThreads ι G) (WorkerStep ι) (Option UInt64))}
    (run : Run (step draw) (make seed) trace threads) :
    numbers trace = (returned trace).map fun call => result call.1 call.2 := by
  induction run with
  | start => rfl
  | @next trace before after input output _ taken ih =>
    have here := ended_result taken
    unfold numbers returned at *
    cases last : ended ⟨before, input, output⟩ with
    | none =>
      rw [last] at here
      rw [List.filterMap_cons_none here.symm, List.filterMap_cons_none last, ih]
    | some call =>
      rw [last] at here
      rw [List.filterMap_cons_some here.symm, List.filterMap_cons_some last, ih, List.map_cons]

omit [DecidableEq ι] in
theorem returned_of_none {trace : List (Taken (WorkerThreads ι G) (WorkerStep ι) (Option UInt64))}
    {taken : Taken (WorkerThreads ι G) (WorkerStep ι) (Option UInt64)} (goes_on : ended taken = none) :
    returned (taken :: trace) = returned trace := List.filterMap_cons_none goes_on

omit [DecidableEq ι] in
theorem returned_of_add {trace : List (Taken (WorkerThreads ι G) (WorkerStep ι) (Option UInt64))} {thread : ι}
    {randomNumber : Fin 6} {offset : UInt64} (call : threads.calls thread = .loaded randomNumber offset) :
    returned (⟨threads, .add thread, output⟩ :: trace) = (randomNumber, offset) :: returned trace := by
  apply List.filterMap_cons_some
  unfold ended
  dsimp only
  rw [call]

/-- A thread that has loaded an offset is the one that has stepped, or had loaded it before. -/
theorem loaded_cases {calls : ι → RandomCall} {thread other : ι} {call : RandomCall} {randomNumber : Fin 6}
    {offset : UInt64} (there : Function.update calls thread call other = .loaded randomNumber offset) :
    other = thread ∧ call = .loaded randomNumber offset ∨
      other ≠ thread ∧ calls other = .loaded randomNumber offset := by
  by_cases here : other = thread
  · rw [here, Function.update_self] at there
    exact .inl ⟨here, there⟩
  · rw [Function.update_of_ne here] at there
    exact .inr ⟨here, there⟩

/-- Every offset that is loaded begins a window of its own. -/
structure Windows (trace : List (Taken (WorkerThreads ι G) (WorkerStep ι) (Option UInt64)))
    (threads : WorkerThreads ι G) : Prop where
  offset : threads.offset.toNat = 6 * (returned trace).length
  loaded : ∀ thread randomNumber offset, threads.calls thread = .loaded randomNumber offset → offset.toNat % 6 = 0
  returned : ∀ call ∈ returned trace, call.2.toNat % 6 = 0

theorem windows {trace : List (Taken (WorkerThreads ι G) (WorkerStep ι) (Option UInt64))}
    (run : Run (step draw) (make seed) trace threads) (unwrapped : 6 * (returned trace).length < 2 ^ 64) :
    Windows trace threads := by
  induction run with
  | start =>
    refine ⟨rfl, fun thread _ _ call => ?_, fun call there => by cases there⟩
    cases call
  | @next trace before after input output _ taken ih =>
    rcases step_cases taken with ⟨thread, rfl, rfl, offset, calls⟩ | ⟨thread, number, rfl, rfl, drawn, offset, calls⟩ |
      ⟨thread, number, loaded, rfl, call, rfl, offset, calls⟩
    · have same : returned (⟨before, .draw thread, none⟩ :: trace) = returned trace := returned_of_none rfl
      rw [same] at unwrapped
      have sound := ih unwrapped
      refine ⟨?_, fun other randomNumber loaded there => ?_, ?_⟩
      · rw [offset, same]
        exact sound.offset
      · rw [calls] at there
        rcases loaded_cases there with ⟨-, drawn⟩ | ⟨-, earlier⟩
        · cases drawn
        · exact sound.loaded other randomNumber loaded earlier
      · rw [same]
        exact sound.returned
    · have same : returned (⟨before, .load thread, none⟩ :: trace) = returned trace := returned_of_none rfl
      rw [same] at unwrapped
      have sound := ih unwrapped
      refine ⟨?_, fun other randomNumber loaded there => ?_, ?_⟩
      · rw [offset, same]
        exact sound.offset
      · rw [calls] at there
        rcases loaded_cases there with ⟨-, now⟩ | ⟨-, earlier⟩
        · cases now
          rw [sound.offset]
          exact Nat.mul_mod_right 6 _
        · exact sound.loaded other randomNumber loaded earlier
      · rw [same]
        exact sound.returned
    · rw [returned_of_add call, List.length_cons] at unwrapped
      have sound := ih (by omega)
      refine ⟨?_, fun other randomNumber loaded there => ?_, ?_⟩
      · rw [offset, returned_of_add call, List.length_cons, UInt64.toNat_add, sound.offset]
        change (6 * (returned trace).length + 6) % 2 ^ 64 = _
        omega
      · rw [calls] at there
        rcases loaded_cases there with ⟨-, idle⟩ | ⟨-, earlier⟩
        · cases idle
        · exact sound.loaded other randomNumber loaded earlier
      · rw [returned_of_add call]
        exact List.forall_mem_cons.mpr ⟨sound.loaded thread number loaded call, sound.returned⟩

/-! ## Calls one after another -/

/-- No thread loads the offset between the load and the addition of another one. -/
def Alone (threads : WorkerThreads ι G) : WorkerStep ι → Prop
  | .load _ => ∀ other randomNumber offset, threads.calls other ≠ .loaded randomNumber offset
  | .draw _ | .add _ => True

/-- The offsets of the calls rise, and the call that has loaded one has loaded the present one. -/
structure Serial (trace : List (Taken (WorkerThreads ι G) (WorkerStep ι) (Option UInt64)))
    (threads : WorkerThreads ι G) : Prop where
  rising : (returned trace).Pairwise fun call earlier => earlier.2.toNat < call.2.toNat
  below : ∀ call ∈ returned trace, call.2.toNat < threads.offset.toNat
  present : ∀ thread randomNumber offset, threads.calls thread = .loaded randomNumber offset →
    offset = threads.offset ∧ ∀ other randomNumber' offset',
      threads.calls other = .loaded randomNumber' offset' → other = thread

theorem serial {trace : List (Taken (WorkerThreads ι G) (WorkerStep ι) (Option UInt64))}
    (run : Run (step draw) (make seed) trace threads) (unwrapped : 6 * (returned trace).length < 2 ^ 64)
    (alone : Run.Every Alone trace) : Serial trace threads := by
  induction run with
  | start =>
    refine ⟨List.Pairwise.nil, fun call there => (by cases there), fun thread _ _ call => ?_⟩
    cases call
  | @next trace before after input output run taken ih =>
    obtain ⟨undisturbed, earlier⟩ := Run.every_cons.mp alone
    rcases step_cases taken with ⟨thread, rfl, rfl, offset, calls⟩ | ⟨thread, number, rfl, rfl, drawn, offset, calls⟩ |
      ⟨thread, number, loaded, rfl, call, rfl, offset, calls⟩
    · have same : returned (⟨before, .draw thread, none⟩ :: trace) = returned trace := returned_of_none rfl
      rw [same] at unwrapped
      have sound := ih unwrapped earlier
      have kept (other : ι) (randomNumber : Fin 6) (loaded : UInt64)
          (there : after.calls other = .loaded randomNumber loaded) :
          before.calls other = .loaded randomNumber loaded := by
        rw [calls] at there
        rcases loaded_cases there with ⟨-, drawn⟩ | ⟨-, earlier⟩
        · cases drawn
        · exact earlier
      refine ⟨same ▸ sound.rising, ?_, fun other _ _ there => ?_⟩
      · rw [same, offset]
        exact sound.below
      · obtain ⟨now, only⟩ := sound.present other _ _ (kept other _ _ there)
        exact ⟨now.trans offset.symm, fun another _ _ there' => only another _ _ (kept another _ _ there')⟩
    · have same : returned (⟨before, .load thread, none⟩ :: trace) = returned trace := returned_of_none rfl
      rw [same] at unwrapped
      have sound := ih unwrapped earlier
      -- nobody else has loaded an offset, so that it is this thread
      have mine (other : ι) (randomNumber : Fin 6) (loaded : UInt64)
          (there : after.calls other = .loaded randomNumber loaded) : other = thread ∧ loaded = before.offset := by
        rw [calls] at there
        rcases loaded_cases there with ⟨here, now⟩ | ⟨-, earlier⟩
        · cases now
          exact ⟨here, rfl⟩
        · exact absurd earlier (undisturbed other _ _)
      refine ⟨same ▸ sound.rising, ?_, fun other _ _ there => ?_⟩
      · rw [same, offset]
        exact sound.below
      · obtain ⟨rfl, rfl⟩ := mine other _ _ there
        exact ⟨offset.symm, fun another _ _ there' => (mine another _ _ there').1⟩
    · rw [returned_of_add call, List.length_cons] at unwrapped
      have few : 6 * (returned trace).length < 2 ^ 64 := by omega
      have sound := ih few earlier
      obtain ⟨now, only⟩ := sound.present thread _ _ call
      have raised : after.offset.toNat = before.offset.toNat + 6 := by
        rw [offset, UInt64.toNat_add, (windows run few).offset]
        change (6 * (returned trace).length + 6) % 2 ^ 64 = _
        omega
      refine ⟨?_, ?_, fun other _ _ there => ?_⟩
      · rw [returned_of_add call]
        exact List.pairwise_cons.mpr ⟨fun call' there => now ▸ sound.below call' there, sound.rising⟩
      · rw [returned_of_add call, raised]
        refine List.forall_mem_cons.mpr ⟨?_, fun call' there => ?_⟩
        · dsimp only
          rw [now]
          omega
        · have under := sound.below call' there
          omega
      · rw [calls] at there
        rcases loaded_cases there with ⟨-, idle⟩ | ⟨other_thread, earlier⟩
        · cases idle
        · exact absurd (only other _ _ earlier) other_thread

/-! ## Runs -/

/-- For any generators and every interleaving of any threads: until the offset wraps, the returned numbers are
pairwise distinct exactly when every two calls that have loaded one offset have drawn different numbers, with the
numbers that a wrap makes equal. -/
theorem numbers_nodup_iff {trace : List (Taken (WorkerThreads ι G) (WorkerStep ι) (Option UInt64))}
    (run : Run (step draw) (make seed) trace threads) (unwrapped : 6 * (returned trace).length < 2 ^ 64) :
    (numbers trace).Nodup ↔ (returned trace).Pairwise Differ := by
  have sound := windows run unwrapped
  rw [numbers_eq run, List.Nodup, List.pairwise_map]
  apply List.Pairwise.iff_of_mem
  intro call other there there'
  exact result_ne_iff (sound.returned call there) (sound.returned other there')

/-- Calls of which none loads the offset while another has yet to add to it return different numbers, as long as
no number wraps. -/
theorem numbers_nodup_of_alone {trace : List (Taken (WorkerThreads ι G) (WorkerStep ι) (Option UInt64))}
    (run : Run (step draw) (make seed) trace threads) (unwrapped : 6 * (returned trace).length + 6 ≤ 2 ^ 64)
    (alone : Run.Every Alone trace) : (numbers trace).Nodup := by
  have few : 6 * (returned trace).length < 2 ^ 64 := by omega
  have sound := serial run few alone
  have ends := (windows run few).offset
  rw [numbers_nodup_iff run few]
  apply sound.rising.imp_of_mem
  intro call earlier there there' rises
  have below := sound.below call there
  have below' := sound.below earlier there'
  refine ⟨fun same => ?_, ?_, ?_⟩
  · rw [same] at rises
    exact absurd rises (Nat.lt_irrefl _)
  · rintro ⟨last, -⟩
    omega
  · rintro ⟨last, -⟩
    omega

/-- A number of `std::minstd_rand0` in one of six parts of its range. -/
def minstd (state : ℕ) : Fin 6 × ℕ :=
  let state := 16807 * state % 2147483647
  (Fin.ofNat 6 ((state - 1) / 357913940), state)

/-- Behind two calls of the first thread, its third one shares a window with the first call of the second. -/
def sampleSteps : List (WorkerStep ℕ) :=
  [.draw 0, .load 0, .add 0, .draw 0, .load 0, .add 0, .draw 0, .draw 1, .load 0, .load 1, .add 1, .add 0]

theorem numbers_nodup_iff_sample : ∃ trace threads,
    Run.play (step minstd) [] (make 1) sampleSteps = .ok (trace, threads) ∧ numbers trace = [16, 12, 6, 0] ∧
      (numbers trace).Nodup := by
  obtain ⟨trace, threads, played, few, differ, all⟩ : ∃ trace threads,
      Run.play (step minstd) [] (make 1) sampleSteps = .ok (trace, threads) ∧ 6 * (returned trace).length < 2 ^ 64 ∧
        (returned trace).Pairwise Differ ∧ numbers trace = [16, 12, 6, 0] :=
    ⟨_, _, rfl, by decide, by decide, by decide⟩
  exact ⟨trace, threads, played, all, (numbers_nodup_iff (Run.of_play .start played) few).mpr differ⟩

/-- The first calls of two threads draw the same number, and load the same offset when neither has added to it. -/
theorem not_always_nodup : ∃ trace threads,
    Run.play (step minstd) [] (make 1) [.draw 0, .draw 1, .load 0, .load 1, .add 0, .add 1] =
        .ok (trace, (threads : WorkerThreads ℕ ℕ)) ∧
      numbers trace = [0, 0] ∧ ¬ (numbers trace).Nodup :=
  ⟨_, _, rfl, by decide, by decide⟩

end WorkerThreads
end AdaptiveAutosar.Exec
