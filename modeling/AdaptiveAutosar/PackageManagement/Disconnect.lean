import AdaptiveAutosar.PackageManagement.Calls
import AdaptiveAutosar.Ucm.Provenance

/-! # A client that goes away

The events a skeleton sees: requests, and the end of a connection. The disconnect handler resets the
package manager in every state but `kIdle` and `kActivated`. Every run of a skeleton is a run of
requests of its package manager.
-/

namespace AdaptiveAutosar.PackageManagement
open Foundations AdaptiveAutosar.Per AdaptiveAutosar.Ucm
set_option autoImplicit false

namespace PackageManagementSkeleton

/-- The disconnect handler of the constructor. -/
def disconnectHandler (manager : PackageManager) : PackageManager :=
  if manager.state ≠ .idle ∧ manager.state ≠ .activated then manager.reset else manager

inductive Event where
  | request (method : Method) (payload : Bytes) (answers : Answers)
  | disconnect

def step (codecs : Codecs) (host : Host) : Event → Outcome (Bytes × Host)
  | .request method payload answers => handler codecs method answers payload host
  | .disconnect => .ok ([], ⟨disconnectHandler host.manager, host.files⟩)

/-! ## Runs of the package manager -/

/-- A request leaves everything as it is, or makes one request to the package manager. -/
theorem handle_effect {codecs : Codecs} {method : Method} {answers : Answers} {payload output : Bytes}
    {host host' : Host} (h : handle codecs method answers payload host = .ok (output, host')) :
    host' = host ∨ ∃ call request reply, call.method = method ∧
      managerRequest answers call = some request ∧
      host.step codecs request = .ok (reply, host') ∧ output = response (replyOf reply) := by
  unfold handle at h
  cases extracted : arguments method payload 0 with
  | error fault =>
    rw [extracted] at h
    cases fault <;> cases h
    exact Or.inl rfl
  | ok result =>
    obtain ⟨call, offset⟩ := result
    rw [extracted] at h
    obtain ⟨⟨reply, after⟩, served, h⟩ := bind_eq_ok.mp h
    cases h
    have kind : call.method = method := arguments_method extracted
    unfold serve at served
    cases made : managerRequest answers call with
    | none =>
      simp only [made] at served
      split_ifs at served <;> cases served <;> exact Or.inl rfl
    | some request =>
      simp only [made] at served
      obtain ⟨⟨reply, after⟩, step, served⟩ := bind_eq_ok.mp served
      cases served
      exact Or.inr ⟨call, request, reply, kind, made, step, rfl⟩

theorem step_simulates {codecs : Codecs} {host host' : Host} {event : Event} {output : Bytes}
    (h : step codecs host event = .ok (output, host')) :
    host' = host ∨ ∃ request reply, host.step codecs request = .ok (reply, host') := by
  cases event with
  | request method payload answers =>
    rw [step, handler_eq] at h
    obtain rfl | ⟨_, request, reply, -, -, step, -⟩ := handle_effect h
    · exact Or.inl rfl
    · exact Or.inr ⟨request, reply, step⟩
  | disconnect =>
    cases h
    unfold disconnectHandler
    by_cases busy : host.manager.state ≠ .idle ∧ host.manager.state ≠ .activated
    · rw [if_pos busy]
      exact Or.inr ⟨.reset, .done, rfl⟩
    · rw [if_neg busy]
      exact Or.inl rfl

theorem run_simulates {codecs : Codecs} {init host : Host} {trace : List (Taken Host Event Bytes)}
    (run : Run (step codecs) init trace host) :
    ∃ calls, Run (Host.step codecs) init calls host := by
  induction run with
  | start => exact ⟨[], .start⟩
  | next run taken ih =>
    obtain ⟨calls, ih⟩ := ih
    obtain rfl | ⟨request, reply, step⟩ := step_simulates taken
    · exact ⟨calls, ih⟩
    · exact ⟨_, ih.next step⟩

/-! ## How a manager comes to be activated -/

/-- An `Activate` that was answered with success. -/
def Activated (taken : Taken Host Event Bytes) : Prop :=
  ∃ payload answers, taken.input = .request .activate payload answers ∧ taken.output = [cWireOk]

/-- Only a successful `Activate` makes the state `kActivated`. -/
theorem step_activated {codecs : Codecs} {host host' : Host} {event : Event} {output : Bytes}
    (h : step codecs host event = .ok (output, host')) (activated : host'.manager.state = .activated)
    (before : host.manager.state ≠ .activated) : Activated ⟨host, event, output⟩ := by
  cases event with
  | disconnect =>
    cases h
    unfold disconnectHandler at activated
    split_ifs at activated with busy
    · cases activated
    · exact absurd activated before
  | request method payload answers =>
    rw [step, handler_eq] at h
    obtain rfl | ⟨call, request, reply, rfl, made, step, rfl⟩ := handle_effect h
    · exact absurd activated before
    · cases Host.step_effect step with
      | activated named completes =>
        cases call <;> cases made
        exact ⟨payload, answers, rfl, rfl⟩
      | started => cases activated
      | malformed => cases activated
      | processed => cases activated
      | activateFailed => cases activated
      | reset => cases activated
      | _ => exact absurd activated before

theorem activated_of_run {codecs : Codecs} {init host : Host} {trace : List (Taken Host Event Bytes)}
    (run : Run (step codecs) init trace host) (start : init.manager.state ≠ .activated)
    (activated : host.manager.state = .activated) : ∃ taken ∈ trace, Activated taken := by
  induction run with
  | start => exact absurd activated start
  | @next trace state state' event output run taken ih =>
    by_cases before : state.manager.state = .activated
    · obtain ⟨earlier, member, activated⟩ := ih before
      exact ⟨earlier, List.mem_cons_of_mem _ member, activated⟩
    · exact ⟨_, List.mem_cons_self, step_activated taken activated before⟩

/-! ## The next client -/

theorem transferStart_disconnected {manager : PackageManager} (h : manager.state ≠ .activated)
    (info : PackageInfoType) :
    ∃ id manager', (disconnectHandler manager).transferStart info = (.ok id, manager') := by
  have idle : (disconnectHandler manager).state = .idle := by
    unfold disconnectHandler
    by_cases idle : manager.state = .idle
    · rw [if_neg fun busy => busy.1 idle, idle]
    · rw [if_pos ⟨idle, h⟩]
      rfl
  obtain ⟨busy, -⟩ | ⟨-, start⟩ := (disconnectHandler manager).transferStart_cases info
  · exact absurd idle busy
  · exact ⟨_, _, start⟩

/-- After the disconnect handler a new transfer starts, unless the last thing the manager did was to
complete an activation: that state is kept, and refuses every transfer. -/
theorem recovers_unless_activated (codecs : Codecs) (storageRoot : Bytes) (available opens : Bool)
    (files : Files) {trace : List (Taken Host Event Bytes)} {host : Host}
    (run : Run (step codecs) (Host.boot codecs storageRoot available opens files) trace host)
    (info : PackageInfoType) :
    (host.manager.state ≠ .activated →
        ∃ id manager', (disconnectHandler host.manager).transferStart info = (.ok id, manager')) ∧
      (host.manager.state = .activated → (∃ taken ∈ trace, Activated taken) ∧
        disconnectHandler host.manager = host.manager ∧
        host.manager.transferStart info = (.error .operationInProgress, host.manager)) := by
  refine ⟨fun h => transferStart_disconnected h info, ?_⟩
  intro activated
  refine ⟨activated_of_run run ?_ activated, ?_, ?_⟩
  · exact fun start => by cases start
  · exact if_neg fun busy => busy.2 activated
  · refine if_pos ?_
    rw [activated]
    exact fun idle => by cases idle

def sampleAnswers : Answers := ⟨⟨true, ⟨true, true, true⟩⟩, unpacked, sampleActivation⟩

def sampleEvent (call : Call) : Event :=
  .request call.method (PackageManagementProxy.request call) sampleAnswers

/-- A client that transfers a package and has it processed. -/
def sampleEvents : List Event :=
  [sampleEvent (.transferStart sampleInfo), sampleEvent (.transferData 1 [1, 2] 0),
    sampleEvent (.transferExit 1), sampleEvent (.processSwPackage 1)]

theorem recovers_unless_activated_sample : ∃ trace host,
    Run.play (step sampleCodecs) [] sampleHost sampleEvents = .ok (trace, host) ∧
      ∃ id manager', (disconnectHandler host.manager).transferStart sampleInfo = (.ok id, manager') := by
  refine ⟨_, _, rfl, (recovers_unless_activated sampleCodecs (text "/s") true true _
    (Run.of_play .start (rfl : Run.play _ [] sampleHost sampleEvents = _)) sampleInfo).1 ?_⟩
  exact fun activated => by cases activated

/-- The same client has the package activated and goes away: the next transfer is refused. -/
theorem not_always_recovers : ¬ ∀ (codecs : Codecs) (storageRoot : Bytes) (available opens : Bool)
    (files : Files) (trace : List (Taken Host Event Bytes)) (host : Host) (info : PackageInfoType),
    Run (step codecs) (Host.boot codecs storageRoot available opens files) trace host →
      ∃ id manager', (disconnectHandler host.manager).transferStart info = (.ok id, manager') := by
  intro always
  obtain ⟨trace, host, played, named, completes⟩ : ∃ trace host,
      Run.play (step sampleCodecs) [] sampleHost sampleEvents = .ok (trace, host) ∧
        host.manager.stagedBinaryName ≠ [] ∧
        host.Completes sampleCodecs sampleActivation (text "/i") (text "/m") :=
    ⟨_, _, rfl, by decide, ⟨rfl, rfl, rfl⟩, ⟨copyLoop_reliable (fun _ => ⟨rfl, rfl⟩) _ _ _, rfl⟩,
      ⟨rfl, ⟨[.element (text "PROCESSES") [] []], rfl, rfl⟩, rfl⟩⟩
  obtain ⟨files, activate⟩ := Host.activate_of_completes named completes
  have last : step sampleCodecs host (sampleEvent (.activate (text "/i") (text "/m"))) =
      .ok ([cWireOk], ⟨{ host.manager with
        registry := host.manager.recorded, state := .activated }, files⟩) := by
    have extracted : arguments .activate
        (PackageManagementProxy.request (.activate (text "/i") (text "/m"))) 0 =
        .ok (.activate (text "/i") (text "/m"), 8) := rfl
    simp only [step, sampleEvent, Call.method, handler_eq, handle, extracted, serve, managerRequest,
      sampleAnswers, Host.step, activate]
    rfl
  obtain ⟨id, manager', start⟩ := always _ _ _ _ _ _ _ sampleInfo
    ((Run.of_play .start played).next last)
  cases start

end PackageManagementSkeleton
end AdaptiveAutosar.PackageManagement
