import AdaptiveAutosar.PackageManagement.Calls

/-! # Any request body

A handler reads the fields of its method in order. It answers its error and leaves the package
manager alone when a field or a count is cut off; when a count announces more bytes than the request
still has, it reads outside the request.
-/

namespace AdaptiveAutosar.PackageManagement
open Foundations Foundations.Cursor AdaptiveAutosar.Ucm
set_option autoImplicit false

/-- The fields of a method's request. -/
def layout : Method → List Field
  | .transferStart => [.counted 2, .counted 2, .fixed 8]
  | .transferData => [.fixed 4, .counted 4, .fixed 4]
  | .transferExit => [.fixed 4]
  | .processSwPackage => [.fixed 4]
  | .activate => [.counted 2, .counted 2]
  | .getSwClusterInfo => []
  | .getCurrentStatus => []

namespace PackageManagementSkeleton

theorem arguments_follows (method : Method) : Follows (arguments method) (layout method) := by
  cases method with
  | transferStart =>
    exact extractString_follows.bind fun _ => extractString_follows.bind fun _ =>
      extractU64_follows.bind fun _ => Follows.pure _
  | transferData =>
    exact extractU32_follows.bind fun _ => extractBytes_follows.bind fun _ =>
      extractU32_follows.bind fun _ => Follows.pure _
  | transferExit => exact extractU32_follows.bind fun _ => Follows.pure _
  | processSwPackage => exact extractU32_follows.bind fun _ => Follows.pure _
  | activate =>
    exact extractString_follows.bind fun _ => extractString_follows.bind fun _ => Follows.pure _
  | getSwClusterInfo => exact Follows.pure _
  | getCurrentStatus => exact Follows.pure _

/-- The request has all the fields of its method; bytes behind them do not matter. -/
def Complete (method : Method) (request : Bytes) : Prop :=
  ∃ rest, cut (layout method) request = .complete rest

/-- The handler stays inside the request; it answers its error to a request that is not complete, and
leaves the package manager and the files as they were. -/
structure Survives (codecs : Codecs) (method : Method) (answers : Answers) (request : Bytes)
    (host : Host) : Prop where
  inside : handler codecs method answers request host ≠ .error .undefined
  refused : ¬ Complete method request →
    handler codecs method answers request host = .ok (errorResponse (onError method).code, host)

/-- A call of the package manager does not read outside anything; it may throw. -/
theorem serve_ne_undefined (codecs : Codecs) (answers : Answers) (host : Host) (call : Call) :
    serve codecs answers host call ≠ .error .undefined := by
  cases call with
  | processSwPackage id =>
    apply bind_ne_undefined
    · apply bind_ne_undefined (host.processSwPackage_ne_undefined codecs answers.process id)
      exact fun _ h => by cases h
    · exact fun _ h => by cases h
  | _ => exact fun h => by cases h

theorem survives_iff (codecs : Codecs) (method : Method) (answers : Answers) (request : Bytes)
    (host : Host) :
    Survives codecs method answers request host ↔ cut (layout method) request ≠ .overrun := by
  have read := arguments_follows method request 0 (Nat.zero_le _)
  rw [List.drop_zero] at read
  constructor
  · intro survives overrun
    rw [overrun] at read
    refine survives.inside ?_
    simp only [handler_eq, handle, show arguments method request 0 = .error .undefined from read]
  · intro fits
    cases h : cut (layout method) request with
    | complete rest =>
      rw [h] at read
      obtain ⟨call, offset, extracted, -⟩ := read
      refine ⟨?_, fun incomplete => absurd ⟨rest, h⟩ incomplete⟩
      simp only [handler_eq, handle, extracted]
      apply bind_ne_undefined (serve_ne_undefined codecs answers host call)
      exact fun _ fails => by cases fails
    | short =>
      rw [h] at read
      obtain ⟨what, thrown⟩ := read
      have answer : handler codecs method answers request host =
          .ok (errorResponse (onError method).code, host) := by
        simp only [handler_eq, handle, thrown]
      refine ⟨?_, fun _ => answer⟩
      rw [answer]
      exact fun fails => by cases fails
    | overrun => exact absurd h fits

/-- A `TransferStart` of two bytes that announce a name of 65535. -/
theorem not_always_survives : ¬ ∀ (codecs : Codecs) (method : Method) (answers : Answers)
    (request : Bytes) (host : Host), Survives codecs method answers request host := by
  intro always
  have survives := always ⟨⟨fun _ => none, fun _ => []⟩, .plain, ⟨fun _ => none, fun _ => []⟩⟩ .transferStart
    ⟨⟨true, ⟨true, true, true⟩⟩, ⟨fun _ files => (0, files), true⟩,
      ⟨true, true, fun _ => ⟨none, true⟩, true, true, true, true, ⟨true, true, true⟩⟩⟩
    [0xff, 0xff] ⟨PackageManager.make ⟨⟨fun _ => none, fun _ => []⟩, .plain, ⟨fun _ => none, fun _ => []⟩⟩ [] true
      true fun _ => none, fun _ => none⟩
  exact survives.inside rfl

end PackageManagementSkeleton
end AdaptiveAutosar.PackageManagement
