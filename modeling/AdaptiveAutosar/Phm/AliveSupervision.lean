import AdaptiveAutosar.Foundations.Cursor
import AdaptiveAutosar.Phm.ElementarySupervision

/-! # Alive supervision

`ara::phm::supervisors::AliveSupervision`: its constructor, its checkpoint and one round of its worker.
-/

namespace AdaptiveAutosar.Phm
open Foundations
set_option autoImplicit false

structure AliveSupervision where
  elementary : ElementarySupervision
  expectedAliveIndicationsMin : UInt16
  expectedAliveIndicationsMax : UInt16
  failedReferenceCyclesTolerance : UInt8
  aliveReferenceCycle : ℤ
  aliveCounter : UInt8
  running : Bool
  aliveIndications : UInt16
  deriving DecidableEq, Repr

namespace AliveSupervision

/-- The constructor. The cycle is in milliseconds. -/
def make (expectedAliveIndications minMargin maxMargin : UInt16) (aliveReferenceCycle : ℤ)
    (failedReferenceCyclesTolerance : UInt8) : Outcome AliveSupervision :=
  if ¬ (0 < minMargin ∧ minMargin < expectedAliveIndications) then
    .error (.thrown (.invalidArgument ("The minimum margin should be greater than zero and smaller than " ++
      "the expected alive indications.")))
  else if ¬ 0 < maxMargin then
    .error (.thrown (.invalidArgument "The maximum margin should be greater than zero."))
  else if ¬ 0 < failedReferenceCyclesTolerance then
    .error (.thrown (.invalidArgument "The failed reference cycles tolerance should be greater than zero."))
  else if ¬ 0 < aliveReferenceCycle then
    .error (.thrown (.invalidArgument "The alive reference cycle should be greater than zero."))
  else
    .ok ⟨.make .aliveSupervision, expectedAliveIndications - minMargin, expectedAliveIndications + maxMargin,
      failedReferenceCyclesTolerance, aliveReferenceCycle, 0, true, 0⟩

def reportAliveness (supervision : AliveSupervision) : AliveSupervision :=
  if supervision.aliveIndications < 65535 then
    { supervision with aliveIndications := supervision.aliveIndications + 1 }
  else supervision

/-- One round of the loop in `supervise`, with the status it reports and what the callback is called with. The
loop has ended when the supervision does not run. -/
def supervise (supervision : AliveSupervision) :
    Option (SupervisionStatus × Option SupervisionStatus) × AliveSupervision :=
  if supervision.running = false then (none, supervision)
  else if supervision.expectedAliveIndicationsMin ≤ supervision.aliveIndications ∧
      supervision.aliveIndications ≤ supervision.expectedAliveIndicationsMax then
    let (elementary, called) := supervision.elementary.report .ok
    (some (.ok, called),
      { supervision with
        elementary, aliveIndications := 0
        aliveCounter := if 0 < supervision.aliveCounter then supervision.aliveCounter - 1
          else supervision.aliveCounter })
  else
    let aliveCounter := supervision.aliveCounter + 1
    if aliveCounter < supervision.failedReferenceCyclesTolerance then
      let (elementary, called) := supervision.elementary.report .failed
      (some (.failed, called), { supervision with elementary, aliveIndications := 0, aliveCounter })
    else
      let (elementary, called) := supervision.elementary.report .expired
      (some (.expired, called), { supervision with elementary, aliveIndications := 0, aliveCounter, running := false })

end AliveSupervision
end AdaptiveAutosar.Phm
