import LogicBench.Simulator

/-!
# Journals

What a simulator has to remark on its operations. The notices are computed from the state before an
operation; they are not part of the state.
-/

namespace LogicBench

/-- The notice that goes with a failure, if any. -/
def SimulatorError.notice? : SimulatorError → Option Notice
  | notSettled cycle passes => some (.notSettled cycle passes)
  | _ => none

namespace Simulator

/-- What is noticed when a simulator is made. -/
def startNotices (network : Network) : List Notice :=
  match network.evaluationPlan.2 with
  | 0 => []
  | looped => [.feedback looped]

/-- What is noticed of a cycle that led from one state to the next. -/
def cycleNotices (before after : Simulator) (passes : Nat) : List Notice :=
  [.settled passes, .cycleSettled after.cycleCount passes] ++
    if before.recorder.isDue after.network then
      [.sampled before.recorder.size after.cycleCount]
    else []

/-- What is noticed in further cycles, behind what was noticed before. -/
def continueNotices (simulator : Simulator) (noticed : Array Notice) : Nat → Array Notice
  | 0 => noticed
  | cycles + 1 =>
    match simulator.executeCycle with
    | (next, .ok passes) =>
      continueNotices next (noticed ++ cycleNotices simulator next passes) cycles
    | (_, .error cause) => noticed ++ cause.notice?.toList

/-- What is noticed in a run from the start. -/
def runNotices (simulator : Simulator) (cycles : Nat) : List Notice :=
  (simulator.coldStart.continueNotices #[.coldStart cycles] cycles).toList

end Simulator

end LogicBench
