import LogicBench.Proofs.Simulator.Steps

/-!
# Failures leave no trace

An operation that runs no more than one cycle happens as a whole or not at all. Deleting the failed
ones from a sequence of such operations changes neither where it ends nor what the others give back.
-/

namespace LogicBench

namespace Operation

/-- Whether an operation happens as a whole or not at all. A run of several cycles may complete some
of them before one fails. -/
def isAtomic : Operation → Bool
  | run _ | continueRun _ => false
  | executeCycle | setSwitch _ _ | addMonitor _ | removeMonitor _ => true

def succeeded (operations : List Operation) (results : List (Except SimulatorError Unit)) :
    List Operation :=
  ((operations.zip results).filter fun (_, result) => result.isOk).map (·.1)

theorem succeeded_cons_ok (operation : Operation) (operations : List Operation)
    (results : List (Except SimulatorError Unit)) :
    succeeded (operation :: operations) (.ok () :: results) =
      operation :: succeeded operations results := rfl

theorem succeeded_cons_error (operation : Operation) (operations : List Operation)
    (cause : SimulatorError) (results : List (Except SimulatorError Unit)) :
    succeeded (operation :: operations) (.error cause :: results) =
      succeeded operations results := rfl

end Operation

namespace Simulator

theorem perform_of_error {simulator : Simulator} {operation : Operation} {cause : SimulatorError}
    (hatomic : operation.isAtomic) (h : (simulator.perform operation).2 = .error cause) :
    (simulator.perform operation).1 = simulator := by
  cases operation with
  | run _ | continueRun _ => cases hatomic
  | executeCycle =>
      rw [perform_executeCycle] at h ⊢
      cases hcycle : simulator.executeCycle.2 with
      | ok passes =>
          rw [hcycle] at h
          cases h
      | error cause => exact (executeCycle_eq_of_error hcycle).1
  | setSwitch _ _ | addMonitor _ | removeMonitor _ => exact keepOnError_of_error h

/-- A sequence without its failed operations ends where it does with them, and gives back what the
others give back. -/
theorem performAll_succeeded (simulator : Simulator) {operations : List Operation}
    (hatomic : ∀ operation ∈ operations, operation.isAtomic) :
    simulator.performAll (Operation.succeeded operations (simulator.performAll operations).2) =
      ((simulator.performAll operations).1,
        (simulator.performAll operations).2.filter Except.isOk) := by
  induction operations generalizing simulator with
  | nil => rfl
  | cons operation rest ih =>
      obtain ⟨hfirst, hrest⟩ := List.forall_mem_cons.1 hatomic
      have ih := ih (simulator.perform operation).1 hrest
      simp only [performAll]
      cases hresult : (simulator.perform operation).2 with
      | ok done =>
          rw [Operation.succeeded_cons_ok, performAll]
          simp only [ih, hresult]
          rfl
      | error cause =>
          rw [perform_of_error hfirst hresult] at ih
          rw [Operation.succeeded_cons_error, perform_of_error hfirst hresult]
          exact ih

/-- Without the operations that fail, a sequence leads to the same simulator and the results are
those of the others. In particular a cycle that does not settle leaves everything as it was, and
names itself as the one after those completed. -/
theorem failures_leave_no_trace (simulator : Simulator) (operations : List Operation)
    (hatomic : ∀ operation ∈ operations, operation.isAtomic) :
    let outcome := simulator.performAll operations
    simulator.performAll (Operation.succeeded operations outcome.2) =
        (outcome.1, outcome.2.filter Except.isOk) ∧
      ∀ cause, outcome.1.executeCycle.2 = .error cause →
        outcome.1.executeCycle.1 = outcome.1 ∧
          cause = .notSettled (outcome.1.cycleCount + 1) outcome.1.maxPasses :=
  ⟨performAll_succeeded simulator hatomic, fun _ hcause => executeCycle_eq_of_error hcause⟩

/-- A gate that feeds itself cannot settle while the switch is on. -/
theorem failures_leave_no_trace_loop :
    let circuit := (Definition.ofSource "DEVICES s:SWITCH 0, n:NAND 2;
      CONNECT s > n.I1, n > n.I2; MONITOR n; END")
    let simulator := ofNetwork circuit.names circuit.network circuit.recorder 3
    let operations := [.executeCycle, .setSwitch "s" true, .executeCycle, .addMonitor "x",
      .setSwitch "s" false, .executeCycle]
    (∀ operation ∈ operations, operation.isAtomic) ∧
      (simulator.performAll [.executeCycle, .setSwitch "s" true]).1.executeCycle.2 =
        .error (.notSettled 2 3) ∧
      (simulator.performAll [.executeCycle, .setSwitch "s" true, .setSwitch "s" false,
        .executeCycle]).1 = (simulator.performAll operations).1 := by
  intro circuit simulator operations
  have hatomic : ∀ operation ∈ operations, operation.isAtomic := by decide
  have hfails : (simulator.performAll [.executeCycle, .setSwitch "s" true]).1.executeCycle.2 =
      .error (.notSettled 2 3) := by
    unfold simulator circuit
    decide +kernel
  have hkept : Operation.succeeded operations (simulator.performAll operations).2 =
      [.executeCycle, .setSwitch "s" true, .setSwitch "s" false, .executeCycle] := by
    unfold operations simulator circuit
    decide +kernel
  obtain ⟨hsame, -⟩ := failures_leave_no_trace simulator operations hatomic
  rw [hkept] at hsame
  refine ⟨hatomic, hfails, ?_⟩
  rw [hsame]

end Simulator

end LogicBench
