import LogicBench.Proofs.Network.Passes
import LogicBench.Proofs.Simulator.Steps

/-!
# The pass limit

How many passes a cycle may take decides only whether the cycle is completed. Where every cycle
settles within a limit, a simulator with a higher one goes through the same states, gives back the
same results and records the same traces.
-/

namespace LogicBench

namespace Simulator

variable {simulator : Simulator} {limit : Nat}

def withMaxPasses (simulator : Simulator) (limit : Nat) : Simulator :=
  { simulator with maxPasses := limit }

@[simp] theorem network_withMaxPasses (simulator : Simulator) (limit : Nat) :
    (simulator.withMaxPasses limit).network = simulator.network := rfl

@[simp] theorem recorder_withMaxPasses (simulator : Simulator) (limit : Nat) :
    (simulator.withMaxPasses limit).recorder = simulator.recorder := rfl

theorem executeCycle_withMaxPasses {passes : Nat} (h : simulator.executeCycle.2 = .ok passes)
    (hlimit : simulator.maxPasses ≤ limit) :
    (simulator.withMaxPasses limit).executeCycle =
      (simulator.executeCycle.1.withMaxPasses limit, .ok passes) := by
  obtain ⟨settled, hsettle, hcycle⟩ := executeCycle_eq_of_ok h
  have hmore := Network.settle_of_le hsettle hlimit
  rw [hcycle, executeCycle]
  simp only [withMaxPasses, hmore]

theorem maxPasses_executeCycle (simulator : Simulator) :
    simulator.executeCycle.1.maxPasses = simulator.maxPasses :=
  simulator.sameCircuit_executeCycle.maxPasses

theorem isConvergenceFailure_of_continueRun {cycles : Nat} {cause : SimulatorError}
    (h : (simulator.continueRun cycles).2 = .error cause) : cause.isConvergenceFailure := by
  induction cycles generalizing simulator with
  | zero => cases h
  | succ cycles ih =>
      cases hcycle : simulator.executeCycle.2 with
      | ok passes =>
          rw [continueRun_succ_of_ok hcycle] at h
          exact ih h
      | error failure =>
          rw [continueRun_succ_of_error hcycle] at h
          obtain rfl := Except.error.inj h
          rw [(executeCycle_eq_of_error hcycle).2]
          rfl

theorem continueRun_withMaxPasses {cycles : Nat} (h : (simulator.continueRun cycles).2 = .ok ())
    (hlimit : simulator.maxPasses ≤ limit) :
    (simulator.withMaxPasses limit).continueRun cycles =
      ((simulator.continueRun cycles).1.withMaxPasses limit, .ok ()) := by
  induction cycles generalizing simulator with
  | zero => rfl
  | succ cycles ih =>
      cases hcycle : simulator.executeCycle.2 with
      | ok passes =>
          have hmore := executeCycle_withMaxPasses hcycle hlimit
          rw [continueRun_succ_of_ok hcycle] at h ⊢
          rw [continueRun_succ_of_ok (congrArg Prod.snd hmore), hmore]
          exact ih h (simulator.maxPasses_executeCycle.le.trans hlimit)
      | error cause =>
          rw [continueRun_succ_of_error hcycle] at h
          cases h

/-! ## Operations that run no cycle -/

theorem setSwitch_withMaxPasses (simulator : Simulator) (limit : Nat) (name : String)
    (state : Bool) :
    (simulator.withMaxPasses limit).setSwitch name state =
      (simulator.setSwitch name state).map (·.withMaxPasses limit) := by
  rw [setSwitch, setSwitch, network_withMaxPasses]
  cases simulator.network.deviceId? name with
  | none => rfl
  | some id =>
      simp only
      cases simulator.network.setSwitch id state <;> rfl

theorem resolveSignal_withMaxPasses (simulator : Simulator) (limit : Nat) (signal : String) :
    (simulator.withMaxPasses limit).resolveSignal signal = simulator.resolveSignal signal := rfl

theorem addMonitor_withMaxPasses (simulator : Simulator) (limit : Nat) (signal : String) :
    (simulator.withMaxPasses limit).addMonitor signal =
      (simulator.addMonitor signal).map (·.withMaxPasses limit) := by
  rw [addMonitor, addMonitor, resolveSignal_withMaxPasses, network_withMaxPasses,
    recorder_withMaxPasses]
  cases simulator.resolveSignal signal with
  | error cause => rfl
  | ok name =>
      simp only [bind, Except.bind]
      cases simulator.recorder.add simulator.network name <;> rfl

theorem removeMonitor_withMaxPasses (simulator : Simulator) (limit : Nat) (signal : String) :
    (simulator.withMaxPasses limit).removeMonitor signal =
      (simulator.removeMonitor signal).map (·.withMaxPasses limit) := by
  rw [removeMonitor, removeMonitor, resolveSignal_withMaxPasses, recorder_withMaxPasses]
  cases simulator.resolveSignal signal with
  | error cause => rfl
  | ok name =>
      simp only [bind, Except.bind]
      cases simulator.recorder.remove name <;> rfl

/-! ## All operations -/

theorem perform_withMaxPasses {operation : Operation}
    (h : ∀ cause, (simulator.perform operation).2 = .error cause →
      cause.isConvergenceFailure = false)
    (hlimit : simulator.maxPasses ≤ limit) :
    (simulator.withMaxPasses limit).perform operation =
      ((simulator.perform operation).1.withMaxPasses limit, (simulator.perform operation).2) := by
  have hrun (start : Simulator) (hstart : start.maxPasses ≤ limit) (cycles : Nat)
      (h : ∀ cause, (start.continueRun cycles).2 = .error cause →
        cause.isConvergenceFailure = false) :
      (start.withMaxPasses limit).continueRun cycles =
        ((start.continueRun cycles).1.withMaxPasses limit, (start.continueRun cycles).2) := by
    cases hresult : (start.continueRun cycles).2 with
    | ok done => exact continueRun_withMaxPasses hresult hstart
    | error cause =>
        have hfailure := isConvergenceFailure_of_continueRun hresult
        rw [h cause hresult] at hfailure
        cases hfailure
  cases operation with
  | run cycles => exact hrun simulator.coldStart hlimit cycles h
  | continueRun cycles => exact hrun simulator hlimit cycles h
  | executeCycle =>
      rw [perform_executeCycle_eq] at h ⊢
      rw [perform_executeCycle_eq]
      exact hrun simulator hlimit 1 h
  | setSwitch name state =>
      rw [perform, setSwitch_withMaxPasses]
      exact keepOnError_map (·.withMaxPasses limit) simulator _
  | addMonitor signal =>
      rw [perform, addMonitor_withMaxPasses]
      exact keepOnError_map (·.withMaxPasses limit) simulator _
  | removeMonitor signal =>
      rw [perform, removeMonitor_withMaxPasses]
      exact keepOnError_map (·.withMaxPasses limit) simulator _

theorem performAll_withMaxPasses {operations : List Operation}
    (h : ∀ cause, .error cause ∈ (simulator.performAll operations).2 →
      cause.isConvergenceFailure = false)
    (hlimit : simulator.maxPasses ≤ limit) :
    (simulator.withMaxPasses limit).performAll operations =
      ((simulator.performAll operations).1.withMaxPasses limit,
        (simulator.performAll operations).2) := by
  induction operations generalizing simulator with
  | nil => rfl
  | cons operation rest ih =>
      have hfirst := perform_withMaxPasses
        (fun cause hcause => h cause (hcause ▸ List.mem_cons_self)) hlimit
      have hnext : (simulator.perform operation).1.maxPasses ≤ limit :=
        (reaches_perform simulator operation).sameCircuit.maxPasses.le.trans hlimit
      have hrest : ((simulator.perform operation).1.withMaxPasses limit).performAll rest = _ :=
        ih (fun cause hcause => h cause (List.mem_cons_of_mem _ hcause)) hnext
      simp only [performAll, hfirst, hrest]

end Simulator

namespace Definition

open Simulator in
/-- What a simulator of a definition without errors does while every cycle settles, it does under
every higher pass limit: it gives back the same results and differs in the limit only. This comes
from settling itself, on any network and in any order: it succeeds exactly if the first pass that
changes nothing is within the limit, with the number of that pass and the network it has found. -/
theorem pass_limit_decides_success {source : String} (hvalid : (ofSource source).hasErrors = false)
    {limit higher : Nat} (hhigher : limit ≤ higher) (operations : List Operation) :
    let definition := ofSource source
    let simulator (maxPasses : Nat) :=
      ofNetwork definition.names definition.network definition.recorder maxPasses
    let outcome := (simulator limit).performAll operations
    (∀ maxPasses, 0 < maxPasses → ofDefinition definition maxPasses = .ok (simulator maxPasses)) ∧
    ((∀ cause, .error cause ∈ outcome.2 → cause.isConvergenceFailure = false) →
      (simulator higher).performAll operations =
        ({ outcome.1 with maxPasses := higher }, outcome.2)) ∧
    ∀ (network : Network) (order : List DeviceId) (passes : Nat),
      let isFirstQuiet := IsLeast {number | network.IsQuietPass order number} passes
      (∀ limit, (network.settle order limit).2 = some passes ↔ passes ≤ limit ∧ isFirstQuiet) ∧
      (isFirstQuiet → ∀ limit, passes ≤ limit →
        network.settle order limit = (network.afterPasses order passes, some passes)) := by
  intro definition simulator outcome
  refine ⟨fun maxPasses hpasses => ofDefinition_eq_ok hpasses hvalid, ?_, ?_⟩
  · exact fun hsettles => performAll_withMaxPasses hsettles hhigher
  · intro network order passes isFirstQuiet
    exact ⟨fun _ => Network.settle_eq_some_iff, fun hfirst _ => Network.settle_of_isLeast hfirst⟩

open Simulator in
/-- Two crossed gates need three passes when one of them is set. -/
theorem pass_limit_decides_success_crossed :
    let definition := ofSource "DEVICES s:SWITCH 0, r:SWITCH 1, p:NAND 2, q:NAND 2;
      CONNECT s > p.I1, q > p.I2, r > q.I1, p > q.I2; MONITOR p, q; END"
    let simulator := ofNetwork definition.names definition.network definition.recorder 3
    let higher := ofNetwork definition.names definition.network definition.recorder 20
    let operations : List Operation := [.run 2, .setSwitch "s" true, .addMonitor "x",
      .setSwitch "r" false, .continueRun 3]
    let outcome := simulator.performAll operations
    definition.hasErrors = false ∧
      (∀ cause, .error cause ∈ outcome.2 → cause.isConvergenceFailure = false) ∧
      higher.performAll operations = ({ outcome.1 with maxPasses := 20 }, outcome.2) := by
  intro definition simulator higher operations outcome
  have hvalid : definition.hasErrors = false := by
    unfold definition
    decide +kernel
  have hresults : outcome.2 =
      [.ok (), .ok (), .error (.unknownSignal "x"), .ok (), .ok ()] := by
    unfold outcome simulator operations definition
    decide +kernel
  have hsettles : ∀ cause, .error cause ∈ outcome.2 → cause.isConvergenceFailure = false := by
    intro cause hcause
    rw [hresults] at hcause
    simp only [List.mem_cons, reduceCtorEq, Except.error.injEq, List.not_mem_nil, false_or,
      or_false] at hcause
    rw [hcause]
    rfl
  obtain ⟨-, hhigher, -⟩ := pass_limit_decides_success hvalid (by decide : 3 ≤ 20) operations
  unfold outcome simulator definition at hsettles ⊢
  unfold higher definition
  exact ⟨hvalid, hsettles, hhigher hsettles⟩

end Definition

end LogicBench
