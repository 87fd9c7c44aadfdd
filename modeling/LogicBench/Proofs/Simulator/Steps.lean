import LogicBench.Proofs.Definition.Meaning
import LogicBench.Proofs.Network.Fixpoint
import LogicBench.Simulator
import Mathlib.Logic.Relation

/-!
# What operations do

Operations on a simulator are made of five kinds of steps: a completed cycle, a cold start, the
setting of a switch, the addition and the removal of a monitored output. A cycle that fails is no
step, for it leaves the simulator as it was. What every step keeps is kept by all operations.
-/

namespace LogicBench

namespace Simulator

variable {simulator next : Simulator}

theorem ofDefinition_eq_ok {definition : Definition} {maxPasses : Nat} (hpasses : 0 < maxPasses)
    (hvalid : definition.hasErrors = false) :
    ofDefinition definition maxPasses =
      .ok (ofNetwork definition.names definition.network definition.recorder maxPasses) := by
  rw [ofDefinition, if_neg (Nat.ne_of_gt hpasses), hvalid, if_neg Bool.false_ne_true]

/-! ## One operation -/

/-- A cycle is completed if the network settles, and otherwise has not happened. -/
theorem executeCycle_cases (simulator : Simulator) :
    (∃ settled passes,
      simulator.network.advance.settle simulator.order simulator.maxPasses =
          (settled, some passes) ∧
        simulator.executeCycle =
          ({ simulator with
              network := settled.latch.finishCycle
              recorder := simulator.recorder.sample settled.latch.finishCycle }, .ok passes)) ∨
      simulator.executeCycle =
        (simulator, .error (.notSettled (simulator.cycleCount + 1) simulator.maxPasses)) := by
  unfold executeCycle
  split
  · next settled passes hsettle => exact .inl ⟨settled, passes, hsettle, rfl⟩
  · next unsettled hsettle =>
    right
    have hbare : unsettled.bare = simulator.network.bare := by
      rw [← simulator.network.bare_advance,
        ← simulator.network.advance.bare_settle simulator.order simulator.maxPasses, hsettle]
    have hcycle : unsettled.cycle = simulator.network.cycle := by
      rw [← simulator.network.cycle_advance,
        ← simulator.network.advance.cycle_settle simulator.order simulator.maxPasses, hsettle]
    -- The devices are put back, and settling has touched neither the wires nor the count.
    simp only [Network.wires_of_bare_eq hbare, hcycle]
    rfl

theorem executeCycle_eq_of_error {cause : SimulatorError}
    (h : simulator.executeCycle.2 = .error cause) :
    simulator.executeCycle.1 = simulator ∧
      cause = .notSettled (simulator.cycleCount + 1) simulator.maxPasses := by
  rcases simulator.executeCycle_cases with ⟨settled, passes, -, hcycle⟩ | hcycle
  · rw [hcycle] at h
    cases h
  · rw [hcycle] at h ⊢
    cases h
    exact ⟨rfl, rfl⟩

theorem executeCycle_eq_of_ok {passes : Nat} (h : simulator.executeCycle.2 = .ok passes) :
    ∃ settled, simulator.network.advance.settle simulator.order simulator.maxPasses =
        (settled, some passes) ∧
      simulator.executeCycle.1 =
        { simulator with
          network := settled.latch.finishCycle
          recorder := simulator.recorder.sample settled.latch.finishCycle } := by
  rcases simulator.executeCycle_cases with ⟨settled, passes, hsettle, hcycle⟩ | hcycle
  · rw [hcycle] at h ⊢
    cases h
    exact ⟨settled, hsettle, rfl⟩
  · rw [hcycle] at h
    cases h

theorem cycleCount_of_ok {passes : Nat} (h : simulator.executeCycle.2 = .ok passes) :
    simulator.executeCycle.1.cycleCount = simulator.cycleCount + 1 := by
  obtain ⟨settled, hsettle, hcycle⟩ := executeCycle_eq_of_ok h
  calc simulator.executeCycle.1.cycleCount
    _ = settled.latch.cycle + 1 := by rw [hcycle, cycleCount, Network.finishCycle]
    _ = settled.cycle + 1 := by rw [Network.cycle_latch]
    _ = simulator.network.advance.cycle + 1 := by
        rw [← simulator.network.advance.cycle_settle simulator.order simulator.maxPasses, hsettle]
    _ = simulator.cycleCount + 1 := by rw [Network.cycle_advance, cycleCount]

theorem perform_executeCycle (simulator : Simulator) :
    simulator.perform .executeCycle =
      (simulator.executeCycle.1, simulator.executeCycle.2.map fun _ => ()) := by
  rw [perform]
  split
  · next next passes h =>
    rw [h]
    rfl
  · next next cause h =>
    rw [h]
    rfl

theorem perform_executeCycle_eq (simulator : Simulator) :
    simulator.perform .executeCycle = simulator.perform (.continueRun 1) := by
  rw [perform, perform, continueRun]
  rfl

theorem continueRun_succ_of_ok {passes : Nat} (h : simulator.executeCycle.2 = .ok passes)
    (cycles : Nat) :
    simulator.continueRun (cycles + 1) = simulator.executeCycle.1.continueRun cycles := by
  rw [continueRun]
  split
  · next next _ heq => rw [heq]
  · next next cause heq =>
    rw [heq] at h
    cases h

theorem continueRun_succ_of_error {cause : SimulatorError}
    (h : simulator.executeCycle.2 = .error cause) (cycles : Nat) :
    simulator.continueRun (cycles + 1) = (simulator, .error cause) := by
  obtain ⟨hsame, -⟩ := executeCycle_eq_of_error h
  rw [continueRun]
  split
  · next next _ heq =>
    rw [heq] at h
    cases h
  · next next _ heq =>
    rw [heq] at h hsame
    cases h
    rw [show next = simulator from hsame]

theorem setSwitch_eq_ok_iff {name : String} {state : Bool} :
    simulator.setSwitch name state = .ok next ↔
      ∃ id network, simulator.network.deviceId? name = some id ∧
        simulator.network.setSwitch id state = .ok network ∧
        next = { simulator with network } := by
  unfold setSwitch
  cases hid : simulator.network.deviceId? name with
  | none => simp
  | some id =>
      cases hset : simulator.network.setSwitch id state with
      | error cause => simp [hset]
      | ok network => simp [hset, eq_comm]

theorem addMonitor_eq_ok_iff {signal : String} :
    simulator.addMonitor signal = .ok next ↔
      ∃ name recorder, simulator.resolveSignal signal = .ok name ∧
        simulator.recorder.add simulator.network name = .ok recorder ∧
        next = { simulator with recorder } := by
  unfold addMonitor
  rw [except_bind_eq_ok_iff]
  constructor
  · rintro ⟨name, hname, hadd⟩
    split at hadd
    · next recorder hrecorder =>
      cases hadd
      exact ⟨name, recorder, hname, hrecorder, rfl⟩
    · cases hadd
  · rintro ⟨name, recorder, hname, hrecorder, rfl⟩
    refine ⟨name, hname, ?_⟩
    rw [hrecorder]
    rfl

theorem removeMonitor_eq_ok_iff {signal : String} :
    simulator.removeMonitor signal = .ok next ↔
      ∃ name recorder, simulator.resolveSignal signal = .ok name ∧
        simulator.recorder.remove name = .ok recorder ∧
        next = { simulator with recorder } := by
  unfold removeMonitor
  rw [except_bind_eq_ok_iff]
  constructor
  · rintro ⟨name, hname, hremove⟩
    split at hremove
    · next recorder hrecorder =>
      cases hremove
      exact ⟨name, recorder, hname, hrecorder, rfl⟩
    · cases hremove
  · rintro ⟨name, recorder, hname, hrecorder, rfl⟩
    refine ⟨name, hname, ?_⟩
    rw [hrecorder]
    rfl

/-! ## Operations as steps -/

inductive Step (simulator : Simulator) : Simulator → Prop
  | cycle {passes : Nat} (completed : simulator.executeCycle.2 = .ok passes) :
      Step simulator simulator.executeCycle.1
  | coldStart : Step simulator simulator.coldStart
  | setSwitch {id : DeviceId} {state : Bool} {network : Network}
      (set : simulator.network.setSwitch id state = .ok network) :
      Step simulator { simulator with network }
  | addMonitor {name : SignalName} {recorder : Recorder}
      (added : simulator.recorder.add simulator.network name = .ok recorder) :
      Step simulator { simulator with recorder }
  | removeMonitor {name : SignalName} {recorder : Recorder}
      (removed : simulator.recorder.remove name = .ok recorder) :
      Step simulator { simulator with recorder }

abbrev Reaches : Simulator → Simulator → Prop :=
  Relation.ReflTransGen Step

theorem reaches_continueRun (simulator : Simulator) (cycles : Nat) :
    simulator.Reaches (simulator.continueRun cycles).1 := by
  induction cycles generalizing simulator with
  | zero => exact .refl
  | succ cycles ih =>
      cases hcycle : simulator.executeCycle.2 with
      | ok passes =>
          rw [continueRun_succ_of_ok hcycle]
          exact .head (.cycle hcycle) (ih _)
      | error cause =>
          rw [continueRun_succ_of_error hcycle]

theorem reaches_perform (simulator : Simulator) (operation : Operation) :
    simulator.Reaches (simulator.perform operation).1 := by
  cases operation with
  | run cycles => exact .head .coldStart (reaches_continueRun _ cycles)
  | continueRun cycles => exact reaches_continueRun _ cycles
  | executeCycle =>
      rw [perform_executeCycle]
      cases hcycle : simulator.executeCycle.2 with
      | ok passes => exact .single (.cycle hcycle)
      | error cause => rw [(executeCycle_eq_of_error hcycle).1]
  | setSwitch name state =>
      rw [perform]
      cases hset : simulator.setSwitch name state with
      | error cause => exact .refl
      | ok next =>
          obtain ⟨id, network, -, hnetwork, rfl⟩ := setSwitch_eq_ok_iff.1 hset
          exact .single (.setSwitch hnetwork)
  | addMonitor signal =>
      rw [perform]
      cases hadd : simulator.addMonitor signal with
      | error cause => exact .refl
      | ok next =>
          obtain ⟨name, recorder, -, hrecorder, rfl⟩ := addMonitor_eq_ok_iff.1 hadd
          exact .single (.addMonitor hrecorder)
  | removeMonitor signal =>
      rw [perform]
      cases hremove : simulator.removeMonitor signal with
      | error cause => exact .refl
      | ok next =>
          obtain ⟨name, recorder, -, hrecorder, rfl⟩ := removeMonitor_eq_ok_iff.1 hremove
          exact .single (.removeMonitor hrecorder)

theorem reaches_performAll (simulator : Simulator) (operations : List Operation) :
    simulator.Reaches (simulator.performAll operations).1 := by
  induction operations generalizing simulator with
  | nil => exact .refl
  | cons operation rest ih => exact (reaches_perform simulator operation).trans (ih _)

/-! ## What steps keep -/

/-- Two simulators of one circuit: they differ at most in what changes while they run, and in what
they monitor. -/
structure SameCircuit (simulator other : Simulator) : Prop where
  names : simulator.names = other.names
  bare : simulator.network.bare = other.network.bare
  order : simulator.order = other.order
  maxPasses : simulator.maxPasses = other.maxPasses

namespace SameCircuit

variable {other last : Simulator}

theorem refl (simulator : Simulator) : simulator.SameCircuit simulator :=
  ⟨rfl, rfl, rfl, rfl⟩

theorem symm (h : simulator.SameCircuit other) : other.SameCircuit simulator :=
  ⟨h.names.symm, h.bare.symm, h.order.symm, h.maxPasses.symm⟩

theorem trans (h : simulator.SameCircuit other) (hlast : other.SameCircuit last) :
    simulator.SameCircuit last :=
  ⟨h.names.trans hlast.names, h.bare.trans hlast.bare, h.order.trans hlast.order,
    h.maxPasses.trans hlast.maxPasses⟩

end SameCircuit

theorem sameCircuit_executeCycle (simulator : Simulator) :
    simulator.executeCycle.1.SameCircuit simulator := by
  rcases simulator.executeCycle_cases with ⟨settled, passes, hsettle, hcycle⟩ | hcycle
  · rw [hcycle]
    refine ⟨rfl, ?_, rfl, rfl⟩
    calc settled.latch.finishCycle.bare
      _ = settled.bare := by rw [Network.bare_finishCycle, Network.bare_latch]
      _ = simulator.network.advance.bare := by
          rw [← simulator.network.advance.bare_settle simulator.order simulator.maxPasses, hsettle]
      _ = simulator.network.bare := simulator.network.bare_advance
  · rw [hcycle]
    exact .refl simulator

theorem Step.sameCircuit (h : simulator.Step next) : next.SameCircuit simulator := by
  cases h with
  | cycle completed => exact simulator.sameCircuit_executeCycle
  | coldStart => exact ⟨rfl, simulator.network.bare_coldStart, rfl, rfl⟩
  | setSwitch set => exact ⟨rfl, Network.bare_of_setSwitch set, rfl, rfl⟩
  | addMonitor _ => exact ⟨rfl, rfl, rfl, rfl⟩
  | removeMonitor _ => exact ⟨rfl, rfl, rfl, rfl⟩

theorem Reaches.sameCircuit (h : simulator.Reaches next) : next.SameCircuit simulator := by
  induction h with
  | refl => exact .refl simulator
  | tail _ hstep ih => exact hstep.sameCircuit.trans ih

theorem sameCircuit_performAll (simulator : Simulator) (operations : List Operation) :
    (simulator.performAll operations).1.SameCircuit simulator :=
  (reaches_performAll simulator operations).sameCircuit

end Simulator

end LogicBench
