import LogicBench.Proofs.Simulator.Steps

/-!
# What is only listed

A network lists its wires in the order made, and a simulator keeps the table of names it was read
with. Neither is looked at in a run: each device knows the drivers of its inputs, and is found by
its own name. With other lists a simulator goes through the same states, gives back the same results
and records the same traces.
-/

namespace LogicBench

namespace Network

def withWires (network : Network) (wires : List Wire) : Network :=
  { network with wires }

variable (network : Network) (wires : List Wire)

@[simp] theorem device?_withWires (id : DeviceId) :
    (network.withWires wires).device? id = network.device? id := rfl

theorem evaluationOrder_withWires :
    (network.withWires wires).evaluationOrder = network.evaluationOrder := rfl

theorem update_withWires (id : DeviceId) :
    (network.withWires wires).update id =
      ((network.update id).1.withWires wires, (network.update id).2) := by
  unfold update
  rw [device?_withWires]
  cases network.device? id with
  | none => rfl
  | some device =>
      have hreads : (network.withWires wires).reads device = network.reads device := rfl
      simp only [hreads]
      cases device.evaluate (network.reads device) with
      | none => rfl
      | some signal =>
          simp only
          split
          · rfl
          · rfl

theorem pass_withWires (order : List DeviceId) :
    (network.withWires wires).pass order =
      ((network.pass order).1.withWires wires, (network.pass order).2) := by
  unfold pass
  generalize false = changed
  induction order generalizing network changed with
  | nil => rfl
  | cons id rest ih =>
      simp only [List.foldl_cons, update_withWires]
      exact ih (network.update id).1 (changed || (network.update id).2)

theorem settleFrom_withWires (order : List DeviceId) (fuel done : Nat) :
    settleFrom order fuel done (network.withWires wires) =
      ((settleFrom order fuel done network).1.withWires wires,
        (settleFrom order fuel done network).2) := by
  induction fuel generalizing network done with
  | zero => rfl
  | succ fuel ih =>
      rw [settleFrom, settleFrom, pass_withWires]
      cases network.pass order with
      | mk next changed =>
          cases changed with
          | false => rfl
          | true => exact ih next (done + 1)

theorem latch_withWires : (network.withWires wires).latch = network.latch.withWires wires := by
  have hlatchAt (network : Network) (id : DeviceId) :
      (network.withWires wires).latchAt id = (network.latchAt id).withWires wires := by
    unfold latchAt
    rw [device?_withWires]
    cases network.device? id with
    | none => rfl
    | some device => rfl
  exact List.foldl_hom (withWires · wires) fun network id => hlatchAt network id

theorem setSwitch_withWires (id : DeviceId) (state : Bool) :
    (network.withWires wires).setSwitch id state =
      (network.setSwitch id state).map (withWires · wires) := by
  unfold setSwitch
  rw [device?_withWires]
  cases network.device? id with
  | none => rfl
  | some device =>
      simp only
      cases device.kind <;> rfl

end Network

namespace Simulator

def withListing (simulator : Simulator) (names : Names) (wires : List Wire) : Simulator :=
  { simulator with names, network := simulator.network.withWires wires }

variable (simulator : Simulator) (names : Names) (wires : List Wire)

theorem executeCycle_withListing :
    (simulator.withListing names wires).executeCycle =
      (simulator.executeCycle.1.withListing names wires, simulator.executeCycle.2) := by
  have hsettle : (simulator.network.withWires wires).advance.settle simulator.order
      simulator.maxPasses = _ :=
    simulator.network.advance.settleFrom_withWires wires simulator.order simulator.maxPasses 0
  unfold executeCycle withListing
  simp only [hsettle]
  rw [Network.settle]
  cases Network.settleFrom simulator.order simulator.maxPasses 0 simulator.network.advance with
  | mk settled passes =>
      cases passes with
      | none => rfl
      | some passes =>
          simp only [Network.latch_withWires]
          rfl

theorem continueRun_withListing (cycles : Nat) :
    (simulator.withListing names wires).continueRun cycles =
      ((simulator.continueRun cycles).1.withListing names wires,
        (simulator.continueRun cycles).2) := by
  induction cycles generalizing simulator with
  | zero => rfl
  | succ cycles ih =>
      rw [continueRun, continueRun, executeCycle_withListing]
      cases simulator.executeCycle with
      | mk next result =>
          cases result with
          | error cause => rfl
          | ok passes => exact ih next

theorem setSwitch_withListing (name : String) (state : Bool) :
    (simulator.withListing names wires).setSwitch name state =
      (simulator.setSwitch name state).map (withListing · names wires) := by
  have hid : (simulator.withListing names wires).network.deviceId? name =
      simulator.network.deviceId? name := rfl
  rw [setSwitch, setSwitch, hid]
  cases simulator.network.deviceId? name with
  | none => rfl
  | some id =>
      have hset : (simulator.withListing names wires).network.setSwitch id state = _ :=
        simulator.network.setSwitch_withWires wires id state
      simp only [hset]
      cases simulator.network.setSwitch id state <;> rfl

theorem addMonitor_withListing (signal : String) :
    (simulator.withListing names wires).addMonitor signal =
      (simulator.addMonitor signal).map (withListing · names wires) := by
  have hresolve : (simulator.withListing names wires).resolveSignal signal =
      simulator.resolveSignal signal := rfl
  rw [addMonitor, addMonitor, hresolve]
  cases simulator.resolveSignal signal with
  | error cause => rfl
  | ok name =>
      have hadd : (simulator.withListing names wires).recorder.add
          (simulator.withListing names wires).network name =
            simulator.recorder.add simulator.network name := rfl
      simp only [bind, Except.bind, hadd]
      cases simulator.recorder.add simulator.network name <;> rfl

theorem removeMonitor_withListing (signal : String) :
    (simulator.withListing names wires).removeMonitor signal =
      (simulator.removeMonitor signal).map (withListing · names wires) := by
  have hresolve : (simulator.withListing names wires).resolveSignal signal =
      simulator.resolveSignal signal := rfl
  rw [removeMonitor, removeMonitor, hresolve]
  cases simulator.resolveSignal signal with
  | error cause => rfl
  | ok name =>
      have hremove : (simulator.withListing names wires).recorder.remove name =
          simulator.recorder.remove name := rfl
      simp only [bind, Except.bind, hremove]
      cases simulator.recorder.remove name <;> rfl

theorem perform_withListing (operation : Operation) :
    (simulator.withListing names wires).perform operation =
      ((simulator.perform operation).1.withListing names wires,
        (simulator.perform operation).2) := by
  cases operation with
  | run cycles => exact simulator.coldStart.continueRun_withListing names wires cycles
  | continueRun cycles => exact simulator.continueRun_withListing names wires cycles
  | executeCycle =>
      rw [perform_executeCycle_eq, perform_executeCycle_eq]
      exact simulator.continueRun_withListing names wires 1
  | setSwitch name state =>
      rw [perform, setSwitch_withListing]
      exact keepOnError_map (withListing · names wires) simulator _
  | addMonitor signal =>
      rw [perform, addMonitor_withListing]
      exact keepOnError_map (withListing · names wires) simulator _
  | removeMonitor signal =>
      rw [perform, removeMonitor_withListing]
      exact keepOnError_map (withListing · names wires) simulator _

/-- Whatever is done with a simulator, its lists make no difference. -/
theorem performAll_withListing (operations : List Operation) :
    (simulator.withListing names wires).performAll operations =
      ((simulator.performAll operations).1.withListing names wires,
        (simulator.performAll operations).2) := by
  induction operations generalizing simulator with
  | nil => rfl
  | cons operation rest ih =>
      have hfirst := simulator.perform_withListing names wires operation
      have hrest := ih (simulator.perform operation).1
      simp only [performAll, hfirst, hrest]

end Simulator

end LogicBench
