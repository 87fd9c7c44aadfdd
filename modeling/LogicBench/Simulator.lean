import LogicBench.Definition.Basic
import LogicBench.Network.Order
import LogicBench.Network.Settle

/-!
# Simulators

A simulator runs a network cycle by cycle and records the monitored outputs. In a cycle the
sources and flip-flops publish, the combinational devices settle, the flip-flops latch and a
sample is taken. A cycle in which the network does not settle fails and has not happened: the
devices are as before.
-/

namespace LogicBench

/-- The number of passes after which a cycle fails, if nothing else is asked for. -/
def defaultMaxPasses : Nat := 20

inductive SimulatorError where
  /-- The definition has this many errors. -/
  | invalidDefinition (errors : Nat)
  /-- The network did not settle in a cycle within the passes allowed. -/
  | notSettled (cycle passes : Nat)
  /-- Nothing in the network is named so. -/
  | unknownSignal (signal : String)
  /-- The device or output named so does not allow the operation. -/
  | network (signal : String) (cause : NetworkError)
  /-- The recorder does not allow the operation on the output named so. -/
  | monitor (signal : String) (cause : MonitorError)
  /-- No passes are allowed, so that no cycle could ever be completed. -/
  | noPasses
  deriving DecidableEq, Repr

namespace SimulatorError

def message : SimulatorError → String
  | invalidDefinition errors =>
    "Definition has " ++ toString errors ++ " error(s) and cannot be simulated"
  | notSettled cycle passes =>
    "Network did not settle in cycle " ++ toString cycle ++ " within " ++ toString passes ++
      " passes"
  | unknownSignal signal => "Unknown signal '" ++ signal ++ "'"
  | network signal cause => "Cannot apply to '" ++ signal ++ "': " ++ cause.message
  | monitor signal cause => "Cannot monitor '" ++ signal ++ "': " ++ cause.message
  | noPasses => "Invalid simulation parameter: max passes must be at least 1"

def isConvergenceFailure : SimulatorError → Bool
  | notSettled .. => true
  | _ => false

end SimulatorError

/-- A network that is being simulated, with the table of names it was read with, the recorder of its
monitored outputs, the number of passes allowed in a cycle and the order of evaluation. -/
structure Simulator where
  names : Names
  network : Network
  recorder : Recorder
  maxPasses : Nat
  order : List DeviceId
  deriving DecidableEq, Repr

namespace Simulator

def ofNetwork (names : Names) (network : Network) (recorder : Recorder) (maxPasses : Nat) :
    Simulator :=
  { names, network, recorder, maxPasses, order := network.evaluationOrder }

/-- The simulator of a definition, which must have no errors. -/
def ofDefinition (definition : Definition) (maxPasses : Nat) : Except SimulatorError Simulator :=
  if maxPasses = 0 then .error .noPasses
  else if definition.hasErrors then .error (.invalidDefinition definition.errors.length)
  else .ok (ofNetwork definition.names definition.network definition.recorder maxPasses)

def cycleCount (simulator : Simulator) : Nat :=
  simulator.network.cycle

/-- Runs one cycle; the result is the number of passes in which the network settled. When it does
not settle, its devices are put back. -/
def executeCycle (simulator : Simulator) : Simulator × Except SimulatorError Nat :=
  let saved := simulator.network.devices
  match simulator.network.advance.settle simulator.order simulator.maxPasses with
  | (network, some passes) =>
    let network := network.latch.finishCycle
    ({ simulator with network, recorder := simulator.recorder.sample network }, .ok passes)
  | (network, none) =>
    let network := { network with devices := saved }
    ({ simulator with network }, .error (.notSettled (network.cycle + 1) simulator.maxPasses))

/-- Runs further cycles, up to the first that fails. -/
def continueRun (simulator : Simulator) : Nat → Simulator × Except SimulatorError Unit
  | 0 => (simulator, .ok ())
  | cycles + 1 =>
    match simulator.executeCycle with
    | (next, .ok _) => continueRun next cycles
    | (next, .error cause) => (next, .error cause)

/-- The simulator at the start, with empty traces. -/
def coldStart (simulator : Simulator) : Simulator :=
  { simulator with
    network := simulator.network.coldStart
    recorder := simulator.recorder.reset }

def run (simulator : Simulator) (cycles : Nat) : Simulator × Except SimulatorError Unit :=
  simulator.coldStart.continueRun cycles

/-- The simulator with a switch in another state, which its output shows from the next cycle on. -/
def setSwitch (simulator : Simulator) (name : String) (state : Bool) :
    Except SimulatorError Simulator :=
  match simulator.network.deviceId? name with
  | none => .error (.unknownSignal name)
  | some id =>
    match simulator.network.setSwitch id state with
    | .ok network => .ok { simulator with network }
    | .error cause => .error (.network name cause)

/-- The output that a text names, or why it names none. -/
def resolveSignal (simulator : Simulator) (signal : String) : Except SimulatorError SignalName :=
  let (owner, pinText) := SignalName.split signal
  match simulator.network.deviceNamed? owner with
  | none => .error (.unknownSignal signal)
  | some device =>
    let resolve (pin : Option Pin) : Except SimulatorError SignalName :=
      match device.resolveOutput pin with
      | .ok pin => .ok ⟨owner, pin⟩
      | .error cause => .error (.network signal cause)
    match pinText with
    | none => resolve none
    | some text =>
      match Pin.ofName? text with
      | some pin => resolve (some pin)
      | none => .error (.unknownSignal signal)

/-- Monitors a signal from the next cycle on. -/
def addMonitor (simulator : Simulator) (signal : String) : Except SimulatorError Simulator := do
  let name ← simulator.resolveSignal signal
  match simulator.recorder.add simulator.network name with
  | .ok recorder => return { simulator with recorder }
  | .error cause => throw (.monitor signal cause)

def removeMonitor (simulator : Simulator) (signal : String) : Except SimulatorError Simulator := do
  let name ← simulator.resolveSignal signal
  match simulator.recorder.remove name with
  | .ok recorder => return { simulator with recorder }
  | .error cause => throw (.monitor signal cause)

/-- The names of the monitored outputs, in the order added, and of the others, in declaration
order. -/
def signalNames (simulator : Simulator) : List String × List String :=
  (simulator.recorder.points.map SignalName.text,
    (simulator.recorder.unmonitored simulator.network).map SignalName.text)

def trace? (simulator : Simulator) (signal : String) : Option Trace :=
  (SignalName.ofText? simulator.network signal).bind simulator.recorder.trace?

end Simulator

section

variable {ε σ τ : Type} {state : σ} {result : Except ε σ}

/-- The state after a step that may be refused, and what came of the step; a refused one changes
nothing. -/
def keepOnError (state : σ) : Except ε σ → σ × Except ε Unit
  | .ok next => (next, .ok ())
  | .error cause => (state, .error cause)

theorem keepOnError_keeps (p : σ → Prop) (h : p state)
    (hnext : ∀ {next}, result = .ok next → p next) : p (keepOnError state result).1 := by
  cases result with
  | ok next => exact hnext rfl
  | error cause => exact h

theorem keepOnError_congr (f : σ → τ) (hnext : ∀ {next}, result = .ok next → f next = f state) :
    f (keepOnError state result).1 = f state :=
  keepOnError_keeps (fun next => f next = f state) rfl hnext

theorem keepOnError_of_error {cause : ε} (h : (keepOnError state result).2 = .error cause) :
    (keepOnError state result).1 = state := by
  cases result with
  | ok next => cases h
  | error _ => rfl

theorem keepOnError_map (f : σ → τ) (state : σ) (result : Except ε σ) :
    keepOnError (f state) (result.map f) =
      (f (keepOnError state result).1, (keepOnError state result).2) := by
  cases result <;> rfl

end

inductive Operation where
  | run (cycles : Nat)
  | continueRun (cycles : Nat)
  | executeCycle
  | setSwitch (name : String) (state : Bool)
  | addMonitor (signal : String)
  | removeMonitor (signal : String)
  deriving DecidableEq, Repr

namespace Simulator

def perform (simulator : Simulator) : Operation → Simulator × Except SimulatorError Unit
  | .run cycles => simulator.run cycles
  | .continueRun cycles => simulator.continueRun cycles
  | .executeCycle =>
    match simulator.executeCycle with
    | (next, .ok _) => (next, .ok ())
    | (next, .error cause) => (next, .error cause)
  | .setSwitch name state => keepOnError simulator (simulator.setSwitch name state)
  | .addMonitor signal => keepOnError simulator (simulator.addMonitor signal)
  | .removeMonitor signal => keepOnError simulator (simulator.removeMonitor signal)

/-- Carries out operations one after another, whether they fail or not. -/
def performAll (simulator : Simulator) :
    List Operation → Simulator × List (Except SimulatorError Unit)
  | [] => (simulator, [])
  | operation :: rest =>
    let (next, result) := simulator.perform operation
    let (last, results) := next.performAll rest
    (last, result :: results)

end Simulator

end LogicBench
