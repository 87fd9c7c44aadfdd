import LogicBench.SignalName

/-!
# Recorders

A recorder keeps a trace for each of up to sixteen outputs. When it is asked for a sample it looks
at the number of completed cycles: it takes none before the first cycle, and none if that is the
number at which it took the last one.
-/

namespace LogicBench

/-- The largest number of outputs that a recorder monitors. -/
def maxMonitors : Nat := 16

/-- Why a recorder refuses an output. -/
inductive MonitorError where
  | deviceAbsent
  | notAnOutput
  | alreadyMonitored
  | full
  | notMonitored
  deriving DecidableEq, Repr

def MonitorError.message : MonitorError → String
  | deviceAbsent => "device is not declared"
  | notAnOutput => "only output pins can be monitored"
  | alreadyMonitored => "signal is already monitored"
  | full => "at most " ++ toString maxMonitors ++ " signals can be monitored"
  | notMonitored => "signal is not monitored"

/-- The samples of an output; the first one is of the cycle after `startCycle`. -/
structure Trace where
  startCycle : Nat := 0
  samples : Array Signal := #[]
  deriving DecidableEq, Repr

/-- The monitored outputs with their traces, in the order in which they were added, and the cycle
sampled last. -/
structure Recorder where
  entries : List (SignalName × Trace) := []
  lastSampled : Option Nat := none
  deriving DecidableEq, Repr

namespace Recorder

def points (recorder : Recorder) : List SignalName :=
  recorder.entries.map (·.1)

def contains (recorder : Recorder) (name : SignalName) : Bool :=
  recorder.points.contains name

def size (recorder : Recorder) : Nat :=
  recorder.entries.length

def trace? (recorder : Recorder) (name : SignalName) : Option Trace :=
  (recorder.entries.find? fun entry => entry.1 = name).map (·.2)

/-- The recorder with one more output, to be sampled from the next cycle on. -/
def add (recorder : Recorder) (network : Network) (name : SignalName) :
    Except MonitorError Recorder :=
  match network.deviceNamed? name.device with
  | none => .error .deviceAbsent
  | some device =>
    if !device.hasOutput name.pin then .error .notAnOutput
    else if recorder.contains name then .error .alreadyMonitored
    else if maxMonitors ≤ recorder.size then .error .full
    else
      .ok { recorder with entries := recorder.entries ++ [(name, { startCycle := network.cycle })] }

/-- The recorder without an output and its trace. -/
def remove (recorder : Recorder) (name : SignalName) : Except MonitorError Recorder :=
  if recorder.contains name then
    .ok { recorder with entries := recorder.entries.eraseP fun entry => entry.1 = name }
  else .error .notMonitored

/-- Whether a cycle has been completed, and their number is not the one sampled last. -/
def isDue (recorder : Recorder) (network : Network) : Bool :=
  network.cycle ≠ 0 && recorder.lastSampled ≠ some network.cycle

/-- The trace with the level that an output of the network has now. -/
def extend (network : Network) (name : SignalName) (trace : Trace) : Trace :=
  { trace with samples := trace.samples.push ((network.signalNamed? name).getD .low).level }

/-- Takes a sample of each monitored output, if one is due. -/
def sample (recorder : Recorder) (network : Network) : Recorder :=
  if recorder.isDue network then
    { entries := recorder.entries.map fun (name, trace) => (name, extend network name trace)
      lastSampled := some network.cycle }
  else recorder

/-- The recorder with empty traces, as for a network that starts. -/
def reset (recorder : Recorder) : Recorder where
  entries := recorder.entries.map fun (name, _) => (name, {})
  lastSampled := none

/-- The outputs of the network that are not monitored, in declaration order. -/
def unmonitored (recorder : Recorder) (network : Network) : List SignalName :=
  network.signalNames.filter fun name => !recorder.contains name

@[simp] theorem points_reset (recorder : Recorder) : recorder.reset.points = recorder.points := by
  simp [points, reset]

@[simp] theorem points_sample (recorder : Recorder) (network : Network) :
    (recorder.sample network).points = recorder.points := by
  unfold sample
  split <;> simp [points]

end Recorder

end LogicBench
