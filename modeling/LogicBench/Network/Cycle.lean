import LogicBench.Network.Basic

/-!
# The phases of a cycle

The steps from which a cycle is made, on the network as a whole: a cold start, the publishing of
sources and flip-flops, the update of one combinational device, the latching of the flip-flops.
Only outputs and inner states change; names and wires stay.
-/

namespace LogicBench.Network

/-- Every device as it was at the start, and no cycle completed. -/
def coldStart (network : Network) : Network :=
  { network with devices := network.devices.map Device.coldStart, cycle := 0 }

/-- Every source and flip-flop has published what the new cycle starts from. -/
def advance (network : Network) : Network :=
  { network with devices := network.devices.map Device.advance }

/-- Brings the output of one combinational device up to date with its inputs, and tells whether that
changed it. -/
def update (network : Network) (id : DeviceId) : Network × Bool :=
  match network.device? id with
  | none => (network, false)
  | some device =>
    match device.evaluate (network.reads device) with
    | none => (network, false)
    | some signal =>
      if (device.output? .out).any (· ≠ signal) then
        (network.setDevice id (device.setOutput .out signal), true)
      else (network, false)

def latchAt (network : Network) (id : DeviceId) : Network :=
  match network.device? id with
  | none => network
  | some device => network.setDevice id (device.latch (network.reads device))

/-- Lets the flip-flops take in their inputs, one after another. -/
def latch (network : Network) : Network :=
  (network.devicesOfType .flipFlop).foldl latchAt network

def finishCycle (network : Network) : Network :=
  { network with cycle := network.cycle + 1 }

end LogicBench.Network
