import LogicBench.Pin

/-!
# Wires

A wire leads from an output pin, its driver, to one input pin. Devices are told apart by the place
of their declaration, counted from zero.
-/

namespace LogicBench

/-- The place of a device among the declared ones. -/
abbrev DeviceId := Nat

/-- An output pin of a device, as the driver of wires. -/
structure Driver where
  device : DeviceId
  pin : OutputPin
  deriving DecidableEq, Repr

/-- A connection from a driver to an input pin of a device. -/
structure Wire where
  source : Driver
  device : DeviceId
  pin : InputPin
  deriving DecidableEq, Repr

end LogicBench
