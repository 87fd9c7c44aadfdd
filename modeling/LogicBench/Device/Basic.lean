import LogicBench.Network.Error
import LogicBench.PinMap
import LogicBench.Wire

/-!
# Devices

A device is a kind with a name, the driver of each input and the signal of each output. Within a
cycle a device takes part in up to three ways: `advance` publishes what a source or flip-flop has
to show, `evaluate` computes a combinational output, `latch` lets a flip-flop take in its inputs.
-/

namespace LogicBench

structure Device where
  name : String
  kind : DeviceKind
  inputs : PinMap InputPin (Option Driver)
  outputs : PinMap OutputPin Signal
  deriving DecidableEq, Repr

namespace Device

/-- The device as it was at the start: its inner state reset, its outputs at their first levels. -/
def coldStart (device : Device) : Device :=
  { device with
    kind := device.kind.reset
    outputs := device.outputs.map fun (pin, _) => (pin, .ofLevel (device.kind.startLevel pin)) }

/-- A new device: nothing is connected to it, and it is ready to start. -/
def ofKind (name : String) (kind : DeviceKind) : Device :=
  coldStart
    { name
      kind
      inputs := kind.inputPins.map fun pin => (pin, none)
      outputs := kind.outputPins.map fun pin => (pin, .low) }

def type (device : Device) : DeviceType :=
  device.kind.type

/-- Whether a device computes its output from its inputs in the same cycle. -/
def isCombinational (device : Device) : Bool :=
  device.type.isCombinational

def hasInput (device : Device) (pin : InputPin) : Bool :=
  device.inputs.has pin

def hasOutput (device : Device) (pin : OutputPin) : Bool :=
  device.outputs.has pin

def driver? (device : Device) (pin : InputPin) : Option Driver :=
  (device.inputs.get? pin).join

def output? (device : Device) (pin : OutputPin) : Option Signal :=
  device.outputs.get? pin

def unbound (device : Device) : List InputPin :=
  (device.inputs.filter fun (_, driver) => driver.isNone).map (·.1)

/-- The output meant by a reference to the device, with or without a pin. -/
def resolveOutput (device : Device) : Option Pin → Except NetworkError OutputPin
  | none =>
    match device.outputs.sole? with
    | some pin => .ok pin
    | none => .error .pinRequired
  | some (.output pin) => if device.hasOutput pin then .ok pin else .error .pinAbsent
  | some (.input pin) => if device.hasInput pin then .error .inputAsDriver else .error .pinAbsent

/-- The input meant by a reference to the device, with or without a pin. -/
def resolveInput (device : Device) (pin : Option Pin) : Except NetworkError InputPin :=
  if device.inputs.isEmpty then .error .noInputs
  else
    match pin with
    | none =>
      match device.inputs.sole? with
      | some pin => .ok pin
      | none => .error .pinRequired
    | some (.input pin) => if device.hasInput pin then .ok pin else .error .pinAbsent
    | some (.output pin) =>
      if device.hasOutput pin then .error .outputAsTarget else .error .pinAbsent

/-- The device with an input connected to a driver; an input takes only one. -/
def bind (device : Device) (pin : InputPin) (driver : Driver) : Except NetworkError Device :=
  match device.inputs.get? pin with
  | none => .error .pinAbsent
  | some (some _) => .error .inputConnected
  | some none => .ok { device with inputs := device.inputs.set pin (some driver) }

def setOutput (device : Device) (pin : OutputPin) (signal : Signal) : Device :=
  { device with outputs := device.outputs.set pin signal }

/-- The device with an output at the given level, marked as an edge if the level changes. -/
def drive (device : Device) (pin : OutputPin) (isHigh : Bool) : Device :=
  device.setOutput pin (((device.output? pin).getD .low).transition isHigh)

/-- The output of a combinational device whose inputs read as given; the others have none. -/
def evaluate (device : Device) (read : InputPin → Signal) : Option Signal :=
  match device.kind with
  | .gate op _ => some (op.evaluate (device.inputs.pins.map read))
  | .xor => some ((read (.numbered 1)).xor (read (.numbered 2)))
  | .not => some (read (.numbered 1)).not
  | _ => none

/-- The device after it has published what the new cycle starts from. Combinational devices have
nothing to publish. -/
def advance (device : Device) : Device :=
  match device.kind with
  | .switch switch => device.drive .out switch.state
  | .clock clock => { device with kind := .clock clock.tick }.drive .out clock.tick.isHigh
  | .generator generator =>
    { device with kind := .generator generator.tick }.drive .out generator.bit
  | .flipFlop cell => (device.drive .q cell.stored).drive .qBar (!cell.stored)
  | .gate _ _ | .xor | .not => device

/-- The device after a flip-flop has taken in what its inputs read. -/
def latch (device : Device) (read : InputPin → Signal) : Device :=
  match device.kind with
  | .flipFlop cell =>
    { device with
      kind := .flipFlop (cell.latch (read .data).isHigh (read .clock).isHigh (read .set).isHigh
        (read .clear).isHigh) }
  | _ => device

@[simp] theorem inputs_coldStart (device : Device) : device.coldStart.inputs = device.inputs := rfl

@[simp] theorem name_ofKind (name : String) (kind : DeviceKind) :
    (ofKind name kind).name = name := rfl

@[simp] theorem type_coldStart (device : Device) : device.coldStart.type = device.type :=
  DeviceKind.type_reset device.kind

@[simp] theorem type_ofKind (name : String) (kind : DeviceKind) :
    (ofKind name kind).type = kind.type :=
  DeviceKind.type_reset kind

end Device

end LogicBench
