import LogicBench.Network.Basic

/-!
# Signal names

Every output of a network has a name: that of its device, and behind a dot the pin if the device has
several outputs. `SignalName.ofText?` finds the output with a name in a network.
-/

namespace LogicBench

/-- An output, known by the name of its device and its pin. -/
structure SignalName where
  device : String
  pin : OutputPin
  deriving DecidableEq, Repr

namespace SignalName

def text (name : SignalName) : String :=
  match name.pin.suffix? with
  | some suffix => name.device ++ "." ++ suffix
  | none => name.device

/-- A text cut at its first dot: the part before it, and the part behind it if there is a dot. -/
def split (text : String) : String × Option String :=
  let before := text.toList.takeWhile (· ≠ '.')
  match text.toList.dropWhile (· ≠ '.') with
  | [] => (text, none)
  | _ :: behind => (String.ofList before, some (String.ofList behind))

/-- The output of a network that a text names. -/
def ofText? (network : Network) (text : String) : Option SignalName := do
  let (owner, pinText) := split text
  let device ← network.deviceNamed? owner
  let pin ←
    match pinText with
    | some pinText => (Pin.ofName? pinText).map some
    | none => some none
  let output ← (device.resolveOutput pin).toOption
  return ⟨owner, output⟩

end SignalName

def Network.signalNames (network : Network) : List SignalName :=
  network.devices.flatMap fun device => device.outputs.pins.map fun pin => ⟨device.name, pin⟩

def Network.signalNamed? (network : Network) (name : SignalName) : Option Signal :=
  (network.deviceNamed? name.device).bind (·.output? name.pin)

end LogicBench
