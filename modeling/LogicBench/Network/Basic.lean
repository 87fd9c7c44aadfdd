import LogicBench.Device.Basic

/-!
# Networks

A network is a list of devices with distinct names and the wires between them. A device is known
by the place of its declaration. Adding a device or a wire either gives the larger network or the
cause of its refusal.
-/

namespace LogicBench

/-- Devices, the wires between them in the order made, and the number of completed cycles. -/
structure Network where
  devices : List Device := []
  wires : List Wire := []
  cycle : Nat := 0
  deriving DecidableEq, Repr

namespace Network

def deviceId? (network : Network) (name : String) : Option DeviceId :=
  network.devices.findIdx? fun device => device.name = name

def device? (network : Network) (id : DeviceId) : Option Device :=
  network.devices[id]?

def deviceNamed? (network : Network) (name : String) : Option Device :=
  network.devices.find? fun device => device.name = name

def findDevice? (network : Network) (name : String) : Option (DeviceId × Device) :=
  (network.deviceId? name).bind fun id => (network.device? id).map fun device => (id, device)

def ids (network : Network) : List DeviceId :=
  List.range network.devices.length

/-- The places of the devices with a property, in declaration order. -/
def idsWhere (network : Network) (p : Device → Bool) : List DeviceId :=
  network.ids.filter fun id => (network.device? id).any p

def devicesOfType (network : Network) (type : DeviceType) : List DeviceId :=
  network.idsWhere fun device => device.type = type

/-- The network with one more device, and the place of that device. -/
def addDevice (network : Network) (name : String) (kind : DeviceKind) :
    Except NetworkError (Network × DeviceId) :=
  match network.deviceId? name with
  | some _ => .error .alreadyDeclared
  | none =>
    .ok ({ network with devices := network.devices ++ [Device.ofKind name kind] },
      network.devices.length)

def connect (network : Network) (source : Driver) (id : DeviceId) (pin : InputPin) :
    Except NetworkError Network :=
  match network.device? source.device, network.device? id with
  | some driving, some driven =>
    if driving.hasOutput source.pin then
      match driven.bind pin source with
      | .ok bound =>
        .ok { network with
          devices := network.devices.set id bound
          wires := network.wires ++ [⟨source, id, pin⟩] }
      | .error cause => .error cause
    else .error .pinAbsent
  | _, _ => .error .deviceAbsent

/-- The number of inputs that a device drives. -/
def fanout (network : Network) (id : DeviceId) : Nat :=
  network.wires.countP fun wire => wire.source.device = id

/-- The inputs without a driver, in declaration order. -/
def unbound (network : Network) : List (DeviceId × InputPin) :=
  network.devices.zipIdx.flatMap fun (device, id) => device.unbound.map fun pin => (id, pin)

/-- Whether there is a device and every input has a driver. -/
def isComplete (network : Network) : Bool :=
  !network.devices.isEmpty && network.unbound.isEmpty

def setDevice (network : Network) (id : DeviceId) (device : Device) : Network :=
  { network with devices := network.devices.set id device }

/-- The signal of an output, if there is such a device and pin. -/
def signal? (network : Network) (driver : Driver) : Option Signal :=
  (network.device? driver.device).bind (·.output? driver.pin)

/-- What a device reads at an input; an input without a driver reads low. -/
def reads (network : Network) (device : Device) (pin : InputPin) : Signal :=
  ((device.driver? pin).bind network.signal?).getD .low

def setSwitch (network : Network) (id : DeviceId) (state : Bool) : Except NetworkError Network :=
  match network.device? id with
  | some device =>
    match device.kind with
    | .switch switch =>
      .ok (network.setDevice id { device with kind := .switch (switch.set state) })
    | _ => .error .notASwitch
  | none => .error .deviceAbsent

end Network

end LogicBench
