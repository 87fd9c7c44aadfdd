import LogicBench.Definition.Outline
import LogicBench.Device.Declaration
import LogicBench.Notice
import LogicBench.Recorder

/-!
# Drafts

A draft is a definition under construction. The entries of an outline are applied to it one by
one: an item that fits extends the network or the recorder, one that does not leaves a diagnostic
and nothing else. At the end the network as a whole is checked.

One mistake should be reported once. A diagnostic that directly follows another at the same place
is dropped; inputs without a driver are not reported when a connection to them may have been lost;
unused devices are only reported in a definition without errors.
-/

namespace LogicBench

namespace Reference

/-- The device meant by a reference, and the pin if it names one. -/
def locate (network : Network) (reference : Reference) :
    Except NetworkError (DeviceId × Device × Option Pin) :=
  match network.findDevice? reference.device with
  | none => .error .deviceAbsent
  | some (id, device) =>
    match reference.pin with
    | none => .ok (id, device, none)
    | some text =>
      match Pin.ofName? text with
      | some pin => .ok (id, device, some pin)
      | none => .error .pinAbsent

def driver (network : Network) (reference : Reference) : Except NetworkError Driver := do
  let (id, device, pin) ← reference.locate network
  let output ← device.resolveOutput pin
  return ⟨id, output⟩

def target (network : Network) (reference : Reference) :
    Except NetworkError (DeviceId × InputPin) := do
  let (id, device, pin) ← reference.locate network
  let input ← device.resolveInput pin
  return (id, input)

end Reference

/-- A definition under construction. `declaredAt` gives the place of the declaration of each device,
`implicated` the devices to which a connection was refused, and `connectIncomplete` tells whether a
connection could not even be read. -/
structure Draft where
  network : Network := {}
  recorder : Recorder := {}
  diagnostics : List Diagnostic := []
  declaredAt : List Position := []
  implicated : List DeviceId := []
  connectIncomplete : Bool := false
  notices : List Notice := []
  deriving DecidableEq, Repr

namespace Draft

def note (draft : Draft) (notice : Notice) : Draft :=
  { draft with notices := draft.notices ++ [notice] }

/-- Records a diagnostic found in a section or between sections, unless it follows the one before.
-/
def report (draft : Draft) (within : Option Section) (diagnostic : Diagnostic) : Draft :=
  if draft.diagnostics.getLast?.any diagnostic.follows then draft.note (.dropped diagnostic)
  else
    { draft with
      diagnostics := draft.diagnostics ++ [diagnostic]
      connectIncomplete :=
        draft.connectIncomplete || (diagnostic.isSyntactic && within = some .connect) }

/-- Records an error about the meaning of the text at a place. -/
def refuse (draft : Draft) (position : Position) (message : String) : Draft :=
  draft.report none ⟨.semantic, position, message⟩

/-- Records why something about a name in the text is refused. -/
def refuseName (draft : Draft) (position : Position) (name message : String) : Draft :=
  draft.refuse position ("`" ++ name ++ "`: " ++ message)

/-- Declares a device. A flaw of the qualifier is reported at the qualifier, its absence at the
kind. -/
def declare (draft : Draft) (declared : DeviceDeclaration) : Draft :=
  match declared.kind with
  | .unknown word => draft.refuse declared.kindPosition ("`" ++ word ++ "` is not a device kind")
  | .known type =>
    match DeviceKind.ofDeclaration type (declared.qualifier.map (·.digits)) with
    | .error cause =>
      draft.refuseName ((declared.qualifier.map (·.position)).getD declared.kindPosition)
        declared.name cause.message
    | .ok kind =>
      match draft.network.addDevice declared.name kind with
      | .error cause => draft.refuseName declared.position declared.name cause.message
      | .ok (network, _) =>
        let grown := { draft with network, declaredAt := draft.declaredAt ++ [declared.position] }
        grown.note (.declared declared.name type)

/-- The network with a connection, or the reference that cannot be followed and why. -/
def connected (network : Network) (source destination : Reference) :
    Except (Reference × NetworkError) Network :=
  match source.driver network with
  | .error cause => .error (source, cause)
  | .ok driver =>
    match destination.target network with
    | .error cause => .error (destination, cause)
    | .ok (id, pin) =>
      match network.connect driver id pin with
      | .error cause => .error (destination, cause)
      | .ok network => .ok network

/-- Takes down that a connection to a device was refused, if there is such a device. -/
def implicate (draft : Draft) (name : String) : Draft :=
  { draft with implicated := draft.implicated ++ (draft.network.deviceId? name).toList }

def connect (draft : Draft) (source destination : Reference) : Draft :=
  match connected draft.network source destination with
  | .ok network => { draft with network }
  | .error (reference, cause) =>
    (draft.implicate destination.device).refuseName reference.position reference.text cause.message

/-- The recorder with one more signal, or the wording of why not. -/
def monitored (network : Network) (recorder : Recorder) (reference : Reference) :
    Except String Recorder :=
  match reference.driver network with
  | .error .deviceAbsent => .error MonitorError.deviceAbsent.message
  | .error .inputAsDriver => .error MonitorError.notAnOutput.message
  | .error cause => .error cause.message
  | .ok driver =>
    match recorder.add network ⟨reference.device, driver.pin⟩ with
    | .ok recorder => .ok recorder
    | .error cause => .error cause.message

def monitor (draft : Draft) (reference : Reference) : Draft :=
  match monitored draft.network draft.recorder reference with
  | .ok recorder => { draft with recorder }
  | .error message => draft.refuseName reference.position reference.text message

def applyItem (draft : Draft) : Item → Draft
  | .device declared => draft.declare declared
  | .connection source destination => draft.connect source destination
  | .signal reference => draft.monitor reference

def apply (draft : Draft) : Entry → Draft
  | .opening opened => draft.note (.entering opened)
  | .item item => draft.applyItem item
  | .problem within diagnostic => draft.report within diagnostic

def declarationOf (draft : Draft) (id : DeviceId) : Position :=
  draft.declaredAt[id]?.getD default

/-- How a message lists the inputs without a driver. -/
def unboundMessage (pins : List InputPin) : String :=
  match pins with
  | [pin] => "input " ++ pin.name ++ " is not connected"
  | pins => "inputs " ++ ", ".intercalate (pins.map InputPin.name) ++ " are not connected"

/-- Reports the inputs of a device that have no driver, if any and if no connection to it was
refused. -/
def checkInputs (draft : Draft) (device : Device) (id : DeviceId) : Draft :=
  if device.unbound.isEmpty || draft.implicated.contains id then draft
  else draft.refuseName (draft.declarationOf id) device.name (unboundMessage device.unbound)

/-- Reports the inputs without a driver, device by device. -/
def checkUnbound (draft : Draft) : Draft :=
  if draft.connectIncomplete then draft.note .unboundSkipped
  else
    draft.network.devices.zipIdx.foldl (fun draft (device, id) => draft.checkInputs device id) draft

/-- Warns of a device that drives nothing and has no monitored output. -/
def checkUse (draft : Draft) (device : Device) (id : DeviceId) : Draft :=
  if draft.network.fanout id = 0 && draft.recorder.points.all (·.device ≠ device.name) then
    draft.report none
      ⟨.warning, draft.declarationOf id,
        "`" ++ device.name ++ "` drives nothing and is not monitored"⟩
  else draft

/-- Warns of the devices that are not used, in a definition without errors. -/
def checkUnused (draft : Draft) : Draft :=
  if draft.diagnostics.any Diagnostic.isError then draft
  else draft.network.devices.zipIdx.foldl (fun draft (device, id) => draft.checkUse device id) draft

def close (draft : Draft) : Draft :=
  draft.note
    (.parsed draft.network.devices.length draft.network.wires.length draft.recorder.size
      draft.diagnostics.length)

/-- The draft that an outline describes, checked as a whole. -/
def ofOutline (outline : Outline) : Draft :=
  (outline.entries.foldl apply {}).checkUnbound.checkUnused

def ofTokens (stream : TokenStream) : Draft :=
  if stream.tokens.isEmpty then (({} : Draft).refuse stream.stop "definition is empty").close
  else (ofOutline (.ofTokens stream)).close

end Draft

end LogicBench
