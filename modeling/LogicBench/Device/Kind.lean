import LogicBench.Device.FlipFlop
import LogicBench.Device.Gate
import LogicBench.Device.Source
import LogicBench.Pin

/-!
# Kinds of device

A `DeviceType` is what a definition can ask for by a keyword; a `DeviceKind` is a device of such a
type with its parameters and its inner state. The kind fixes the pins.
-/

namespace LogicBench

/-- The types of device that a definition can declare. -/
inductive DeviceType where
  | switch
  | clock
  | generator
  | gate (op : GateOp)
  | xor
  | not
  | flipFlop
  deriving DecidableEq, Repr

namespace DeviceType

def all : List DeviceType :=
  [switch, clock, generator, gate .and, gate .or, gate .nand, gate .nor, xor, not, flipFlop]

def keyword : DeviceType → String
  | switch => "SWITCH"
  | clock => "CLOCK"
  | generator => "SIGGEN"
  | gate .and => "AND"
  | gate .or => "OR"
  | gate .nand => "NAND"
  | gate .nor => "NOR"
  | xor => "XOR"
  | not => "NOT"
  | flipFlop => "DTYPE"

def ofKeyword? (word : String) : Option DeviceType :=
  all.find? fun type => type.keyword = word

def isSource : DeviceType → Bool
  | switch | clock | generator => true
  | _ => false

/-- Whether the outputs of the type are a function of its inputs in the same cycle. -/
def isCombinational : DeviceType → Bool
  | gate _ | xor | not => true
  | _ => false

theorem keyword_of_ofKeyword? {word : String} {type : DeviceType}
    (h : ofKeyword? word = some type) : type.keyword = word := by
  simpa using List.find?_some h

end DeviceType

/-- A device without its name and wiring: the parameters it was declared with and its inner state.
-/
inductive DeviceKind where
  | switch (switch : Switch)
  | clock (clock : Clock)
  | generator (generator : Generator)
  | gate (op : GateOp) (arity : Nat)
  | xor
  | not
  | flipFlop (cell : FlipFlop)
  deriving DecidableEq, Repr

namespace DeviceKind

def type : DeviceKind → DeviceType
  | switch _ => .switch
  | clock _ => .clock
  | generator _ => .generator
  | gate op _ => .gate op
  | xor => .xor
  | not => .not
  | flipFlop _ => .flipFlop

def inputPins : DeviceKind → List InputPin
  | switch _ | clock _ | generator _ => []
  | gate _ arity => (List.range' 1 arity).map InputPin.numbered
  | xor => [.numbered 1, .numbered 2]
  | not => [.numbered 1]
  | flipFlop _ => [.data, .clock, .set, .clear]

def outputPins : DeviceKind → List OutputPin
  | flipFlop _ => [.q, .qBar]
  | _ => [.out]

/-- The kind with its inner state as at the start. The state of a switch is its user's and stays. -/
def reset : DeviceKind → DeviceKind
  | clock c => clock c.reset
  | generator g => generator g.reset
  | flipFlop cell => flipFlop cell.reset
  | kind => kind

/-- The level of an output at the start, before any cycle. -/
def startLevel (kind : DeviceKind) : OutputPin → Bool
  | .qBar => true
  | .q => false
  | .out =>
    match kind with
    | switch s => s.state
    | _ => false

@[simp] theorem type_reset (kind : DeviceKind) : kind.reset.type = kind.type := by
  cases kind <;> rfl

@[simp] theorem inputPins_reset (kind : DeviceKind) : kind.reset.inputPins = kind.inputPins := by
  cases kind <;> rfl

@[simp] theorem outputPins_reset (kind : DeviceKind) : kind.reset.outputPins = kind.outputPins := by
  cases kind <;> rfl

end DeviceKind

end LogicBench
