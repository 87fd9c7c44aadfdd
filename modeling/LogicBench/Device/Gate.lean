import LogicBench.Signal

/-!
# Gates

The logic functions of the combinational devices. Only the levels of the inputs matter, and the
result is a steady signal.
-/

namespace LogicBench

/-- The function of a gate with any number of inputs. -/
inductive GateOp where
  | and
  | or
  | nand
  | nor
  deriving DecidableEq, Repr

namespace GateOp

def onLevels (op : GateOp) (levels : List Bool) : Bool :=
  match op with
  | and => levels.all id
  | or => levels.any id
  | nand => !levels.all id
  | nor => !levels.any id

/-- The output of a gate whose inputs show the given signals. -/
def evaluate (op : GateOp) (inputs : List Signal) : Signal :=
  Signal.ofLevel (op.onLevels (inputs.map Signal.isHigh))

end GateOp

namespace Signal

def xor (a b : Signal) : Signal :=
  ofLevel (a.isHigh != b.isHigh)

def not (a : Signal) : Signal :=
  ofLevel (!a.isHigh)

end Signal

end LogicBench
