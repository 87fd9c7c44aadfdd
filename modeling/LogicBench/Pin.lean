import LogicBench.Text.Decimal

/-!
# Pins

A device is wired at its pins. Gate inputs are numbered from one; a flip-flop's pins have names of
their own. `Pin.ofName?` reads the names that a definition may use.
-/

namespace LogicBench

/-- A pin that takes a signal in. -/
inductive InputPin where
  | numbered (index : Nat)
  | data
  | clock
  | set
  | clear
  deriving DecidableEq, Repr

/-- A pin that gives a signal out. -/
inductive OutputPin where
  | out
  | q
  | qBar
  deriving DecidableEq, Repr

inductive Pin where
  | input (pin : InputPin)
  | output (pin : OutputPin)
  deriving DecidableEq, Repr

def InputPin.name : InputPin → String
  | .numbered index => "I" ++ toString index
  | .data => "DATA"
  | .clock => "CLK"
  | .set => "SET"
  | .clear => "CLEAR"

/-- The name by which an output is told from the others of its device; a sole output has none. -/
def OutputPin.suffix? : OutputPin → Option String
  | .out => none
  | .q => some "Q"
  | .qBar => some "QBAR"

namespace Pin

def maxIndex : Nat := 255

/-- A numbered input: `I` and an index that is neither zero nor written with a zero in front. -/
def numbered? : List Char → Option Pin
  | 'I' :: '0' :: _ => none
  | 'I' :: digits =>
    match Decimal.read maxIndex digits with
    | .ok (index + 1) => some (.input (.numbered (index + 1)))
    | _ => none
  | _ => none

def ofName? (text : String) : Option Pin :=
  if text = "DATA" then some (.input .data)
  else if text = "CLK" then some (.input .clock)
  else if text = "SET" then some (.input .set)
  else if text = "CLEAR" then some (.input .clear)
  else if text = "Q" then some (.output .q)
  else if text = "QBAR" then some (.output .qBar)
  else numbered? text.toList

end Pin

end LogicBench
