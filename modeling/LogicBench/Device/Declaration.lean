import LogicBench.Network.Error
import LogicBench.Text.Decimal

/-!
# Declared devices

A declaration names a type and may add a qualifier, a text of digits: the arity of a gate, the
state of a switch, the half-period of a clock, the waveform of a generator. The other types take
none.
-/

namespace LogicBench

namespace DeviceKind

def gateOfArity (op : GateOp) (arity : Nat) : Except NetworkError DeviceKind :=
  if 1 ≤ arity ∧ arity ≤ maxGateInputs then .ok (gate op arity)
  else .error (.invalidArity arity)

def switchOfBit (qualifier : String) : Except NetworkError DeviceKind :=
  if qualifier = "0" then .ok (switch ⟨false⟩)
  else if qualifier = "1" then .ok (switch ⟨true⟩)
  else .error .invalidBit

/-- The clock with the given half-period, cut to the longest one there is. -/
def clockOfHalfPeriod (halfPeriod : Nat) : Except NetworkError DeviceKind :=
  if halfPeriod = 0 then .error .zeroHalfPeriod
  else .ok (clock (Clock.ofHalfPeriod (min halfPeriod Clock.maxHalfPeriod)))

def generatorOfBits (qualifier : String) : Except NetworkError DeviceKind :=
  match Generator.ofBits? qualifier with
  | some waveform => .ok (generator waveform)
  | none => .error .invalidWaveform

/-- The device that a declaration describes. -/
def ofDeclaration (type : DeviceType) (qualifier : Option String) :
    Except NetworkError DeviceKind :=
  match type, qualifier with
  | .gate op, some text => gateOfArity op (Decimal.count text)
  | .switch, some text => switchOfBit text
  | .clock, some text => clockOfHalfPeriod (Decimal.count text)
  | .generator, some text => generatorOfBits text
  | .xor, none => .ok xor
  | .not, none => .ok not
  | .flipFlop, none => .ok (flipFlop {})
  | type, some _ => .error (.unexpectedQualifier type)
  | type, none => .error (.missingQualifier type)

end DeviceKind

end LogicBench
