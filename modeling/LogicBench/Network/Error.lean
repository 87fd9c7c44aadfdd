import LogicBench.Device.Kind

/-!
# Why a network refuses something

The causes for which a device, a connection or a change of a switch is refused, and the wording of
each.
-/

namespace LogicBench

def maxGateInputs : Nat := 16

/-- Why a network refuses a device, a connection or a change. -/
inductive NetworkError where
  | alreadyDeclared
  /-- Devices of the type need a qualifier. -/
  | missingQualifier (type : DeviceType)
  | invalidArity (arity : Nat)
  | invalidBit
  /-- A clock would toggle after no cycle at all. -/
  | zeroHalfPeriod
  | invalidWaveform
  /-- Devices of the type have no qualifier. -/
  | unexpectedQualifier (type : DeviceType)
  /-- No device has this name or place. -/
  | deviceAbsent
  /-- The device has no pin of this name that fits. -/
  | pinAbsent
  /-- The device has several pins, and none was named. -/
  | pinRequired
  | noInputs
  /-- An input was named where an output is needed. -/
  | inputAsDriver
  /-- An output was named where an input is needed. -/
  | outputAsTarget
  | inputConnected
  | notASwitch
  deriving DecidableEq, Repr

/-- What the qualifier of a device tells, for the types that have one. -/
def DeviceType.qualifierRole? : DeviceType → Option String
  | .switch => some "a switch state (0 or 1)"
  | .clock => some "a clock half-period"
  | .generator => some "a waveform of bits"
  | .gate _ => some "a number of inputs"
  | .xor | .not | .flipFlop => none

def NetworkError.message : NetworkError → String
  | alreadyDeclared => "device is already declared"
  | missingQualifier type => "expected " ++ type.qualifierRole?.getD "no qualifier"
  | invalidArity arity =>
    "number of inputs must be between 1 and " ++ toString maxGateInputs ++ ", got " ++
      toString arity
  | invalidBit => "switch state must be a bit (0 or 1)"
  | zeroHalfPeriod => "clock half-period must be at least 1"
  | invalidWaveform => "signal generator waveform must consist of 0 and 1 bits only"
  | unexpectedQualifier type => type.keyword ++ " devices take no qualifier"
  | deviceAbsent => "device is not declared"
  | pinAbsent => "device has no such pin"
  | pinRequired => "device has several pins here; name one with '.'"
  | noInputs => "device has no inputs to connect to"
  | inputAsDriver => "an input pin cannot drive a connection"
  | outputAsTarget => "an output pin cannot be driven by a connection"
  | inputConnected => "input is already connected"
  | notASwitch => "device is not a switch"

end LogicBench
