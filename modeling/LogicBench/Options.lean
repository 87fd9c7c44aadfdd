import LogicBench.Simulator

/-!
# Options

What can be asked of the program besides the definition: the number of cycles, switches to be set,
the number of passes allowed in a cycle, and how much to tell. The values are read in the order
given. The first that cannot be read is reported, or that is a second value of what has only one.
-/

namespace LogicBench

structure Options where
  cycles : Nat := 10
  switches : List (String × Bool) := []
  maxPasses : Nat := defaultMaxPasses
  verbosity : Nat := 0
  deriving DecidableEq, Repr

inductive Argument where
  | cycles (text : String)
  | switch (text : String)
  | maxPasses (text : String)
  | verbose
  deriving DecidableEq, Repr

/-- What is asked for, for those arguments of which there may be only one. -/
def Argument.single? : Argument → Option String
  | cycles _ => some "--cycles <CYCLES>"
  | maxPasses _ => some "--max-passes <MAX_PASSES>"
  | switch _ | verbose => none

/-- Why the value of a switch option cannot be read. -/
inductive SwitchFlaw where
  /-- There is no equals sign. -/
  | noState (text : String)
  /-- What is behind the equals sign is not a bit. -/
  | invalidState (state : String)
  deriving DecidableEq, Repr

inductive ArgumentError where
  | invalidNumber (option value : String) (flaw : Decimal.Flaw)
  | invalidSwitch (value : String) (flaw : SwitchFlaw)
  | repeated (option : String)
  deriving DecidableEq, Repr

def SwitchFlaw.message : SwitchFlaw → String
  | noState text => "expected NAME=0|1, got '" ++ text ++ "'"
  | invalidState state => "switch state must be 0 or 1, got '" ++ state ++ "'"

/-- How the program is called, shown where it was called in another way. -/
def usage : String :=
  "\n\nUsage: logsim [OPTIONS] <DEFINITION_FILE>"

def ArgumentError.message (error : ArgumentError) : String :=
  let invalid (option value reason : String) : String :=
    "invalid value '" ++ value ++ "' for '" ++ option ++ "': " ++ reason
  let reason :=
    match error with
    | invalidNumber option value flaw => invalid option value flaw.message
    | invalidSwitch value flaw => invalid "--set <NAME=0|1>" value flaw.message
    | repeated option => "the argument '" ++ option ++ "' cannot be used multiple times" ++ usage
  "error: " ++ reason ++ "\n\nFor more information, try '--help'.\n"

namespace Options

/-- The largest number that an option can have, the largest 64-bit value. -/
def maxNumber : Nat := 18446744073709551615

/-- Reads `NAME=0` or `NAME=1`; the name is what is before the first equals sign. -/
def readSwitch (text : String) : Except SwitchFlaw (String × Bool) :=
  match text.toList.dropWhile (· ≠ '=') with
  | [] => .error (.noState text)
  | _ :: state =>
    let name := String.ofList (text.toList.takeWhile (· ≠ '='))
    if state = ['0'] then .ok (name, false)
    else if state = ['1'] then .ok (name, true)
    else .error (.invalidState (String.ofList state))

def readNumber (option text : String) : Except ArgumentError Nat :=
  match Decimal.read maxNumber text.toList with
  | .ok number => .ok number
  | .error flaw => .error (.invalidNumber option text flaw)

def add (options : Options) : Argument → Except ArgumentError Options
  | .cycles text => do
    let cycles ← readNumber "--cycles <CYCLES>" text
    return { options with cycles }
  | .maxPasses text => do
    let maxPasses ← readNumber "--max-passes <MAX_PASSES>" text
    return { options with maxPasses }
  | .switch text =>
    match readSwitch text with
    | .ok switch => .ok { options with switches := options.switches ++ [switch] }
    | .error flaw => .error (.invalidSwitch text flaw)
  | .verbose => .ok { options with verbosity := options.verbosity + 1 }

/-- The options with arguments added one after another. What `given` lists has been asked for
before, and is refused. -/
def addAll (given : List String) (options : Options) :
    List Argument → Except ArgumentError Options
  | [] => .ok options
  | argument :: rest =>
    match argument.single?.filter given.contains with
    | some option => .error (.repeated option)
    | none => do addAll (argument.single?.toList ++ given) (← options.add argument) rest

def ofArguments (arguments : List Argument) : Except ArgumentError Options :=
  addAll [] {} arguments

def shows (options : Options) (level : Notice.Level) : Bool :=
  match level with
  | .warn => true
  | .debug => 2 ≤ options.verbosity
  | .trace => 3 ≤ options.verbosity

end Options

end LogicBench
