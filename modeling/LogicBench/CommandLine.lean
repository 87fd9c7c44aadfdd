import LogicBench.Options

/-!
# Command lines

The words of a command line, taken apart into the path of the definition and the options. The
value of an option is either joined to it or the next word; the options without a value can share
a dash.
-/

namespace LogicBench

/-- Why a command line cannot be taken apart. -/
inductive UsageError where
  | noDefinition
  | missingValue (option : String)
  | unexpected (word : String)
  deriving DecidableEq, Repr

/-- The wording of why a command line cannot be taken apart. -/
def UsageError.message (error : UsageError) : String :=
  let reason :=
    match error with
    | noDefinition => "the following required arguments were not provided:\n  <DEFINITION_FILE>"
    | missingValue option => "a value is required for '" ++ option ++ "' but none was supplied"
    | unexpected word => "unexpected argument '" ++ word ++ "' found"
  "error: " ++ reason ++ usage ++ "\n\nFor more information, try '--help'.\n"

/-- The path of the definition, if given so far, and the options in order. -/
structure CommandLine where
  path : Option String := none
  arguments : List Argument := []
  deriving DecidableEq, Repr

namespace CommandLine

/-- The command line with one more option. -/
def option (line : CommandLine) (argument : Argument) : CommandLine :=
  { line with arguments := line.arguments ++ [argument] }

/-- The command line with a word that is not an option: the path, if there is none yet. -/
def operand (line : CommandLine) (word : String) : Except UsageError CommandLine :=
  match line.path with
  | none => .ok { line with path := some word }
  | some _ => .error (.unexpected word)

/-- How an option with a value is written, as a word of its own, and what it asks for. -/
def valued : List (String × (String → Argument)) :=
  [("--cycles", .cycles), ("-n", .cycles), ("--set", .switch), ("--max-passes", .maxPasses)]

/-- What the words of an option that is joined to its value begin with, and what it asks for. -/
def joined : List (String × (String → Argument)) :=
  [("--cycles=", .cycles), ("-n=", .cycles), ("-n", .cycles), ("--set=", .switch),
   ("--max-passes=", .maxPasses)]

/-- The option that a word is together with its value. -/
def joined? (word : String) : Option Argument :=
  joined.findSome? fun (start, ask) =>
    if start.toList.isPrefixOf word.toList then
      some (ask (String.ofList (word.toList.drop start.length)))
    else none

/-- The number of times that a word asks for more notices. -/
def verbosity? (word : String) : Option Nat :=
  match word.toList with
  | '-' :: 'v' :: rest => if rest.all (· = 'v') then some (rest.length + 1) else none
  | _ => if word = "--verbose" then some 1 else none

/-- What a word is on its own. -/
inductive Word where
  /-- Options that are complete. -/
  | options (arguments : List Argument)
  /-- An option whose value is the next word. -/
  | needsValue (ask : String → Argument)
  /-- Not an option. -/
  | operand
  /-- Begins like an option, but is none. -/
  | unknown

/-- Tells what a word is. -/
def classify (word : String) : Word :=
  match verbosity? word with
  | some count => .options (List.replicate count .verbose)
  | none =>
    match valued.lookup word with
    | some ask => .needsValue ask
    | none =>
      match joined? word with
      | some argument => .options [argument]
      | none => if word.startsWith "-" && word ≠ "-" then .unknown else .operand

/-- Takes words apart, behind those taken apart before. All words behind `--` are operands. -/
def readOn (line : CommandLine) : List String → Except UsageError CommandLine
  | [] => .ok line
  | word :: rest =>
    if word = "--" then rest.foldlM operand line
    else
      match classify word with
      | .options arguments => readOn (arguments.foldl option line) rest
      | .unknown => .error (.unexpected word)
      | .operand => do readOn (← line.operand word) rest
      | .needsValue ask =>
        match rest with
        | [] => .error (.missingValue word)
        | value :: rest => readOn (line.option (ask value)) rest

/-- The path and the options that the words of a command line give. -/
def read (words : List String) : Except UsageError (String × List Argument) := do
  let line ← readOn {} words
  match line.path with
  | some path => return (path, line.arguments)
  | none => throw .noDefinition

end CommandLine

end LogicBench
