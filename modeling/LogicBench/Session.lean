import LogicBench.Journal
import LogicBench.Options
import LogicBench.Waveform

/-!
# Sessions

A session is one use of the program: a definition is read, its diagnostics are shown, and if it
has no errors it is run from the start and its waveforms are printed. When a cycle fails, the
waveforms of the cycles before it are printed all the same.
-/

namespace LogicBench

/-- Why a definition cannot be read from where it is kept. -/
inductive ReadError where
  | missing
  | notPermitted
  | isDirectory
  | notText
  | other (reason : String)
  deriving DecidableEq, Repr

def ReadError.message (error : ReadError) (path : String) : String :=
  let reason :=
    match error with
    | missing => "No such file or directory (os error 2)"
    | notPermitted => "Permission denied (os error 13)"
    | isDirectory => "Is a directory (os error 21)"
    | notText => "stream did not contain valid UTF-8"
    | other reason => reason
  "Failed to read definition file '" ++ path ++ "': " ++ reason

/-- What a session leaves behind: an exit code and two texts. -/
structure Outcome where
  code : Nat := 0
  output : String := ""
  messages : String := ""
  deriving DecidableEq, Repr

namespace Outcome

def tell (outcome : Outcome) (text : String) : Outcome :=
  { outcome with messages := outcome.messages ++ text }

def fail (outcome : Outcome) (message : String) : Outcome :=
  { outcome.tell (message ++ "\n") with code := 1 }

end Outcome

namespace Session

/-- The notices that are asked for, one on a line. -/
def log (options : Options) (notices : List Notice) : String :=
  String.join ((notices.filter fun notice => options.shows notice.level).map Notice.line)

/-- Sets switches one after another, up to the first that cannot be set; also tells what was
noticed. -/
def setSwitches (simulator : Simulator) :
    List (String × Bool) → List Notice × Except SimulatorError Simulator
  | [] => ([], .ok simulator)
  | (name, state) :: rest =>
    match simulator.setSwitch name state with
    | .error cause => ([], .error cause)
    | .ok next =>
      let (notices, result) := setSwitches next rest
      (.switchSet name state :: notices, result)

/-- What was noticed in a run that has the given result. The lesser notices are only collected
when they are asked for. -/
def runNotices (options : Options) (simulator : Simulator)
    (result : Except SimulatorError Unit) : List Notice :=
  if options.shows .debug then simulator.runNotices options.cycles
  else
    match result with
    | .ok () => []
    | .error cause => cause.notice?.toList

/-- Runs a simulator whose switches are set, and prints its waveforms. -/
def simulate (options : Options) (simulator : Simulator) (outcome : Outcome) : Outcome :=
  let (last, result) := simulator.run options.cycles
  let shown :=
    { outcome with output := last.render }.tell (log options (runNotices options simulator result))
  match result with
  | .ok () => shown
  | .error cause => shown.fail cause.message

def start (options : Options) (definition : Definition) (outcome : Outcome) : Outcome :=
  match Simulator.ofDefinition definition options.maxPasses with
  | .error cause => outcome.fail cause.message
  | .ok simulator =>
    let (notices, result) := setSwitches simulator options.switches
    let ready := outcome.tell (log options (Simulator.startNotices definition.network ++ notices))
    match result with
    | .error cause => ready.fail cause.message
    | .ok simulator => simulate options simulator ready

/-- A session with a definition that is read from a text. -/
def ofSource (options : Options) (source : String) : Outcome :=
  let (definition, notices) := Definition.read source
  let outcome : Outcome :=
    { messages := log options notices ++ Diagnostic.renderAll definition.diagnostics source }
  if definition.hasErrors then
    outcome.fail (toString definition.errors.length ++ " error(s); not simulating")
  else start options definition outcome

/-- A session with the text kept under a path, or with the reason why there is none. -/
def run (arguments : List Argument) (path : String) (contents : Except ReadError String) :
    Outcome :=
  match Options.ofArguments arguments with
  | .error error => { code := 2, messages := error.message }
  | .ok options =>
    match contents with
    | .error error => ({} : Outcome).fail (error.message path)
    | .ok source => ofSource options source

end Session

end LogicBench
