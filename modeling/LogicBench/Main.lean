import LogicBench.CommandLine
import LogicBench.Session

/-!
# The program

Reads the definition named on the command line, holds a session with it, and writes what the session
leaves behind.
-/

namespace LogicBench

/-- The text of a file, or why it cannot be had. -/
def readDefinition (path : String) : IO (Except ReadError String) := do
  try
    let bytes ← IO.FS.readBinFile path
    match String.fromUTF8? bytes with
    | some text => return .ok text
    | none => return .error .notText
  catch error =>
    return .error <|
      match error with
      | .noFileOrDirectory .. => .missing
      | .permissionDenied .. => .notPermitted
      | .inappropriateType .. => .isDirectory
      | error => .other (toString error)

/-- Writes what a session leaves behind, and gives its exit code. -/
def Outcome.write (outcome : Outcome) : IO UInt32 := do
  IO.eprint outcome.messages
  IO.print outcome.output
  return outcome.code.toUInt32

end LogicBench

open LogicBench in
/-- Runs the program on the words of its command line. -/
def main (words : List String) : IO UInt32 := do
  match CommandLine.read words with
  | .error error => Outcome.write { code := 2, messages := error.message }
  | .ok (path, arguments) =>
    let contents ← readDefinition path
    (Session.run arguments path contents).write
