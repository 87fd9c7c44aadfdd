import LogicBench.Definition.Position
import LogicBench.Text.Lines

/-!
# Diagnostics

A problem found in a definition, with its place. Errors keep the definition from being simulated,
warnings do not. `Diagnostic.render` shows the line and puts a caret under the place.
-/

namespace LogicBench

inductive Diagnostic.Category where
  /-- The text does not follow the grammar. -/
  | syntactic
  /-- The text follows the grammar and describes something impossible. -/
  | semantic
  /-- The text describes something that is hardly meant. -/
  | warning
  deriving DecidableEq, Repr

structure Diagnostic where
  category : Diagnostic.Category
  position : Position
  message : String
  deriving DecidableEq, Repr

namespace Diagnostic

/-- Whether a category of problems keeps a definition from being simulated. -/
def Category.isError : Category → Bool
  | .syntactic | .semantic => true
  | .warning => false

/-- Whether a category concerns the grammar rather than the meaning. -/
def Category.isSyntactic : Category → Bool
  | .syntactic => true
  | .semantic | .warning => false

def Category.label : Category → String
  | .syntactic => "syntax error"
  | .semantic => "error"
  | .warning => "warning"

def isError (diagnostic : Diagnostic) : Bool :=
  diagnostic.category.isError

def isSyntactic (diagnostic : Diagnostic) : Bool :=
  diagnostic.category.isSyntactic

/-- Whether two diagnostics concern the same place and both the grammar or both the meaning. The
second of them then tells nothing new. -/
def follows (diagnostic previous : Diagnostic) : Bool :=
  previous.position = diagnostic.position && previous.isSyntactic == diagnostic.isSyntactic

def headline (diagnostic : Diagnostic) : String :=
  diagnostic.category.label ++ " at " ++ diagnostic.position.text ++ ": " ++ diagnostic.message

/-- The line of a text that a position lies on; empty past the last one. -/
def lineAt (source : String) (position : Position) : List Char :=
  (Text.lines source.toList)[position.line - 1]?.getD []

/-- The blanks that bring a caret under a column; a tab stays a tab, so that widths agree. -/
def padding (line : List Char) (column : Nat) : List Char :=
  (line.take (column - 1)).map fun c => if c = '\t' then '\t' else ' '

/-- The diagnostic with the line it is about and a caret under its column. -/
def render (diagnostic : Diagnostic) (source : String) : String :=
  let line := lineAt source diagnostic.position
  let caret := padding line diagnostic.position.column
  diagnostic.headline ++ "\n  " ++ String.ofList line ++ "\n  " ++ String.ofList caret ++ "^"

end Diagnostic

end LogicBench
