import LogicBench.Definition.Draft

/-!
# Definitions

What reading a text gives: the names in it, the network and the recorder that its items describe,
and every diagnostic. Reading never fails; a definition with errors is one that cannot be
simulated.
-/

namespace LogicBench

structure Definition where
  names : Names
  network : Network
  recorder : Recorder
  diagnostics : List Diagnostic
  deriving DecidableEq, Repr

namespace Definition

/-- Reads a definition, and tells what was noticed on the way. The names are those of the tokens
that reading asked for. -/
def read (source : String) : Definition × List Notice :=
  let stream := TokenStream.ofSource source
  let draft := Draft.ofTokens stream
  ({ names := ({} : Names).lookupTokens ((Outline.ofTokens stream).requested stream)
     network := draft.network
     recorder := draft.recorder
     diagnostics := draft.diagnostics },
    draft.notices)

def ofSource (source : String) : Definition :=
  (read source).1

def errors (definition : Definition) : List Diagnostic :=
  definition.diagnostics.filter Diagnostic.isError

def warnings (definition : Definition) : List Diagnostic :=
  definition.diagnostics.filter fun diagnostic => !diagnostic.isError

def hasErrors (definition : Definition) : Bool :=
  definition.diagnostics.any Diagnostic.isError

theorem hasErrors_iff_errors_ne_nil (definition : Definition) :
    definition.hasErrors ↔ definition.errors ≠ [] := by
  simp [hasErrors, errors]

theorem errors_eq_nil_iff (definition : Definition) :
    definition.errors = [] ↔ definition.hasErrors = false := by
  simp [hasErrors, errors]

end Definition

end LogicBench
