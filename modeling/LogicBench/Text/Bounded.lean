/-!
# Bounded writing

Writing a text to a place of limited size, counted in bytes. What does not fit is cut off, and the
writer is told.
-/

namespace LogicBench.Text

inductive WriteError where
  | noRoom
  deriving DecidableEq, Repr

def WriteError.message : WriteError → String
  | noRoom => "Output error: failed to write whole buffer"

/-- The bytes of a text that fit into a place of the given size, and whether those are all. -/
def writeBounded (capacity : Nat) (text : String) : ByteArray × Except WriteError Unit :=
  let bytes := text.toUTF8
  (bytes.extract 0 capacity, if bytes.size ≤ capacity then .ok () else .error .noRoom)

end LogicBench.Text
