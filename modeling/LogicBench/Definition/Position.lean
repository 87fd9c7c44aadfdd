/-!
# Positions

A place in a text: its line and column, counted from one, and its distance from the start in
bytes. A line starts only after a line feed; columns count characters.
-/

namespace LogicBench

structure Position where
  line : Nat
  column : Nat
  offset : Nat
  deriving DecidableEq, Repr, Inhabited

namespace Position

def start : Position :=
  ⟨1, 1, 0⟩

def advance (position : Position) (c : Char) : Position :=
  if c = '\n' then ⟨position.line + 1, 1, position.offset + c.utf8Size⟩
  else ⟨position.line, position.column + 1, position.offset + c.utf8Size⟩

/-- The place behind a stretch of text. -/
def after (position : Position) (text : List Char) : Position :=
  text.foldl advance position

def text (position : Position) : String :=
  "line " ++ toString position.line ++ ", column " ++ toString position.column

@[simp] theorem after_nil (position : Position) : position.after [] = position := rfl

@[simp] theorem after_append (position : Position) (first second : List Char) :
    position.after (first ++ second) = (position.after first).after second :=
  List.foldl_append

end Position

end LogicBench
