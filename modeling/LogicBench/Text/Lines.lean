/-!
# Lines of a text

A line ends at a line feed, and a carriage return directly before that line feed belongs to the
ending. Text after the last line feed is a line too, unless it is empty.
-/

namespace LogicBench.Text

/-- A line without the carriage return it may end with. -/
def dropReturn (line : List Char) : List Char :=
  if line.getLast? = some '\r' then line.dropLast else line

private theorem length_tail_dropWhile_lt {text : List Char} {c : Char} {rest : List Char}
    (h : text.dropWhile (· ≠ '\n') = c :: rest) : rest.length < text.length := by
  have := (List.dropWhile_sublist (l := text) (p := (· ≠ '\n'))).length_le
  rw [h, List.length_cons] at this
  omega

/-- The lines of a text, without their endings. -/
def lines (text : List Char) : List (List Char) :=
  if text.isEmpty then []
  else
    let line := text.takeWhile (· ≠ '\n')
    match _h : text.dropWhile (· ≠ '\n') with
    | [] => [line]
    | _ :: rest => dropReturn line :: lines rest
termination_by text.length
decreasing_by exact length_tail_dropWhile_lt _h

end LogicBench.Text
