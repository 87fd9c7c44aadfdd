/-!
# Names

A table of distinct texts. Each text is known by its handle, the place at which it entered the
table; looking a text up enters it if it is new, asking for it does not.
-/

namespace LogicBench

/-- The place of a text in a table. -/
abbrev Handle := Nat

/-- A handle as text, for one that a table does not know. -/
def Handle.text (handle : Handle) : String :=
  "#" ++ toString handle

structure Names where
  texts : List String := []
  deriving DecidableEq, Repr

namespace Names

/-- The handle of a text that is in the table. -/
def query (names : Names) (text : String) : Option Handle :=
  names.texts.findIdx? fun known => known = text

/-- The handle of a text, and the table in which it is. -/
def lookup (names : Names) (text : String) : Handle × Names :=
  match names.query text with
  | some handle => (handle, names)
  | none => (names.texts.length, ⟨names.texts ++ [text]⟩)

/-- The handles of texts looked up one after another, and the table in which they are. -/
def lookupAll (names : Names) : List String → List Handle × Names
  | [] => ([], names)
  | text :: rest =>
    let (handle, names) := names.lookup text
    let (handles, names) := names.lookupAll rest
    (handle :: handles, names)

def text? (names : Names) (handle : Handle) : Option String :=
  names.texts[handle]?

/-- The text of a handle, or the handle itself if the table does not know it. -/
def display (names : Names) (handle : Handle) : String :=
  (names.text? handle).getD (Handle.text handle)

def size (names : Names) : Nat :=
  names.texts.length

def isEmpty (names : Names) : Bool :=
  names.texts.isEmpty

theorem text?_of_query {names : Names} {text : String} {handle : Handle}
    (h : names.query text = some handle) : names.text? handle = some text := by
  obtain ⟨hlt, hp, _⟩ := List.findIdx?_eq_some_iff_getElem.1 h
  simp only [decide_eq_true_eq] at hp
  simp [text?, List.getElem?_eq_getElem hlt, hp]

end Names

end LogicBench
