import LogicBench.Definition.Keyword
import LogicBench.Text.Blank

/-!
# Lexemes

A definition is a sequence of lexemes: white space and comments, which separate, and tokens, which
matter. `Lexeme.ofText` cuts any text up without losing a character (`flatMap_text_ofText`): what
cannot start a token is a token of its own, and so is a block comment that is never closed.
-/

namespace LogicBench

inductive TokenKind where
  | keyword (word : Keyword)
  | name (text : String)
  | number (digits : String)
  | comma
  | semicolon
  | colon
  | arrow
  | dot
  /-- A character that cannot start a token. -/
  | stray (c : Char)
  /-- A block comment that is never closed, with the text it holds. -/
  | openComment (body : String)
  deriving DecidableEq, Repr

def TokenKind.spelling : TokenKind → List Char
  | keyword word => word.text.toList
  | name text => text.toList
  | number digits => digits.toList
  | comma => [',']
  | semicolon => [';']
  | colon => [':']
  | arrow => ['>']
  | dot => ['.']
  | stray c => [c]
  | openComment body => '/' :: '*' :: body.toList

inductive Lexeme where
  | blank (c : Char)
  | lineComment (body : List Char)
  | blockComment (body : List Char)
  | token (kind : TokenKind)
  deriving DecidableEq, Repr

namespace Lexeme

/-- The text of a lexeme. A line comment ends before the line feed. -/
def text : Lexeme → List Char
  | blank c => [c]
  | lineComment body => '#' :: body
  | blockComment body => '/' :: '*' :: (body ++ ['*', '/'])
  | token kind => kind.spelling

def isLetter (c : Char) : Bool :=
  c.isAlpha

def isWordPart (c : Char) : Bool :=
  c.isAlphanum

/-- Cuts a text at the first end of a block comment: the part before it and the part behind it. -/
def closeComment : List Char → Option (List Char × List Char)
  | [] => none
  | '*' :: '/' :: rest => some ([], rest)
  | c :: rest => (closeComment rest).map fun (body, after) => (c :: body, after)

/-- The token that a word is, a keyword or else a name. -/
def ofWord (word : List Char) : TokenKind :=
  match Keyword.ofWord? (String.ofList word) with
  | some keyword => .keyword keyword
  | none => .name (String.ofList word)

/-- The token that a single character is, if it does not start a longer one. -/
def ofMark (c : Char) : TokenKind :=
  if c = ',' then .comma
  else if c = ';' then .semicolon
  else if c = ':' then .colon
  else if c = '>' then .arrow
  else if c = '.' then .dot
  else .stray c

/-- The lexeme at the start of a text that begins with `c`, and what follows it. -/
def first (c : Char) (rest : List Char) : Lexeme × List Char :=
  if Text.isBlank c then (blank c, rest)
  else if c = '#' then (lineComment (rest.takeWhile (· ≠ '\n')), rest.dropWhile (· ≠ '\n'))
  else if isLetter c then
    (token (ofWord (c :: rest.takeWhile isWordPart)), rest.dropWhile isWordPart)
  else if c.isDigit then
    (token (.number (String.ofList (c :: rest.takeWhile Char.isDigit))),
      rest.dropWhile Char.isDigit)
  else if c = '/' ∧ rest.head? = some '*' then
    match closeComment rest.tail with
    | some (body, after) => (blockComment body, after)
    | none => (token (.openComment (String.ofList rest.tail)), [])
  else (token (ofMark c), rest)

theorem append_of_closeComment {text body after : List Char}
    (h : closeComment text = some (body, after)) : body ++ '*' :: '/' :: after = text := by
  fun_induction closeComment text generalizing body after with
  | case1 => simp at h
  | case2 rest =>
    simp only [Option.some.injEq, Prod.mk.injEq] at h
    simp [← h.1, ← h.2]
  | case3 c rest _ ih =>
    simp only [Option.map_eq_some_iff, Prod.mk.injEq] at h
    obtain ⟨⟨body', after'⟩, hclose, rfl, rfl⟩ := h
    simp [ih hclose]

private theorem text_of_ofKeyword {word : String} {keyword : Keyword}
    (h : Keyword.ofWord? word = some keyword) : keyword.text = word := by
  unfold Keyword.ofWord? at h
  split at h
  · cases h; simp_all [Keyword.text, Section.keyword]
  split at h
  · cases h; simp_all [Keyword.text, Section.keyword]
  split at h
  · cases h; simp_all [Keyword.text, Section.keyword]
  split at h
  · cases h; simp_all [Keyword.text]
  obtain ⟨type, htype, rfl⟩ := Option.map_eq_some_iff.1 h
  exact DeviceType.keyword_of_ofKeyword? htype

theorem spelling_ofWord (word : List Char) : (ofWord word).spelling = word := by
  unfold ofWord
  split
  · next h => simp [TokenKind.spelling, text_of_ofKeyword h]
  · simp [TokenKind.spelling]

theorem spelling_ofMark (c : Char) : (ofMark c).spelling = [c] := by
  unfold ofMark
  repeat (split; · simp_all [TokenKind.spelling])
  rfl

/-- The first lexeme and what follows it are the whole text. -/
theorem text_first_append (c : Char) (rest : List Char) :
    (first c rest).1.text ++ (first c rest).2 = c :: rest := by
  unfold first
  split
  · rfl
  split
  · simp_all [text, List.takeWhile_append_dropWhile]
  split
  · simp [text, spelling_ofWord, List.takeWhile_append_dropWhile]
  split
  · simp [text, TokenKind.spelling, List.takeWhile_append_dropWhile]
  split
  · next h =>
    obtain ⟨rfl, hstar⟩ := h
    obtain ⟨tail, rfl⟩ := List.head?_eq_some_iff.1 hstar
    split
    · next hclose => simp [text, append_of_closeComment hclose]
    · simp [text, TokenKind.spelling]
  · simp [text, spelling_ofMark]

/-- A lexeme takes at least one character. -/
theorem length_first_le (c : Char) (rest : List Char) :
    (first c rest).2.length ≤ rest.length := by
  unfold first
  split
  · exact Nat.le_refl _
  split
  · exact (List.dropWhile_sublist _).length_le
  split
  · exact (List.dropWhile_sublist _).length_le
  split
  · exact (List.dropWhile_sublist _).length_le
  split
  · split
    · next hclose =>
      have := congrArg List.length (append_of_closeComment hclose)
      simp only [List.length_append, List.length_cons, List.length_tail] at this
      simp only
      omega
    · exact Nat.zero_le _
  · exact Nat.le_refl _

def ofText : List Char → List Lexeme
  | [] => []
  | c :: rest => (first c rest).1 :: ofText (first c rest).2
termination_by text => text.length
decreasing_by exact Nat.lt_succ_of_le (length_first_le c rest)

/-- Nothing of a text is lost: its lexemes in a row are the text. -/
theorem flatMap_text_ofText (source : List Char) : (ofText source).flatMap text = source := by
  fun_induction ofText source with
  | case1 => rfl
  | case2 c rest ih => rw [List.flatMap_cons, ih, text_first_append]

end Lexeme

end LogicBench
