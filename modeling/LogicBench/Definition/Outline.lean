import LogicBench.Definition.Item

/-!
# Outlines

Reading a definition without knowing any device:

    definition  =  devices [connect] [monitor] "END"
    devices     =  "DEVICES" device ("," device)* ";"
    connect     =  "CONNECT" [connection ("," connection)*] ";"
    monitor     =  "MONITOR" [reference ("," reference)*] ";"

The result is an `Outline`: the sections opened, the items that could be read and the places where
the grammar was left, in the order of the text. Each item is read on its own: whatever is wrong
with one, reading goes on behind the next comma, semicolon or section keyword.
-/

namespace LogicBench

/-- What reading comes across: a section, an item, or a place where the grammar is left, within a
section or between sections. -/
inductive Entry where
  | opening (opened : Section)
  | item (item : Item)
  | problem (within : Option Section) (diagnostic : Diagnostic)
  deriving DecidableEq, Repr

/-- What was read of a definition, and the tokens that nobody asked for. -/
structure Outline where
  entries : List Entry
  unread : List Token
  deriving DecidableEq, Repr

namespace Outline

def atItemEnd : List Token → Bool
  | [] => true
  | token :: _ => token.isTerminator

/-- The remaining tokens from the end of the item on. -/
def skipItem (tokens : List Token) : List Token :=
  tokens.dropWhile fun token => !token.isTerminator

/-- What an item gives, and whether it was read to its end without a problem. -/
def readSegment (stop : Position) (within : Section) (tokens : List Token) : List Entry × Bool :=
  match Item.read stop within tokens with
  | .error diagnostic => ([.problem (some within) diagnostic], false)
  | .ok (item, rest) =>
    if atItemEnd rest then ([.item item], true)
    else ([.item item, .problem (some within) (.unexpected stop "',' or ';'" rest)], false)

/-- A missing semicolon, reported only if the item before it was read without a problem. -/
def missingSemicolon (stop : Position) (within : Section) (isComplete : Bool)
    (tokens : List Token) : List Entry :=
  if isComplete then [.problem (some within) (.unexpected stop "';'" tokens)] else []

theorem length_skipItem_le (tokens : List Token) : (skipItem tokens).length ≤ tokens.length :=
  (List.dropWhile_sublist _).length_le

/-- Reads items up to a semicolon, a section keyword or the end of the text. -/
def readList (stop : Position) (within : Section) (tokens : List Token) :
    List Entry × List Token :=
  let (entries, isComplete) := readSegment stop within tokens
  match _h : skipItem tokens with
  | [] => (entries ++ missingSemicolon stop within isComplete [], [])
  | token :: rest =>
    if token.kind = .comma then
      let (following, remaining) := readList stop within rest
      (entries ++ following, remaining)
    else if token.kind = .semicolon then (entries, rest)
    else (entries ++ missingSemicolon stop within isComplete (token :: rest), token :: rest)
termination_by tokens.length
decreasing_by
  have := length_skipItem_le tokens
  rw [_h, List.length_cons] at this
  omega

theorem length_readList_le (stop : Position) (within : Section) (tokens : List Token) :
    (readList stop within tokens).2.length ≤ tokens.length := by
  fun_induction readList stop within tokens with
  | case1 => exact Nat.zero_le _
  | case2 tokens entries isComplete _ token rest h _ following remaining heq ih =>
    have := length_skipItem_le tokens
    rw [h, List.length_cons] at this
    rw [heq] at ih
    simp only at ih ⊢
    omega
  | case3 tokens entries isComplete _ token rest h =>
    have := length_skipItem_le tokens
    rw [h, List.length_cons] at this
    simp only
    omega
  | case4 tokens entries isComplete _ token rest h =>
    have := length_skipItem_le tokens
    rw [h] at this
    exact this

/-- Reads the items of a section whose keyword has just been read. The lists after `CONNECT` and
`MONITOR` may be empty. -/
def readBody (stop : Position) (opened : Section) (tokens : List Token) :
    List Entry × List Token :=
  match opened, tokens with
  | .connect, ⟨.semicolon, _⟩ :: rest | .monitor, ⟨.semicolon, _⟩ :: rest => ([], rest)
  | _, _ => readList stop opened tokens

theorem length_readBody_le (stop : Position) (opened : Section) (tokens : List Token) :
    (readBody stop opened tokens).2.length ≤ tokens.length := by
  unfold readBody
  split
  · exact Nat.le_succ _
  · exact Nat.le_succ _
  · exact length_readList_le stop opened tokens

/-- What is wrong with opening a section at a place after the one opened last. -/
def orderProblems (last : Option Section) (opened : Section) (position : Position) : List Entry :=
  match last with
  | some last =>
    if opened.rank ≤ last.rank then
      [.problem none
        ⟨.syntactic, position, opened.keyword ++ " section is repeated or out of order"⟩]
    else []
  | none =>
    if opened = .devices then []
    else
      [.problem none
        ⟨.syntactic, position, "expected DEVICES, found keyword " ++ opened.keyword⟩]

/-- The tokens from the next section keyword on. -/
def skipToBoundary (tokens : List Token) : List Token :=
  tokens.dropWhile fun token => !token.isBoundary

theorem length_skipToBoundary_le (tokens : List Token) :
    (skipToBoundary tokens).length ≤ tokens.length :=
  (List.dropWhile_sublist _).length_le

/-- The end of a definition at the keyword `END`: a section must have been opened before it, and
nothing may follow. One token is asked for behind the keyword. -/
def readEnd (stop : Position) (last : Option Section) (keyword : Token) (rest : List Token) :
    Outline where
  entries :=
    (if last.isNone then [.problem none (.unexpected stop "DEVICES" (keyword :: rest))] else []) ++
      if rest.isEmpty then []
      else [.problem none (.unexpected stop "end of file after END" rest)]
  unread := rest.tail

def prepend (entries : List Entry) (outline : Outline) : Outline :=
  { outline with entries := entries ++ outline.entries }

/-- Reads sections to the end of the definition; `last` is the one opened last. -/
def readSections (stop : Position) (last : Option Section) (tokens : List Token) : Outline :=
  match tokens with
  | [] => ⟨[.problem none (.unexpected stop "END" [])], []⟩
  | token :: rest =>
    match token.kind with
    | .keyword .finish => readEnd stop last token rest
    | .keyword (.opening opened) =>
      let body := readBody stop opened rest
      prepend (orderProblems last opened token.position ++ .opening opened :: body.1)
        (readSections stop (some opened) body.2)
    | _ =>
      prepend [.problem none (.unexpected stop "a section keyword" (token :: rest))]
        (readSections stop last (skipToBoundary rest))
termination_by tokens.length
decreasing_by
  · exact Nat.lt_succ_of_le (length_readBody_le stop opened rest)
  · exact Nat.lt_succ_of_le (length_skipToBoundary_le rest)

/-- What a definition holds. A text without tokens holds nothing, and nothing in it breaks the
grammar. -/
def ofTokens (stream : TokenStream) : Outline :=
  if stream.tokens.isEmpty then ⟨[], []⟩ else readSections stream.stop none stream.tokens

/-- The tokens that reading asked for. -/
def requested (outline : Outline) (stream : TokenStream) : List Token :=
  stream.tokens.take (stream.tokens.length - outline.unread.length)

end Outline

end LogicBench
