import LogicBench.Definition.Lexeme
import LogicBench.Definition.Position
import LogicBench.Names

/-!
# Tokens

The tokens of a definition with their places. A reader asks for one token after another; past the
last one every request is answered by the end of the text, always at the same place.
-/

namespace LogicBench

structure Token where
  kind : TokenKind
  position : Position
  deriving DecidableEq, Repr

/-- The tokens of a text, and the place where the text ends. -/
structure TokenStream where
  tokens : List Token
  stop : Position
  deriving DecidableEq, Repr

namespace Token

/-- The tokens among lexemes of which the first starts at the given place. -/
def place (position : Position) : List Lexeme → List Token
  | [] => []
  | .token kind :: rest => ⟨kind, position⟩ :: place (position.after kind.spelling) rest
  | lexeme :: rest => place (position.after lexeme.text) rest

def name? (token : Token) : Option String :=
  match token.kind with
  | .name text => some text
  | _ => none

/-- Whether a token is the keyword of a section or of the end. -/
def isBoundary (token : Token) : Bool :=
  match token.kind with
  | .keyword word => word.isSection
  | _ => false

/-- Whether an item of a list ends before this token. -/
def isTerminator (token : Token) : Bool :=
  token.kind = .comma || token.kind = .semicolon || token.isBoundary

end Token

namespace TokenStream

def ofSource (source : String) : TokenStream where
  tokens := Token.place .start (Lexeme.ofText source.toList)
  stop := Position.start.after source.toList

/-- What answers the request with the given number, counted from zero; `none` is the end of the
text. -/
def request (stream : TokenStream) (number : Nat) : Option TokenKind × Position :=
  match stream.tokens[number]? with
  | some token => (some token.kind, token.position)
  | none => (none, stream.stop)

end TokenStream

/-- The table with the names among some tokens entered, in order. -/
def Names.lookupTokens (names : Names) (tokens : List Token) : Names :=
  (names.lookupAll (tokens.filterMap Token.name?)).2

end LogicBench
