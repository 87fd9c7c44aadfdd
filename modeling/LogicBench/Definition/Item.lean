import LogicBench.Definition.Diagnostic
import LogicBench.Definition.Token

/-!
# Items

The items of the sections, as written and before any device is known:

    device      =  name ":" kind [number]
    connection  =  reference ">" reference
    reference   =  name ["." name]

An item is read from the front of the remaining tokens. Reading gives the item and the tokens
behind it, or a diagnostic for the first token that does not fit.
-/

namespace LogicBench

/-- A device or one of its pins, as written. -/
structure Reference where
  device : String
  pin : Option String
  position : Position
  deriving DecidableEq, Repr

def Reference.text (reference : Reference) : String :=
  match reference.pin with
  | some pin => reference.device ++ "." ++ pin
  | none => reference.device

/-- The word after the colon of a device declaration. -/
inductive KindWord where
  | known (type : DeviceType)
  | unknown (word : String)
  deriving DecidableEq, Repr

/-- The number at the end of a device declaration. -/
structure Qualifier where
  digits : String
  position : Position
  deriving DecidableEq, Repr

structure DeviceDeclaration where
  name : String
  position : Position
  kind : KindWord
  kindPosition : Position
  qualifier : Option Qualifier
  deriving DecidableEq, Repr

inductive Item where
  | device (declared : DeviceDeclaration)
  | connection (source destination : Reference)
  | signal (reference : Reference)
  deriving DecidableEq, Repr

/-- How a message refers to a token. -/
def TokenKind.description : TokenKind → String
  | keyword word => "keyword " ++ word.text
  | name text => "name `" ++ text ++ "`"
  | number digits => "number " ++ digits
  | comma => "','"
  | semicolon => "';'"
  | colon => "':'"
  | arrow => "'>'"
  | dot => "'.'"
  | stray c => "'" ++ c.toString ++ "'"
  | openComment _ => "unterminated comment"

/-- The place of the first remaining token, or else the end of the text. -/
def Position.ofFront (stop : Position) (tokens : List Token) : Position :=
  (tokens.head?.map (·.position)).getD stop

/-- The diagnostic for a first remaining token other than those expected. A token that no
definition can hold is reported for what it is. -/
def Diagnostic.unexpected (stop : Position) (expected : String) (tokens : List Token) :
    Diagnostic where
  category := .syntactic
  position := .ofFront stop tokens
  message :=
    match tokens with
    | ⟨.stray c, _⟩ :: _ => "unexpected character '" ++ c.toString ++ "'"
    | ⟨.openComment _, _⟩ :: _ => "unterminated block comment"
    | token :: _ => "expected " ++ expected ++ ", found " ++ token.kind.description
    | [] => "expected " ++ expected ++ ", found end of file"

namespace Item

def readName (stop : Position) (expected : String) :
    List Token → Except Diagnostic (String × List Token)
  | ⟨.name text, _⟩ :: rest => .ok (text, rest)
  | tokens => .error (.unexpected stop expected tokens)

/-- Reads a token of the given kind, and gives what is behind it. -/
def readMark (stop : Position) (mark : TokenKind) (tokens : List Token) :
    Except Diagnostic (List Token) :=
  match tokens with
  | token :: rest =>
    if token.kind = mark then .ok rest else .error (.unexpected stop mark.description tokens)
  | [] => .error (.unexpected stop mark.description tokens)

def readReference (stop : Position) (tokens : List Token) :
    Except Diagnostic (Reference × List Token) := do
  let (owner, rest) ← readName stop "a device name" tokens
  match rest with
  | ⟨.dot, _⟩ :: behindDot =>
    let (pin, rest) ← readName stop "a pin name" behindDot
    return (⟨owner, some pin, .ofFront stop tokens⟩, rest)
  | _ => return (⟨owner, none, .ofFront stop tokens⟩, rest)

/-- Reads the word after the colon of a device declaration. -/
def readKind (stop : Position) : List Token → Except Diagnostic (KindWord × List Token)
  | ⟨.keyword (.device type), _⟩ :: rest => .ok (.known type, rest)
  | ⟨.name word, _⟩ :: rest => .ok (.unknown word, rest)
  | tokens => .error (.unexpected stop "a device kind" tokens)

/-- Reads the number that may follow a kind. What cannot be a token at all, right behind a known
kind, is taken for a failed qualifier. -/
def readQualifier (stop : Position) (kind : KindWord) (tokens : List Token) :
    Except Diagnostic (Option Qualifier × List Token) :=
  match tokens, kind with
  | ⟨.number digits, position⟩ :: rest, _ => .ok (some ⟨digits, position⟩, rest)
  | ⟨.stray _, _⟩ :: _, .known _ | ⟨.openComment _, _⟩ :: _, .known _ =>
    .error (.unexpected stop "a qualifier" tokens)
  | _, _ => .ok (none, tokens)

def readDevice (stop : Position) (tokens : List Token) :
    Except Diagnostic (Item × List Token) := do
  let (name, rest) ← readName stop "a device name" tokens
  let behindColon ← readMark stop .colon rest
  let (kind, rest) ← readKind stop behindColon
  let (qualifier, rest) ← readQualifier stop kind rest
  return (.device
    ⟨name, .ofFront stop tokens, kind, .ofFront stop behindColon, qualifier⟩, rest)

def readConnection (stop : Position) (tokens : List Token) :
    Except Diagnostic (Item × List Token) := do
  let (source, rest) ← readReference stop tokens
  let behindArrow ← readMark stop .arrow rest
  let (destination, rest) ← readReference stop behindArrow
  return (.connection source destination, rest)

def readSignal (stop : Position) (tokens : List Token) :
    Except Diagnostic (Item × List Token) := do
  let (reference, rest) ← readReference stop tokens
  return (.signal reference, rest)

def read (stop : Position) : Section → List Token → Except Diagnostic (Item × List Token)
  | .devices => readDevice stop
  | .connect => readConnection stop
  | .monitor => readSignal stop

end Item

end LogicBench
