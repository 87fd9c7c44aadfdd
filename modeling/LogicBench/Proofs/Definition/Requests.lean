import LogicBench.Proofs.Definition.Locality
import Mathlib.Logic.Relation

/-!
# Reading by requests

A reader that holds one token at a time, and asks for the next one when it has used the one in
hand, cannot go back. `Item.request` reads an item in this way. It does what `Item.read` does with
the list of all remaining tokens, and each of its requests is made with a token in hand that does
not end an item (`Item.request_follows`): it never asks again once the end of the text is in hand.
-/

namespace LogicBench

/-- The tokens from the one in hand on, which is the only one known yet, and the answers to all
requests so far; `none` is the end of the text. -/
structure Cursor where
  ahead : List Token
  answers : List (Option Token)
  deriving DecidableEq, Repr

namespace Cursor

def start (tokens : List Token) : Cursor := ⟨tokens, [tokens.head?]⟩

/-- The next request: the token in hand is given up for the one behind it. -/
def advance (cursor : Cursor) : Cursor :=
  ⟨cursor.ahead.tail, cursor.answers ++ [cursor.ahead.tail.head?]⟩

def hand (cursor : Cursor) : List Token := cursor.ahead.take 1

def answered (cursor : Cursor) : List Token := cursor.answers.filterMap id

/-- Whether the requests so far were answered by one token of a text after the other, and the last
one by the token in hand. -/
def HasRead (tokens : List Token) (cursor : Cursor) : Prop :=
  ∃ before, tokens = before ++ cursor.ahead ∧
    cursor.answers = before.map some ++ [cursor.ahead.head?]

/-- Requests, none of them with the end of the text in hand. -/
def Requests : Cursor → Cursor → Prop :=
  Relation.ReflTransGen fun cursor next => cursor.ahead ≠ [] ∧ next = cursor.advance

def Passes : Cursor → Cursor → Prop :=
  Relation.ReflTransGen fun cursor next =>
    (∃ token rest, cursor.ahead = token :: rest ∧ token.isTerminator = false) ∧
      next = cursor.advance

section

variable {tokens : List Token} {cursor next : Cursor}

theorem hasRead_start (tokens : List Token) : HasRead tokens (start tokens) :=
  ⟨[], rfl, rfl⟩

/-- A request keeps to the order of the tokens, unless the end of the text is in hand. -/
theorem HasRead.advance (h : HasRead tokens cursor) (hahead : cursor.ahead ≠ []) :
    HasRead tokens cursor.advance := by
  obtain ⟨before, htokens, hanswers⟩ := h
  obtain ⟨token, rest, hcursor⟩ := List.exists_cons_of_ne_nil hahead
  refine ⟨before ++ [token], ?_, ?_⟩
  · simp [Cursor.advance, htokens, hcursor]
  · simp [Cursor.advance, hanswers, hcursor]

theorem HasRead.answers_isPrefix (h : HasRead tokens cursor) :
    cursor.answers <+: tokens.map some ++ [none] := by
  obtain ⟨before, htokens, hanswers⟩ := h
  rw [hanswers, htokens, List.map_append, List.append_assoc]
  refine List.prefix_append_right_inj _ |>.2 ?_
  cases cursor.ahead with
  | nil => exact List.prefix_rfl
  | cons token rest => exact List.prefix_append [some token] _

theorem HasRead.getLast?_answers (h : HasRead tokens cursor) :
    cursor.answers.getLast? = some cursor.ahead.head? := by
  obtain ⟨before, -, hanswers⟩ := h
  rw [hanswers, List.getLast?_concat]

theorem HasRead.answered_eq (h : HasRead tokens cursor) :
    cursor.answered = tokens.take (tokens.length - cursor.ahead.tail.length) := by
  obtain ⟨before, htokens, hanswers⟩ := h
  rw [answered, hanswers, htokens]
  cases cursor.ahead with
  | nil => simp
  | cons token rest =>
      have hsplit : before ++ token :: rest = (before ++ [token]) ++ rest := by simp
      rw [List.tail_cons, hsplit, List.length_append, Nat.add_sub_cancel, List.take_left]
      simp

theorem Requests.one (h : cursor.ahead ≠ []) : Requests cursor cursor.advance :=
  .single ⟨h, rfl⟩

theorem Requests.hasRead (h : Requests cursor next) (hread : HasRead tokens cursor) :
    HasRead tokens next := by
  induction h with
  | refl => exact hread
  | tail _ hone ih =>
      obtain ⟨hahead, rfl⟩ := hone
      exact ih.advance hahead

theorem Requests.ahead_isSuffix (h : Requests cursor next) : next.ahead <:+ cursor.ahead := by
  induction h with
  | refl => exact List.suffix_rfl
  | tail _ hone ih =>
      obtain ⟨-, rfl⟩ := hone
      exact (List.tail_suffix _).trans ih

theorem Passes.one {token : Token} {rest : List Token} (h : cursor.ahead = token :: rest)
    (htoken : token.isTerminator = false) : Passes cursor cursor.advance :=
  .single ⟨⟨token, rest, h, htoken⟩, rfl⟩

theorem Passes.requests (h : Passes cursor next) : Requests cursor next := by
  refine Relation.ReflTransGen.mono (fun cursor next hone => ?_) _ _ h
  obtain ⟨⟨token, rest, hahead, -⟩, hnext⟩ := hone
  exact ⟨hahead ▸ List.cons_ne_nil token rest, hnext⟩

theorem Passes.skipItem_eq (h : Passes cursor next) :
    Outline.skipItem next.ahead = Outline.skipItem cursor.ahead := by
  induction h with
  | refl => rfl
  | tail _ hone ih =>
      obtain ⟨⟨token, rest, hahead, htoken⟩, rfl⟩ := hone
      rw [← ih, hahead, advance, hahead]
      simp [Outline.skipItem, htoken]

end

end Cursor

theorem Diagnostic.unexpected_hand (stop : Position) (expected : String) (cursor : Cursor) :
    Diagnostic.unexpected stop expected cursor.hand = .unexpected stop expected cursor.ahead := by
  obtain ⟨ahead, answers⟩ := cursor
  rcases ahead with _ | ⟨⟨kind, position⟩, rest⟩
  · rfl
  · cases kind <;> rfl

/-- A program that makes requests, and gives a value or a diagnostic. -/
abbrev Requesting := ExceptT Diagnostic (StateM Cursor)

namespace Requesting

variable {α β : Type}

def outcome (program : Requesting α) (cursor : Cursor) : Except Diagnostic α × Cursor :=
  (program.run.run cursor).run

def advance : Requesting Unit := modify Cursor.advance

def hand : Requesting (List Token) := return (← get).hand

def place (stop : Position) : Requesting Position := return .ofFront stop (← hand)

def unexpected (stop : Position) (expected : String) : Requesting α := do
  throw (.unexpected stop expected (← hand))

/-- Whether a program does with the token in hand what a function does with the list of the
remaining tokens, and makes no request in place of the end of an item. -/
def Follows (program : Requesting α)
    (read : List Token → Except Diagnostic (α × List Token)) : Prop :=
  ∀ cursor,
    read cursor.ahead =
      (program.outcome cursor).1.map (fun value => (value, (program.outcome cursor).2.ahead)) ∧
    Cursor.Passes cursor (program.outcome cursor).2

section

variable {program : Requesting α} {further : α → Requesting β} {cursor : Cursor}
  {read : List Token → Except Diagnostic (α × List Token)}
  {readFurther : α → List Token → Except Diagnostic (β × List Token)}

theorem outcome_bind (program : Requesting α) (further : α → Requesting β) (cursor : Cursor) :
    (program >>= further).outcome cursor =
      match (program.outcome cursor).1 with
      | .ok value => (further value).outcome (program.outcome cursor).2
      | .error diagnostic => (.error diagnostic, (program.outcome cursor).2) := by
  change (ExceptT.bindCont further (program.outcome cursor).1).run (program.outcome cursor).2 = _
  cases (program.outcome cursor).1 <;> rfl

theorem Follows.bind (h : Follows program read)
    (hfurther : ∀ value, Follows (further value) (readFurther value)) :
    Follows (program >>= further) (fun tokens => do
      let (value, rest) ← read tokens
      readFurther value rest) := by
  intro cursor
  obtain ⟨hread, hpasses⟩ := h cursor
  simp only [outcome_bind, hread]
  cases (program.outcome cursor).1 with
  | error diagnostic => exact ⟨rfl, hpasses⟩
  | ok value =>
      obtain ⟨hnext, hrest⟩ := hfurther value (program.outcome cursor).2
      exact ⟨hnext, hpasses.trans hrest⟩

theorem Follows.congr {read' : List Token → Except Diagnostic (α × List Token)}
    (h : Follows program read) (heq : ∀ tokens, read' tokens = read tokens) :
    Follows program read' :=
  fun cursor => ⟨(heq cursor.ahead).trans (h cursor).1, (h cursor).2⟩

theorem Follows.bind_mark {program : Requesting Unit} {further : Requesting β}
    {read : List Token → Except Diagnostic (List Token)}
    {readFurther : List Token → Except Diagnostic (β × List Token)}
    (h : Follows program fun tokens => (read tokens).map (Prod.mk ()))
    (hfurther : Follows further readFurther) :
    Follows (do program; further) (fun tokens => do
      let rest ← read tokens
      readFurther rest) := by
  intro cursor
  have hbind : (do let rest ← read cursor.ahead; readFurther rest) =
      ((read cursor.ahead).map (Prod.mk ()) >>= fun value => readFurther value.2) := by
    cases read cursor.ahead <;> rfl
  obtain ⟨hread, hpasses⟩ := h.bind (fun _ => hfurther) cursor
  exact ⟨hbind.trans hread, hpasses⟩

theorem follows_pure (value : α) : Follows (pure value) fun tokens => .ok (value, tokens) :=
  fun _ => ⟨rfl, .refl⟩

theorem follows_place (stop : Position) :
    Follows (place stop) fun tokens => .ok (.ofFront stop tokens, tokens) := by
  rintro ⟨ahead, answers⟩
  cases ahead <;> exact ⟨rfl, .refl⟩

end

end Requesting

namespace Item

open Requesting

/-- Each of the following programs does what the reader of the same name does. -/
def requestName (stop : Position) (expected : String) : Requesting String := do
  match ← hand with
  | ⟨.name text, _⟩ :: _ => advance; return text
  | _ => unexpected stop expected

def requestMark (stop : Position) (mark : TokenKind) : Requesting Unit := do
  match ← hand with
  | token :: _ => if token.kind = mark then advance else unexpected stop mark.description
  | [] => unexpected stop mark.description

def requestPin (stop : Position) : Requesting (Option String) := do
  match ← hand with
  | ⟨.dot, _⟩ :: _ => advance; return some (← requestName stop "a pin name")
  | _ => return none

def requestReference (stop : Position) : Requesting Reference := do
  let position ← place stop
  let owner ← requestName stop "a device name"
  let pin ← requestPin stop
  return ⟨owner, pin, position⟩

def requestKind (stop : Position) : Requesting KindWord := do
  match ← hand with
  | ⟨.keyword (.device type), _⟩ :: _ => advance; return .known type
  | ⟨.name word, _⟩ :: _ => advance; return .unknown word
  | _ => unexpected stop "a device kind"

def requestQualifier (stop : Position) (kind : KindWord) : Requesting (Option Qualifier) := do
  match ← hand, kind with
  | ⟨.number digits, position⟩ :: _, _ => advance; return some ⟨digits, position⟩
  | ⟨.stray _, _⟩ :: _, .known _ | ⟨.openComment _, _⟩ :: _, .known _ =>
    unexpected stop "a qualifier"
  | _, _ => return none

def requestDevice (stop : Position) : Requesting Item := do
  let position ← place stop
  let name ← requestName stop "a device name"
  requestMark stop .colon
  let kindPosition ← place stop
  let kind ← requestKind stop
  let qualifier ← requestQualifier stop kind
  return .device ⟨name, position, kind, kindPosition, qualifier⟩

def requestConnection (stop : Position) : Requesting Item := do
  let source ← requestReference stop
  requestMark stop .arrow
  let destination ← requestReference stop
  return .connection source destination

def requestSignal (stop : Position) : Requesting Item := do
  return .signal (← requestReference stop)

def request (stop : Position) : Section → Requesting Item
  | .devices => requestDevice stop
  | .connect => requestConnection stop
  | .monitor => requestSignal stop

theorem requestName_follows (stop : Position) (expected : String) :
    Follows (requestName stop expected) (readName stop expected) := by
  rintro ⟨ahead, answers⟩
  cases ahead with
  | nil => exact ⟨rfl, .refl⟩
  | cons token rest =>
      obtain ⟨kind, position⟩ := token
      cases kind with
      | name text => exact ⟨rfl, .one rfl rfl⟩
      | _ => exact ⟨rfl, .refl⟩

theorem requestMark_follows (stop : Position) {mark : TokenKind}
    (hmark : ∀ token : Token, token.kind = mark → token.isTerminator = false) :
    Follows (requestMark stop mark) fun tokens => (readMark stop mark tokens).map (Prod.mk ()) := by
  rintro ⟨ahead, answers⟩
  cases ahead with
  | nil => exact ⟨rfl, .refl⟩
  | cons token rest =>
      have houtcome : (requestMark stop mark).outcome ⟨token :: rest, answers⟩ =
          if token.kind = mark then (.ok (), Cursor.advance ⟨token :: rest, answers⟩)
          else
            (.error (.unexpected stop mark.description (Cursor.ahead ⟨token :: rest, answers⟩)),
              ⟨token :: rest, answers⟩) := by
        rw [← Diagnostic.unexpected_hand stop mark.description ⟨token :: rest, answers⟩]
        change (if token.kind = mark then advance
          else unexpected stop mark.description).outcome _ = _
        split <;> rfl
      simp only [houtcome, readMark]
      split
      · next hkind => exact ⟨rfl, .one rfl (hmark token hkind)⟩
      · exact ⟨rfl, .refl⟩

theorem requestPin_follows (stop : Position) :
    Follows (requestPin stop) fun tokens =>
      match tokens with
      | ⟨.dot, _⟩ :: behindDot => do
        let (pin, rest) ← readName stop "a pin name" behindDot
        return (some pin, rest)
      | _ => .ok (none, tokens) := by
  rintro ⟨ahead, answers⟩
  cases ahead with
  | nil => exact ⟨rfl, .refl⟩
  | cons token rest =>
      obtain ⟨kind, position⟩ := token
      cases kind with
      | dot =>
          have hpin := (requestName_follows stop "a pin name").bind
            (fun pin => follows_pure (some pin))
          obtain ⟨hread, hpasses⟩ := hpin (Cursor.advance ⟨⟨.dot, position⟩ :: rest, answers⟩)
          exact ⟨hread, (Cursor.Passes.one rfl rfl).trans hpasses⟩
      | _ => exact ⟨rfl, .refl⟩

theorem requestReference_follows (stop : Position) :
    Follows (requestReference stop) (readReference stop) := by
  have h := (follows_place stop).bind fun position =>
    (requestName_follows stop "a device name").bind fun owner =>
      (requestPin_follows stop).bind fun pin => follows_pure (Reference.mk owner pin position)
  refine h.congr fun tokens => ?_
  unfold readReference
  refine bind_congr fun (owner, rest) => ?_
  rcases rest with _ | ⟨⟨kind, position⟩, rest⟩
  · rfl
  cases kind with
  | dot =>
      simp only [bind_assoc]
      rfl
  | _ => rfl

theorem requestKind_follows (stop : Position) :
    Follows (requestKind stop) (readKind stop) := by
  rintro ⟨ahead, answers⟩
  cases ahead with
  | nil => exact ⟨rfl, .refl⟩
  | cons token rest =>
      obtain ⟨kind, position⟩ := token
      cases kind with
      | name word => exact ⟨rfl, .one rfl rfl⟩
      | keyword word =>
          cases word with
          | device type => exact ⟨rfl, .one rfl rfl⟩
          | _ => exact ⟨rfl, .refl⟩
      | _ => exact ⟨rfl, .refl⟩

theorem requestQualifier_follows (stop : Position) (kind : KindWord) :
    Follows (requestQualifier stop kind) (readQualifier stop kind) := by
  rintro ⟨ahead, answers⟩
  cases ahead with
  | nil => cases kind <;> exact ⟨rfl, .refl⟩
  | cons token rest =>
      obtain ⟨token, position⟩ := token
      cases token with
      | number digits => cases kind <;> exact ⟨rfl, .one rfl rfl⟩
      | _ => cases kind <;> exact ⟨rfl, .refl⟩

theorem requestDevice_follows (stop : Position) :
    Follows (requestDevice stop) (readDevice stop) := by
  have h := (follows_place stop).bind fun position =>
    (requestName_follows stop "a device name").bind fun name =>
      (requestMark_follows stop (isTerminator_of_mark (.inl rfl))).bind_mark <|
        (follows_place stop).bind fun kindPosition =>
          (requestKind_follows stop).bind fun kind =>
            (requestQualifier_follows stop kind).bind fun qualifier =>
              follows_pure (Item.device ⟨name, position, kind, kindPosition, qualifier⟩)
  exact h.congr fun tokens => rfl

theorem requestConnection_follows (stop : Position) :
    Follows (requestConnection stop) (readConnection stop) := by
  have h := (requestReference_follows stop).bind fun source =>
    (requestMark_follows stop (isTerminator_of_mark (.inr rfl))).bind_mark <|
      (requestReference_follows stop).bind fun destination =>
        follows_pure (Item.connection source destination)
  exact h.congr fun _ => rfl

theorem requestSignal_follows (stop : Position) :
    Follows (requestSignal stop) (readSignal stop) := by
  have h := (requestReference_follows stop).bind fun reference =>
    follows_pure (Item.signal reference)
  exact h.congr fun _ => rfl

theorem request_follows (stop : Position) (within : Section) :
    Follows (request stop within) (read stop within) := by
  cases within with
  | devices => exact requestDevice_follows stop
  | connect => exact requestConnection_follows stop
  | monitor => exact requestSignal_follows stop

end Item

end LogicBench
