import LogicBench.Proofs.Definition.Recovery
import LogicBench.Proofs.Definition.Requests

/-!
# Reading step by step

Reading a definition as a machine that holds one token at a time. A step is one turn of a loop:
over the sections, to the next section keyword, over the items of a list, over what stands behind
an item, or to the end of an item that cannot be read. Each step keeps the outline that will have
been read in the end, makes no request once the end of the text is in hand, and brings the end
nearer (`turnsInto_step`).
-/

namespace LogicBench

theorem Token.kind_ne_of_isBoundary {token : Token} (h : token.isBoundary) {mark : TokenKind}
    (hmark : mark = .comma ∨ mark = .semicolon) : token.kind ≠ mark := by
  rintro rfl
  rcases hmark with hmark | hmark <;> simp [isBoundary, hmark] at h

namespace Outline

variable {stop : Position} {within : Section}

/-- Reads on behind an item, from what ends it. -/
def readBehind (stop : Position) (within : Section) (isComplete : Bool) :
    List Token → List Entry × List Token
  | [] => (missingSemicolon stop within isComplete [], [])
  | token :: rest =>
    if token.kind = .comma then readList stop within rest
    else if token.kind = .semicolon then ([], rest)
    else (missingSemicolon stop within isComplete (token :: rest), token :: rest)

/-- Reads on behind an item that has just been read, from its last token on. -/
def readLeftOver (stop : Position) (within : Section) (isComplete : Bool) (tokens : List Token) :
    List Entry × List Token :=
  if atItemEnd tokens then readBehind stop within isComplete tokens
  else
    (readBehind stop within false (skipItem tokens)).map
      (.problem (some within) (.unexpected stop "',' or ';'" tokens) :: ·) id

def atBoundary (tokens : List Token) : Bool := tokens.head?.all Token.isBoundary

theorem skipItem_of_atItemEnd {tokens : List Token} (h : atItemEnd tokens) :
    skipItem tokens = tokens := by
  cases tokens with
  | nil => rfl
  | cons token rest =>
      have htoken : token.isTerminator := h
      simp [skipItem, htoken]

theorem skipToBoundary_of_atBoundary {tokens : List Token} (h : atBoundary tokens) :
    skipToBoundary tokens = tokens := by
  cases tokens with
  | nil => rfl
  | cons token rest =>
      have htoken : token.isBoundary := h
      simp [skipToBoundary, htoken]

theorem atItemEnd_of_atBoundary {tokens : List Token} (h : atBoundary tokens) :
    atItemEnd tokens := by
  cases tokens with
  | nil => rfl
  | cons token rest =>
      have htoken : token.isBoundary := h
      simp [atItemEnd, Token.isTerminator, htoken]

theorem readBehind_of_atBoundary {tokens : List Token} (h : atBoundary tokens)
    (isComplete : Bool) :
    readBehind stop within isComplete tokens =
      (missingSemicolon stop within isComplete tokens, tokens) := by
  cases tokens with
  | nil => rfl
  | cons token rest =>
      have htoken : token.isBoundary := h
      rw [readBehind, if_neg (Token.kind_ne_of_isBoundary htoken (.inl rfl)),
        if_neg (Token.kind_ne_of_isBoundary htoken (.inr rfl))]

section

variable (cursor : Cursor)

/-! What is looked at shows in the token in hand. -/

@[simp] theorem atItemEnd_hand : atItemEnd cursor.hand = atItemEnd cursor.ahead := by
  rw [Cursor.hand]
  cases cursor.ahead <;> rfl

@[simp] theorem atBoundary_hand : atBoundary cursor.hand = atBoundary cursor.ahead := by
  rw [Cursor.hand]
  cases cursor.ahead <;> rfl

@[simp] theorem missingSemicolon_hand (isComplete : Bool) :
    missingSemicolon stop within isComplete cursor.hand =
      missingSemicolon stop within isComplete cursor.ahead := by
  rw [missingSemicolon, Diagnostic.unexpected_hand, ← missingSemicolon]

@[simp] theorem entries_readEnd_hand (last : Option Section) (position : Position) :
    (readEnd stop last ⟨.keyword .finish, position⟩ cursor.hand).entries =
      (readEnd stop last ⟨.keyword .finish, position⟩ cursor.ahead).entries := by
  have hempty : cursor.hand.isEmpty = cursor.ahead.isEmpty := by
    rw [Cursor.hand]
    cases cursor.ahead <;> rfl
  rw [readEnd, readEnd, hempty, Diagnostic.unexpected_hand]
  rfl

end

theorem readList_eq_readBehind (stop : Position) (within : Section) (tokens : List Token) :
    readList stop within tokens =
      (readBehind stop within (readSegment stop within tokens).2 (skipItem tokens)).map
        ((readSegment stop within tokens).1 ++ ·) id := by
  fun_cases readList stop within tokens with
  | case1 entries isComplete hsegment hskip => simp [hsegment, hskip, readBehind]
  | case2 entries isComplete hsegment token rest hskip hkind following remaining hlist =>
      simp [hsegment, hskip, readBehind, hkind, hlist]
  | case3 entries isComplete hsegment token rest hskip hcomma hkind =>
      simp [hsegment, hskip, readBehind, hkind]
  | case4 entries isComplete hsegment token rest hskip hcomma hsemicolon =>
      simp [hsegment, hskip, readBehind, hcomma, hsemicolon]

theorem readList_of_error {tokens : List Token} {diagnostic : Diagnostic}
    (h : Item.read stop within tokens = .error diagnostic) :
    readList stop within tokens =
      (readBehind stop within false (skipItem tokens)).map
        (.problem (some within) diagnostic :: ·) id := by
  rw [readList_eq_readBehind, readSegment, h]
  rfl

theorem readList_of_ok {tokens rest : List Token} {item : Item}
    (h : Item.read stop within tokens = .ok (item, rest))
    (hrest : skipItem rest = skipItem tokens) :
    readList stop within tokens =
      (readLeftOver stop within true rest).map (.item item :: ·) id := by
  rw [readList_eq_readBehind, readSegment, h, readLeftOver, ← hrest]
  dsimp only
  split
  · next hend =>
    rw [skipItem_of_atItemEnd hend]
    rfl
  · rfl

end Outline

/-- What reading is doing: it reads sections or looks for the next one, it reads an item, stands
behind one that was read with or without a problem, or looks for the end of one. -/
inductive Stage where
  | sections
  | seeking
  | item (within : Section)
  | behindItem (within : Section) (isComplete : Bool)
  | recovering (within : Section)
  | finished
  deriving DecidableEq, Repr

inductive Loop where
  /-- Over the sections. -/
  | sections
  /-- To the next section keyword. -/
  | seeking
  /-- Over the items of a list. -/
  | items
  /-- Behind an item, to the comma, semicolon or section keyword that ends it. -/
  | separators
  /-- To the end of an item. -/
  | recovery
  deriving DecidableEq, Repr

/-- The loop of which a step makes one more turn. -/
def Stage.loop? : Stage → Option Loop
  | .sections => some .sections
  | .seeking => some .seeking
  | .item _ => some .items
  | .behindItem _ _ => some .separators
  | .recovering _ => some .recovery
  | .finished => none

theorem Stage.ne_finished_iff {stage : Stage} :
    stage ≠ .finished ↔ ∃ loop, stage.loop? = some loop := by
  cases stage <;> simp [loop?]

/-- A definition of which some tokens have been read; `last` is the section opened last. -/
structure Reading where
  stage : Stage
  last : Option Section
  cursor : Cursor
  entries : List Entry
  deriving DecidableEq, Repr

namespace Reading

def start (tokens : List Token) : Reading where
  stage := if tokens.isEmpty then .finished else .sections
  last := none
  cursor := .start tokens
  entries := []

def goOn (reading : Reading) (stage : Stage) : Reading := { reading with stage }

def request (reading : Reading) : Reading := { reading with cursor := reading.cursor.advance }

def found (reading : Reading) (entries : List Entry) : Reading :=
  { reading with entries := reading.entries ++ entries }

/-- Opens a section at its keyword, which is given up for the token behind it. -/
def openSection (opened : Section) (position : Position) (reading : Reading) : Reading :=
  { reading.request.found
      (Outline.orderProblems reading.last opened position ++ [.opening opened]) with
    last := some opened }

/-- Begins the list of a section, unless it is empty where it may be. -/
def beginList (opened : Section) (reading : Reading) : Reading :=
  match opened, reading.cursor.hand with
  | .connect, ⟨.semicolon, _⟩ :: _ | .monitor, ⟨.semicolon, _⟩ :: _ =>
    reading.request.goOn .sections
  | _, _ => reading.goOn (.item opened)

def finish (stop : Position) (keyword : Token) (reading : Reading) : Reading :=
  let behind := reading.request
  (behind.found (Outline.readEnd stop reading.last keyword behind.cursor.hand).entries).goOn
    .finished

def stepSections (stop : Position) (reading : Reading) : Reading :=
  match reading.cursor.hand with
  | [] => (reading.found [.problem none (.unexpected stop "END" [])]).goOn .finished
  | token :: _ =>
    match token.kind with
    | .keyword .finish => reading.finish stop token
    | .keyword (.opening opened) => (reading.openSection opened token.position).beginList opened
    | _ =>
      let misplaced := .unexpected stop "a section keyword" reading.cursor.hand
      (reading.found [.problem none misplaced]).goOn .seeking

def stepSeeking (reading : Reading) : Reading :=
  if Outline.atBoundary reading.cursor.hand then reading.goOn .sections else reading.request

def stepItem (stop : Position) (within : Section) (reading : Reading) : Reading :=
  match (Item.request stop within).outcome reading.cursor with
  | (.ok item, cursor) =>
    ({ reading with cursor }.found [.item item]).goOn (.behindItem within true)
  | (.error diagnostic, cursor) =>
    ({ reading with cursor }.found [.problem (some within) diagnostic]).goOn (.recovering within)

def stepBehindItem (stop : Position) (within : Section) (isComplete : Bool) (reading : Reading) :
    Reading :=
  let hand := reading.cursor.hand
  if hand.any (·.kind = .comma) then reading.request.goOn (.item within)
  else if hand.any (·.kind = .semicolon) then reading.request.goOn .sections
  else if Outline.atBoundary hand then
    (reading.found (Outline.missingSemicolon stop within isComplete hand)).goOn .sections
  else
    (reading.found [.problem (some within) (.unexpected stop "',' or ';'" hand)]).goOn
      (.recovering within)

def stepRecovering (within : Section) (reading : Reading) : Reading :=
  if Outline.atItemEnd reading.cursor.hand then reading.goOn (.behindItem within false)
  else reading.request

def step (stop : Position) (reading : Reading) : Reading :=
  match reading.stage with
  | .sections => reading.stepSections stop
  | .seeking => reading.stepSeeking
  | .item within => reading.stepItem stop within
  | .behindItem within isComplete => reading.stepBehindItem stop within isComplete
  | .recovering within => reading.stepRecovering within
  | .finished => reading

def thenSections (stop : Position) (last : Option Section) (list : List Entry × List Token) :
    Outline :=
  .prepend list.1 (.readSections stop last list.2)

/-- What there is to read from a stage on, given all the tokens ahead. -/
def outlineFrom (stop : Position) (last : Option Section) (tokens : List Token) : Stage → Outline
  | .sections => .readSections stop last tokens
  | .seeking => .readSections stop last (Outline.skipToBoundary tokens)
  | .item within => thenSections stop last (Outline.readList stop within tokens)
  | .behindItem within isComplete =>
    thenSections stop last (Outline.readLeftOver stop within isComplete tokens)
  | .recovering within =>
    thenSections stop last (Outline.readBehind stop within false (Outline.skipItem tokens))
  | .finished => ⟨[], tokens.tail⟩

def outline (stop : Position) (reading : Reading) : Outline :=
  .prepend reading.entries (outlineFrom stop reading.last reading.cursor.ahead reading.stage)

/-- Falls with every step that uses up no token: recovery comes before what stands behind an item,
and this before the next section; looking for a section keyword comes before the section at it. -/
def rank (tokens : List Token) : Stage → Nat
  | .sections => if Outline.atBoundary tokens then 1 else 3
  | .seeking => 2
  | .item _ => 4
  | .behindItem _ _ => 2
  | .recovering _ => if Outline.atItemEnd tokens then 3 else 1
  | .finished => 0

/-- A bound on the steps that remain. A token counts for more than any rank. -/
def remaining (reading : Reading) : Nat :=
  match reading.stage with
  | .finished => 0
  | stage => 5 * reading.cursor.ahead.length + rank reading.cursor.ahead stage

section

variable {stop : Position} {reading next : Reading} {last : Option Section}
  {answers : List (Option Token)} {entries : List Entry} {stage : Stage} {loop : Loop}
  {token : Token} {tokens rest : List Token}

theorem rank_le (tokens : List Token) (stage : Stage) : rank tokens stage ≤ 4 := by
  cases stage <;> simp only [rank] <;> first | omega | (split <;> omega)

theorem rank_pos (h : stage.loop? = some loop) (tokens : List Token) : 1 ≤ rank tokens stage := by
  cases stage <;> simp only [rank] <;> first | omega | (split <;> omega) | cases h

theorem remaining_eq (h : reading.stage.loop? = some loop) :
    reading.remaining =
      5 * reading.cursor.ahead.length + rank reading.cursor.ahead reading.stage := by
  unfold remaining
  split
  · next hfinished => exact absurd hfinished (Stage.ne_finished_iff.2 ⟨loop, h⟩)
  · rfl

theorem remaining_le (reading : Reading) :
    reading.remaining ≤
      5 * reading.cursor.ahead.length + rank reading.cursor.ahead reading.stage := by
  unfold remaining
  split
  · exact Nat.zero_le _
  · exact Nat.le_refl _

theorem remaining_lt_of_length_lt (hloop : reading.stage.loop? = some loop)
    (h : next.cursor.ahead.length < reading.cursor.ahead.length) :
    next.remaining < reading.remaining := by
  have hpos := rank_pos hloop reading.cursor.ahead
  have hrank := rank_le next.cursor.ahead next.stage
  have hle := next.remaining_le
  rw [remaining_eq hloop]
  omega

theorem remaining_lt_of_rank_lt (hloop : reading.stage.loop? = some loop)
    (hlength : next.cursor.ahead.length ≤ reading.cursor.ahead.length)
    (hrank : rank next.cursor.ahead next.stage < rank reading.cursor.ahead reading.stage) :
    next.remaining < reading.remaining := by
  have hle := next.remaining_le
  rw [remaining_eq hloop]
  omega

/-- What a step does: it keeps what will have been read in the end, it makes no request with the
end of the text in hand, and fewer steps remain. -/
structure TurnsInto (stop : Position) (reading next : Reading) : Prop where
  outline_eq : next.outline stop = reading.outline stop
  requests : reading.cursor.Requests next.cursor
  remaining_lt : next.remaining < reading.remaining

theorem TurnsInto.found (found : List Entry) (hloop : reading.stage.loop? = some loop)
    (houtline : outlineFrom stop reading.last reading.cursor.ahead reading.stage =
      .prepend found (outlineFrom stop reading.last reading.cursor.ahead stage))
    (hrank : rank reading.cursor.ahead stage < rank reading.cursor.ahead reading.stage) :
    TurnsInto stop reading ((reading.found found).goOn stage) where
  outline_eq := by
    rw [outline, outline, houtline, Outline.prepend_prepend]
    rfl
  requests := .refl
  remaining_lt := remaining_lt_of_rank_lt hloop (Nat.le_refl _) hrank

theorem TurnsInto.goOn (hloop : reading.stage.loop? = some loop)
    (houtline : outlineFrom stop reading.last reading.cursor.ahead reading.stage =
      outlineFrom stop reading.last reading.cursor.ahead stage)
    (hrank : rank reading.cursor.ahead stage < rank reading.cursor.ahead reading.stage) :
    TurnsInto stop reading (reading.goOn stage) where
  outline_eq := by
    rw [outline, outline, houtline]
    rfl
  requests := .refl
  remaining_lt := remaining_lt_of_rank_lt hloop (Nat.le_refl _) hrank

theorem TurnsInto.request (hloop : reading.stage.loop? = some loop)
    (hahead : reading.cursor.ahead = token :: rest)
    (houtline : outlineFrom stop reading.last (token :: rest) reading.stage =
      outlineFrom stop reading.last rest stage) :
    TurnsInto stop reading (reading.request.goOn stage) where
  outline_eq := by
    rw [outline, outline, hahead, houtline]
    simp [Reading.goOn, Reading.request, Cursor.advance, hahead]
  requests := .one (hahead ▸ List.cons_ne_nil token rest)
  remaining_lt := by
    refine remaining_lt_of_length_lt hloop ?_
    simp [Reading.goOn, Reading.request, Cursor.advance, hahead]

/-- What stands in place of a section keyword is skipped up to the next one. -/
theorem outlineFrom_sections_of_not_isBoundary (htoken : token.isBoundary = false)
    (rest : List Token) :
    outlineFrom stop last (token :: rest) .sections =
      .prepend [.problem none (.unexpected stop "a section keyword" (token :: rest))]
        (outlineFrom stop last (token :: rest) .seeking) := by
  have hskip : Outline.skipToBoundary (token :: rest) = Outline.skipToBoundary rest := by
    simp [Outline.skipToBoundary, htoken]
  rw [outlineFrom, outlineFrom, Outline.readSections, hskip]
  obtain ⟨kind, position⟩ := token
  cases kind with
  | keyword word =>
      cases word with
      | device type => rfl
      | _ => cases htoken
  | _ => rfl

theorem stepSections_of_not_isBoundary (htoken : token.isBoundary = false)
    (hahead : reading.cursor.ahead = token :: rest) :
    reading.stepSections stop =
      (reading.found [.problem none (.unexpected stop "a section keyword" (token :: rest))]).goOn
        .seeking := by
  rw [stepSections, Diagnostic.unexpected_hand, Cursor.hand, hahead]
  obtain ⟨kind, position⟩ := token
  cases kind with
  | keyword word =>
      cases word with
      | device type => rfl
      | _ => cases htoken
  | _ => rfl

theorem beginList_cases (stop : Position) (opened : Section) (reading : Reading) :
    (∃ token rest, reading.cursor.ahead = token :: rest ∧
      Outline.readBody stop opened reading.cursor.ahead = ([], rest) ∧
      reading.beginList opened = reading.request.goOn .sections) ∨
      Outline.readBody stop opened reading.cursor.ahead =
          Outline.readList stop opened reading.cursor.ahead ∧
        reading.beginList opened = reading.goOn (.item opened) := by
  obtain ⟨stage, last, ⟨ahead, answers⟩, entries⟩ := reading
  cases opened with
  | devices => exact .inr ⟨rfl, rfl⟩
  | connect | monitor =>
      rcases ahead with _ | ⟨⟨kind, place⟩, rest⟩
      · exact .inr ⟨rfl, rfl⟩
      cases kind with
      | semicolon => exact .inl ⟨_, _, rfl, rfl, rfl⟩
      | _ => exact .inr ⟨rfl, rfl⟩

theorem turnsInto_beginList (opened : Section) (position : Position) (rest : List Token) :
    let reading : Reading :=
      ⟨.sections, last, ⟨⟨.keyword (.opening opened), position⟩ :: rest, answers⟩, entries⟩
    TurnsInto stop reading ((reading.openSection opened position).beginList opened) := by
  intro reading
  have hrequest : reading.cursor.Requests (reading.openSection opened position).cursor :=
    .one (List.cons_ne_nil _ _)
  obtain ⟨semicolon, behind, hrest, hbody, heq⟩ | ⟨hbody, heq⟩ :=
    beginList_cases stop opened (reading.openSection opened position)
  · obtain rfl : rest = semicolon :: behind := hrest
    have hbody : Outline.readBody stop opened (semicolon :: behind) = ([], behind) := hbody
    rw [heq]
    refine ⟨?_, hrequest.trans (Cursor.Requests.one (List.cons_ne_nil semicolon behind)),
      remaining_lt_of_length_lt rfl ?_⟩
    · simp [reading, outline, outlineFrom, Outline.readSections, hbody, Outline.prepend_prepend,
        openSection, Reading.found, Reading.request, Reading.goOn, Cursor.advance]
    · exact Nat.lt_succ_of_lt (Nat.lt_succ_self behind.length)
  · have hbody : Outline.readBody stop opened rest = Outline.readList stop opened rest := hbody
    rw [heq]
    refine ⟨?_, hrequest, remaining_lt_of_length_lt rfl (Nat.lt_succ_self rest.length)⟩
    simp [reading, outline, outlineFrom, Outline.readSections, hbody, Outline.prepend_prepend,
      openSection, Reading.found, Reading.request, Reading.goOn, Cursor.advance, thenSections]

theorem turnsInto_finish (position : Position) (rest : List Token) :
    let keyword : Token := ⟨.keyword .finish, position⟩
    let reading : Reading := ⟨.sections, last, ⟨keyword :: rest, answers⟩, entries⟩
    TurnsInto stop reading (reading.finish stop keyword) := by
  intro keyword reading
  refine ⟨?_, .one (List.cons_ne_nil _ _), Nat.succ_pos _⟩
  simp only [finish, keyword, Outline.entries_readEnd_hand]
  simp [reading, keyword, outline, outlineFrom, Outline.readSections, Outline.prepend,
    Outline.readEnd, Reading.goOn, Reading.found, Reading.request, Cursor.advance]

theorem turnsInto_stepSections (stop : Position) (last : Option Section) (cursor : Cursor)
    (entries : List Entry) :
    TurnsInto stop ⟨.sections, last, cursor, entries⟩
      (stepSections stop ⟨.sections, last, cursor, entries⟩) := by
  obtain ⟨ahead, answers⟩ := cursor
  rcases ahead with _ | ⟨token, rest⟩
  · refine .found _ rfl ?_ Nat.zero_lt_one
    simp [outlineFrom, Outline.readSections, Outline.prepend]
  cases htoken : token.isBoundary with
  | false =>
      rw [stepSections_of_not_isBoundary htoken rfl]
      refine .found _ rfl (outlineFrom_sections_of_not_isBoundary htoken rest) ?_
      simp [rank, Outline.atBoundary, htoken]
  | true =>
      obtain ⟨kind, position⟩ := token
      cases kind with
      | keyword word =>
          cases word with
          | opening opened => exact turnsInto_beginList opened position rest
          | finish => exact turnsInto_finish position rest
          | device type => cases htoken
      | _ => cases htoken

theorem turnsInto_stepSeeking (stop : Position) (last : Option Section) (cursor : Cursor)
    (entries : List Entry) :
    TurnsInto stop ⟨.seeking, last, cursor, entries⟩
      (stepSeeking ⟨.seeking, last, cursor, entries⟩) := by
  simp only [stepSeeking, Outline.atBoundary_hand]
  split
  · next hend =>
    refine .goOn rfl ?_ ?_
    · simp [outlineFrom, Outline.skipToBoundary_of_atBoundary hend]
    · simp [rank, hend]
  · next hend =>
    obtain ⟨ahead, answers⟩ := cursor
    rcases ahead with _ | ⟨token, rest⟩
    · exact absurd rfl hend
    have htoken : token.isBoundary = false := by simpa [Outline.atBoundary] using hend
    refine .request rfl rfl ?_
    simp [outlineFrom, Outline.skipToBoundary, htoken]

theorem turnsInto_stepItem (stop : Position) (within : Section) (last : Option Section)
    (cursor : Cursor) (entries : List Entry) :
    TurnsInto stop ⟨.item within, last, cursor, entries⟩
      (stepItem stop within ⟨.item within, last, cursor, entries⟩) := by
  -- No request of an item passes its end, so that recovery stops where the list goes on.
  obtain ⟨hread, hpasses⟩ := Item.request_follows stop within cursor
  unfold stepItem
  dsimp only
  generalize (Item.request stop within).outcome cursor = outcome at hread hpasses
  have hlength := hpasses.requests.ahead_isSuffix.length_le
  obtain ⟨diagnostic | item, next⟩ := outcome
  · refine ⟨?_, hpasses.requests, remaining_lt_of_rank_lt rfl hlength ?_⟩
    · have hlist := Outline.readList_of_error hread
      simp [outline, outlineFrom, hlist, hpasses.skipItem_eq, Reading.found, Reading.goOn,
        thenSections, Outline.prepend]
    · change (if Outline.atItemEnd next.ahead then 3 else 1) < 4
      cases Outline.atItemEnd next.ahead <;> decide
  · refine ⟨?_, hpasses.requests, remaining_lt_of_rank_lt rfl hlength ?_⟩
    · have hlist := Outline.readList_of_ok hread hpasses.skipItem_eq
      simp [outline, outlineFrom, hlist, Reading.found, Reading.goOn, thenSections,
        Outline.prepend]
    · change 2 < 4
      decide

theorem turnsInto_stepBehindItem (stop : Position) (within : Section) (isComplete : Bool)
    (last : Option Section) (cursor : Cursor) (entries : List Entry) :
    TurnsInto stop ⟨.behindItem within isComplete, last, cursor, entries⟩
      (stepBehindItem stop within isComplete
        ⟨.behindItem within isComplete, last, cursor, entries⟩) := by
  simp only [stepBehindItem, Outline.atBoundary_hand, Outline.missingSemicolon_hand,
    Diagnostic.unexpected_hand]
  obtain ⟨ahead, answers⟩ := cursor
  by_cases hboundary : Outline.atBoundary ahead
  -- A section keyword or the end of the text is neither a comma nor a semicolon.
  · have hmark (mark : TokenKind) (hmark : mark = .comma ∨ mark = .semicolon) :
        (Cursor.hand ⟨ahead, answers⟩).any (·.kind = mark) = false := by
      cases ahead with
      | nil => rfl
      | cons token rest =>
          have hkind := @Token.kind_ne_of_isBoundary token hboundary mark hmark
          simp [Cursor.hand, hkind]
    rw [hmark _ (.inl rfl), hmark _ (.inr rfl), if_neg Bool.false_ne_true,
      if_neg Bool.false_ne_true, if_pos hboundary]
    refine .found _ rfl ?_ ?_
    · simp [outlineFrom, Outline.readLeftOver, Outline.atItemEnd_of_atBoundary hboundary,
        Outline.readBehind_of_atBoundary hboundary, thenSections]
    · simp [rank, hboundary]
  rcases ahead with _ | ⟨token, rest⟩
  · exact absurd rfl hboundary
  have htoken : token.isBoundary = false := by simpa [Outline.atBoundary] using hboundary
  simp only [Cursor.hand, List.take_succ_cons, List.take_zero, List.any_cons, List.any_nil,
    Bool.or_false, decide_eq_true_eq]
  split
  · next hcomma =>
    have hend : token.isTerminator := by simp [Token.isTerminator, hcomma]
    refine .request rfl rfl ?_
    simp [outlineFrom, Outline.readLeftOver, Outline.atItemEnd, hend, Outline.readBehind, hcomma]
  split
  · next hsemicolon =>
    have hend : token.isTerminator := by simp [Token.isTerminator, hsemicolon]
    refine .request rfl rfl ?_
    simp [outlineFrom, Outline.readLeftOver, Outline.atItemEnd, hend, Outline.readBehind,
      hsemicolon, thenSections, Outline.prepend]
  · next hcomma hsemicolon =>
    have hend : token.isTerminator = false := by
      simp [Token.isTerminator, hcomma, hsemicolon, htoken]
    refine .found _ rfl ?_ ?_
    · simp [outlineFrom, Outline.readLeftOver, Outline.atItemEnd, hend, thenSections,
        Outline.prepend]
    · simp [rank, Outline.atItemEnd, hend]

theorem turnsInto_stepRecovering (stop : Position) (within : Section) (last : Option Section)
    (cursor : Cursor) (entries : List Entry) :
    TurnsInto stop ⟨.recovering within, last, cursor, entries⟩
      (stepRecovering within ⟨.recovering within, last, cursor, entries⟩) := by
  simp only [stepRecovering, Outline.atItemEnd_hand]
  split
  · next hend =>
    refine .goOn rfl ?_ ?_
    · have hskip := Outline.skipItem_of_atItemEnd hend
      simp [outlineFrom, Outline.readLeftOver, hskip, hend]
    · simp [rank, hend]
  · next hend =>
    obtain ⟨ahead, answers⟩ := cursor
    rcases ahead with _ | ⟨token, rest⟩
    · exact absurd rfl hend
    have htoken : token.isTerminator = false := by simpa [Outline.atItemEnd] using hend
    refine .request rfl rfl ?_
    simp [outlineFrom, Outline.skipItem, htoken]

theorem turnsInto_step (stop : Position) (h : reading.stage ≠ .finished) :
    TurnsInto stop reading (reading.step stop) := by
  obtain ⟨stage, last, cursor, entries⟩ := reading
  cases stage with
  | sections => exact turnsInto_stepSections stop last cursor entries
  | seeking => exact turnsInto_stepSeeking stop last cursor entries
  | item within => exact turnsInto_stepItem stop within last cursor entries
  | behindItem within isComplete =>
      exact turnsInto_stepBehindItem stop within isComplete last cursor entries
  | recovering within => exact turnsInto_stepRecovering stop within last cursor entries
  | finished => exact absurd rfl h

theorem step_of_finished (stop : Position) (h : reading.stage = .finished) :
    reading.step stop = reading := by
  rw [step, h]

theorem outline_step (stop : Position) (reading : Reading) :
    (reading.step stop).outline stop = reading.outline stop := by
  by_cases h : reading.stage = .finished
  · rw [step_of_finished stop h]
  · exact (turnsInto_step stop h).outline_eq

theorem requests_step (stop : Position) (reading : Reading) :
    reading.cursor.Requests (reading.step stop).cursor := by
  by_cases h : reading.stage = .finished
  · rw [step_of_finished stop h]
    exact .refl
  · exact (turnsInto_step stop h).requests

theorem remaining_step_le (stop : Position) (reading : Reading) :
    (reading.step stop).remaining ≤ reading.remaining := by
  by_cases h : reading.stage = .finished
  · rw [step_of_finished stop h]
  · exact Nat.le_of_lt (turnsInto_step stop h).remaining_lt

end

end Reading

end LogicBench
