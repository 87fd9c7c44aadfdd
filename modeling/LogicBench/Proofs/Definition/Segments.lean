import LogicBench.Proofs.Definition.Locality
import Mathlib.Data.List.TakeWhile
import Mathlib.Tactic.Set

/-!
# Segments of a list

The commas cut a list of items into segments. Reading an item is local, so that reading a list is
reading its segments independently of each other, whatever is wrong with any of them. Each segment
has at most one flaw, and the flaws are at different places, in the order of the text.
-/

namespace LogicBench

namespace Token

def endsList (token : Token) : Bool :=
  token.kind = .semicolon || token.isBoundary

def inList (tokens : List Token) : List Token :=
  tokens.takeWhile fun token => !token.endsList

def fromListEnd (tokens : List Token) : List Token :=
  tokens.dropWhile fun token => !token.endsList

/-- The remaining tokens behind a list of items; only a semicolon belongs to the list. -/
def behindList (tokens : List Token) : List Token :=
  match fromListEnd tokens with
  | ⟨.semicolon, _⟩ :: rest => rest
  | rest => rest

end Token

structure Segment where
  tokens : List Token
  stop : Position
  deriving DecidableEq, Repr

namespace Segment

def ofList (stop : Position) (tokens : List Token) : List Segment :=
  let list := Token.inList tokens
  (list.splitOnP fun token => token.kind = .comma).zipWith Segment.mk
    ((list.filter fun token => token.kind = .comma).map (·.position) ++
      [.ofFront stop (Token.fromListEnd tokens)])

def ofBody (opened : Section) (stop : Position) (tokens : List Token) : List Segment :=
  if opened ≠ .devices ∧ (tokens.head?.any fun token => token.kind = .semicolon) then []
  else ofList stop tokens

/-- Reads the item of a segment as if a semicolon followed the segment. -/
def read (within : Section) (segment : Segment) : Except Diagnostic (Item × List Token) :=
  Item.read segment.stop within (segment.tokens ++ [⟨.semicolon, segment.stop⟩])

def item? (within : Section) (segment : Segment) : Option Item :=
  match segment.read within with
  | .ok (item, _) => some item
  | .error _ => none

/-- The place where reading a segment fails or where its item leaves tokens over; there is none if
the item takes the whole segment. -/
def flaw? (within : Section) (segment : Segment) : Option Position :=
  match segment.read within with
  | .ok (_, rest) =>
    if rest = [⟨.semicolon, segment.stop⟩] then none else some (.ofFront segment.stop rest)
  | .error diagnostic => some diagnostic.position

/-- The diagnostic for a list that does not end with a semicolon, unless its last segment has a flaw
already. -/
def missingEnd (within : Section) (stop : Position) (segments : List Segment)
    (rest : List Token) : List Diagnostic :=
  if rest.head?.any (fun token => token.kind = .semicolon) then []
  else if segments.getLast?.any fun segment => (segment.flaw? within).isSome then []
  else [.unexpected stop "';'" rest]

end Segment

/-! ## Cutting -/

namespace Token

variable {segment rest : List Token} {token : Token}

theorem endsList_eq_false (h : token.isTerminator = false) : token.endsList = false := by
  simp only [isTerminator, Bool.or_eq_false_iff] at h
  simp [endsList, h]

theorem kind_ne_comma (h : token.isTerminator = false) : decide (token.kind = .comma) = false := by
  simp only [isTerminator, Bool.or_eq_false_iff] at h
  exact h.1.1

theorem filter_comma (h : ∀ token ∈ segment, token.isTerminator = false) :
    segment.filter (fun token => token.kind = .comma) = [] :=
  List.filter_eq_nil_iff.2 fun token htoken => by simp [kind_ne_comma (h token htoken)]

theorem inList_append (h : ∀ token ∈ segment, token.isTerminator = false) (rest : List Token) :
    inList (segment ++ rest) = segment ++ inList rest :=
  List.takeWhile_append_of_pos fun token htoken => by simp [endsList_eq_false (h token htoken)]

theorem fromListEnd_append (h : ∀ token ∈ segment, token.isTerminator = false)
    (rest : List Token) : fromListEnd (segment ++ rest) = fromListEnd rest :=
  List.dropWhile_append_of_pos fun token htoken => by simp [endsList_eq_false (h token htoken)]

theorem inList_comma (h : token.kind = .comma) (rest : List Token) :
    inList (token :: rest) = token :: inList rest := by
  simp [inList, endsList, isBoundary, h]

theorem fromListEnd_comma (h : token.kind = .comma) (rest : List Token) :
    fromListEnd (token :: rest) = fromListEnd rest := by
  simp [fromListEnd, endsList, isBoundary, h]

theorem behindList_append (h : ∀ token ∈ segment, token.isTerminator = false)
    (rest : List Token) : behindList (segment ++ rest) = behindList rest := by
  rw [behindList, behindList, fromListEnd_append h]

theorem behindList_comma (h : token.kind = .comma) (rest : List Token) :
    behindList (token :: rest) = behindList rest := by
  rw [behindList, behindList, fromListEnd_comma h]

theorem inList_of_endsList (h : token.endsList) (rest : List Token) :
    inList (token :: rest) = [] := by
  simp [inList, h]

theorem fromListEnd_of_endsList (h : token.endsList) (rest : List Token) :
    fromListEnd (token :: rest) = token :: rest := by
  simp [fromListEnd, h]

theorem behindList_of_semicolon (h : token.kind = .semicolon) (rest : List Token) :
    behindList (token :: rest) = rest := by
  obtain ⟨kind, position⟩ := token
  obtain rfl : kind = .semicolon := h
  rfl

theorem behindList_of_endsList (h : token.endsList) (hkind : token.kind ≠ .semicolon)
    (rest : List Token) : behindList (token :: rest) = token :: rest := by
  rw [behindList, fromListEnd_of_endsList h]
  obtain ⟨kind, position⟩ := token
  cases kind with
  | semicolon => exact absurd rfl hkind
  | _ => rfl

end Token

namespace Segment

variable {stop : Position} {segment rest : List Token} {token : Token}

theorem ofList_of_inList_eq_nil (h : ∀ token ∈ segment, token.isTerminator = false)
    (hrest : Token.inList rest = []) :
    ofList stop (segment ++ rest) = [⟨segment, .ofFront stop (Token.fromListEnd rest)⟩] := by
  rw [ofList, Token.inList_append h, hrest, List.append_nil, Token.fromListEnd_append h,
    List.splitOnP_eq_singleton fun token htoken => Token.kind_ne_comma (h token htoken),
    Token.filter_comma h]
  rfl

theorem ofList_comma (h : ∀ token ∈ segment, token.isTerminator = false)
    (hcomma : token.kind = .comma) (rest : List Token) :
    ofList stop (segment ++ token :: rest) = ⟨segment, token.position⟩ :: ofList stop rest := by
  have hsplit :
      (segment ++ token :: Token.inList rest).splitOnP (fun token => token.kind = .comma) =
        segment :: (Token.inList rest).splitOnP fun token => token.kind = .comma :=
    List.splitOnP_append_cons_of_forall_mem
      (fun token htoken => Token.kind_ne_comma (h token htoken)) token (by simpa using hcomma) _
  rw [ofList, Token.inList_append h, Token.inList_comma hcomma, Token.fromListEnd_append h,
    Token.fromListEnd_comma hcomma, hsplit, List.filter_append, Token.filter_comma h,
    List.nil_append, List.filter_cons_of_pos (by simpa using hcomma)]
  rfl

end Segment

/-! ## Reading segment by segment -/

namespace Segment

variable {within : Section} {stop : Position} {tokens rest : List Token}

theorem ofFront_mem {left : List Token} (h : left <:+ tokens) (position : Position)
    (behind : List Token) :
    Position.ofFront stop (left ++ ⟨.semicolon, position⟩ :: behind) ∈
      tokens.map (·.position) ++ [position] := by
  cases left with
  | nil => exact List.mem_append_right _ (List.mem_singleton_self _)
  | cons token left =>
      exact List.mem_append_left _ (List.mem_map_of_mem (h.subset List.mem_cons_self))

/-- Reading a segment in a definition and alone: it fails at the same place, which is within the
segment or at its end, or gives the same item and leaves the same tokens. -/
theorem read_cases (stop : Position) (within : Section) (tokens : List Token)
    (hrest : Outline.atItemEnd rest) :
    (∃ here there, Item.read stop within (tokens ++ rest) = .error here ∧
      read within ⟨tokens, .ofFront stop rest⟩ = .error there ∧ here.category = .syntactic ∧
      here.position = there.position ∧
      there.position ∈ tokens.map (·.position) ++ [.ofFront stop rest]) ∨
    ∃ item left, left <:+ tokens ∧
      Item.read stop within (tokens ++ rest) = .ok (item, left ++ rest) ∧
      read within ⟨tokens, .ofFront stop rest⟩ =
        .ok (item, left ++ [⟨.semicolon, .ofFront stop rest⟩]) := by
  have hend : SameEnd stop (.ofFront stop rest) rest [⟨.semicolon, .ofFront stop rest⟩] :=
    ⟨hrest, rfl, rfl⟩
  have halike := Item.read_alike hend within tokens
  unfold read
  generalize Item.read stop within (tokens ++ rest) = here at halike
  generalize Item.read (.ofFront stop rest) within
    (tokens ++ [⟨.semicolon, .ofFront stop rest⟩]) = there at halike ⊢
  cases halike with
  | ok item hleft => exact .inr ⟨item, _, hleft, rfl, rfl⟩
  | error hleft hcategory hhere hthere =>
      refine .inl ⟨_, _, rfl, rfl, hcategory, ?_, ?_⟩
      · rw [hhere, hthere, hend.front]
      · rw [hthere]
        exact ofFront_mem hleft _ _

theorem mem_of_flaw? {segment : Segment} {position : Position}
    (h : segment.flaw? within = some position) :
    position ∈ segment.tokens.map (·.position) ++ [segment.stop] := by
  obtain ⟨tokens, stop⟩ := segment
  have hend : Outline.atItemEnd [⟨.semicolon, stop⟩] := rfl
  rcases read_cases stop within tokens hend with
    ⟨_, there, -, hread, -, -, hmem⟩ | ⟨item, left, hleft, -, hread⟩
  · rw [flaw?, show read within ⟨tokens, stop⟩ = .error there from hread] at h
    obtain rfl := Option.some.inj h
    exact hmem
  · rw [flaw?, show read within ⟨tokens, stop⟩ = .ok (item, left ++ [⟨.semicolon, stop⟩]) from
      hread] at h
    simp only at h
    split at h
    · cases h
    · obtain rfl := Option.some.inj h
      exact ofFront_mem hleft _ _

/-- Whether entries hold what reading some segments one by one gives: their items, a diagnostic for
each flaw, and `more` behind them. -/
structure Gives (within : Section) (segments : List Segment) (more : List Diagnostic)
    (entries : List Entry) : Prop where
  items : Outline.items entries = segments.filterMap (item? within)
  problems : ∃ flaws : List Diagnostic, Outline.problems entries = flaws ++ more ∧
    flaws.map (·.position) = segments.filterMap (flaw? within) ∧
    ∀ flaw ∈ flaws, flaw.category = .syntactic

theorem Gives.append {first second : List Segment} {more : List Diagnostic}
    {entries following : List Entry} (hfirst : Gives within first [] entries)
    (hsecond : Gives within second more following) :
    Gives within (first ++ second) more (entries ++ following) := by
  obtain ⟨flaws, hflaws, hpositions, hcategory⟩ := hfirst.problems
  obtain ⟨others, hothers, hotherPositions, hotherCategory⟩ := hsecond.problems
  refine ⟨by simp [hfirst.items, hsecond.items], flaws ++ others, by simp [hflaws, hothers],
    by simp [hpositions, hotherPositions], ?_⟩
  intro flaw hflaw
  rcases List.mem_append.1 hflaw with h | h
  · exact hcategory flaw h
  · exact hotherCategory flaw h

theorem gives_readSegment (stop : Position) (within : Section)
    (h : ∀ token ∈ tokens, token.isTerminator = false)
    (hrest : Outline.atItemEnd rest) :
    Gives within [⟨tokens, .ofFront stop rest⟩] []
        (Outline.readSegment stop within (tokens ++ rest)).1 ∧
      (Outline.readSegment stop within (tokens ++ rest)).2 =
        (flaw? within ⟨tokens, .ofFront stop rest⟩).isNone := by
  rw [Outline.readSegment]
  rcases read_cases stop within tokens hrest with
    ⟨here, there, hhere, hread, hcategory, hposition, -⟩ | ⟨item, left, hleft, hhere, hread⟩
  · have hflaw : flaw? within ⟨tokens, .ofFront stop rest⟩ = some there.position := by
      rw [flaw?, hread]
    have hitem : item? within ⟨tokens, .ofFront stop rest⟩ = none := by rw [item?, hread]
    rw [hhere, hflaw]
    exact ⟨⟨by simp [hitem, Outline.items, Entry.item?], [here], rfl, by simp [hflaw, hposition],
      by simpa using hcategory⟩, rfl⟩
  · have hitem : item? within ⟨tokens, .ofFront stop rest⟩ = some item := by rw [item?, hread]
    rw [hhere]
    cases left with
    | nil =>
        have hend : Outline.atItemEnd ([] ++ rest) = true := hrest
        have hflaw : flaw? within ⟨tokens, .ofFront stop rest⟩ = none := by
          rw [flaw?, hread]
          exact if_pos rfl
        simp only [hend, if_true, hflaw]
        exact ⟨⟨by simp [hitem], [], rfl, by simp [hflaw], by simp⟩, rfl⟩
    | cons token left =>
        have hend : Outline.atItemEnd (token :: left ++ rest) = false :=
          h token (hleft.subset List.mem_cons_self)
        have hflaw : flaw? within ⟨tokens, .ofFront stop rest⟩ = some token.position := by
          rw [flaw?, hread]
          exact if_neg (by simp)
        simp only [hend, hflaw]
        exact ⟨⟨by simp [hitem, Outline.items, Entry.item?],
          [.unexpected stop "',' or ';'" (token :: left ++ rest)], rfl, by simp [hflaw]; rfl,
          by simp [Diagnostic.unexpected]⟩, rfl⟩

theorem exists_segment (tokens : List Token) :
    ∃ segment, (∀ token ∈ segment, token.isTerminator = false) ∧
      tokens = segment ++ Outline.skipItem tokens ∧
      Outline.atItemEnd (Outline.skipItem tokens) := by
  refine ⟨tokens.takeWhile fun token => !token.isTerminator, ?_, ?_, ?_⟩
  · intro token htoken
    simpa using List.mem_takeWhile_imp htoken
  · exact (List.takeWhile_append_dropWhile ..).symm
  · cases hskip : Outline.skipItem tokens with
    | nil => rfl
    | cons token rest =>
        have hhead := List.head?_dropWhile_not (fun token : Token => !token.isTerminator) tokens
        rw [show tokens.dropWhile _ = token :: rest from hskip] at hhead
        simpa [Outline.atItemEnd] using hhead

theorem ofList_ne_nil (stop : Position) (tokens : List Token) : ofList stop tokens ≠ [] := by
  simp [ofList, List.splitOnP_ne_nil]

theorem missingEnd_cons (segment : Segment) {segments : List Segment} (h : segments ≠ [])
    (rest : List Token) : missingEnd within stop (segment :: segments) rest =
      missingEnd within stop segments rest := by
  obtain ⟨next, others, rfl⟩ := List.exists_cons_of_ne_nil h
  rw [missingEnd, missingEnd, List.getLast?_cons_cons]

theorem gives_last (stop : Position) (within : Section)
    (h : ∀ token ∈ tokens, token.isTerminator = false)
    (hrest : Outline.atItemEnd rest)
    (hsemicolon : rest.head?.any (fun token => token.kind = .semicolon) = false) :
    Gives within [⟨tokens, .ofFront stop rest⟩]
      (missingEnd within stop [⟨tokens, .ofFront stop rest⟩] rest)
      ((Outline.readSegment stop within (tokens ++ rest)).1 ++
        Outline.missingSemicolon stop within
          (Outline.readSegment stop within (tokens ++ rest)).2 rest) := by
  obtain ⟨hgives, hcomplete⟩ := gives_readSegment stop within h hrest
  set segment : Segment := ⟨tokens, .ofFront stop rest⟩
  obtain ⟨flaws, hflaws, hpositions, hcategory⟩ := hgives.problems
  have hmissing : Outline.problems (Outline.missingSemicolon stop within
      (segment.flaw? within).isNone rest) = missingEnd within stop [segment] rest := by
    rw [missingEnd, hsemicolon]
    cases hflaw : segment.flaw? within <;> simp [Outline.missingSemicolon, hflaw]
  have hnoItem : Outline.items (Outline.missingSemicolon stop within
      (segment.flaw? within).isNone rest) = [] := by
    unfold Outline.missingSemicolon
    split <;> rfl
  rw [hcomplete]
  refine ⟨by simp [hgives.items, hnoItem], flaws, ?_, hpositions, hcategory⟩
  rw [Outline.problems_append, hflaws, hmissing, List.append_nil]

/-- Reading a list is reading its segments, up to a semicolon or in front of what else ends it. -/
theorem gives_readList (stop : Position) (within : Section) (tokens : List Token) :
    Gives within (ofList stop tokens)
        (missingEnd within stop (ofList stop tokens) (Token.fromListEnd tokens))
        (Outline.readList stop within tokens).1 ∧
      (Outline.readList stop within tokens).2 = Token.behindList tokens := by
  fun_induction Outline.readList stop within tokens with
  | case1 tokens entries isComplete heq hskip =>
      obtain ⟨segment, hsegment, htokens, hend⟩ := exists_segment tokens
      rw [hskip] at htokens hend
      have hlast := gives_last stop within hsegment hend rfl
      rw [← htokens, heq] at hlast
      rw [htokens, ofList_of_inList_eq_nil hsegment rfl, Token.fromListEnd_append hsegment,
        Token.behindList_append hsegment]
      exact ⟨hlast, rfl⟩
  | case2 tokens entries isComplete heq token rest hskip hcomma following remaining hrest ih =>
      obtain ⟨segment, hsegment, htokens, hend⟩ := exists_segment tokens
      rw [hskip] at htokens hend
      obtain ⟨hgives, -⟩ := gives_readSegment stop within hsegment hend
      rw [← htokens, heq] at hgives
      rw [hrest] at ih
      obtain ⟨hfollowing, rfl⟩ := ih
      rw [htokens, ofList_comma hsegment hcomma, Token.fromListEnd_append hsegment,
        Token.fromListEnd_comma hcomma, missingEnd_cons _ (ofList_ne_nil stop rest),
        Token.behindList_append hsegment, Token.behindList_comma hcomma]
      exact ⟨hgives.append hfollowing, rfl⟩
  | case3 tokens entries isComplete heq token rest hskip hcomma hsemicolon =>
      obtain ⟨segment, hsegment, htokens, hend⟩ := exists_segment tokens
      rw [hskip] at htokens hend
      obtain ⟨hgives, -⟩ := gives_readSegment stop within hsegment hend
      rw [← htokens, heq] at hgives
      have hends : token.endsList := by simp [Token.endsList, hsemicolon]
      rw [htokens, ofList_of_inList_eq_nil hsegment (Token.inList_of_endsList hends rest),
        Token.fromListEnd_append hsegment, Token.fromListEnd_of_endsList hends,
        Token.behindList_append hsegment, Token.behindList_of_semicolon hsemicolon, missingEnd,
        if_pos (by simpa using hsemicolon)]
      exact ⟨hgives, rfl⟩
  | case4 tokens entries isComplete heq token rest hskip hcomma hsemicolon =>
      obtain ⟨segment, hsegment, htokens, hend⟩ := exists_segment tokens
      rw [hskip] at htokens hend
      have hlast := gives_last stop within hsegment hend (by simpa using hsemicolon)
      rw [← htokens, heq] at hlast
      have hends : token.endsList := by
        have hterminator : token.isTerminator = true := hend
        simpa [Token.isTerminator, Token.endsList, hcomma] using hterminator
      rw [htokens, ofList_of_inList_eq_nil hsegment (Token.inList_of_endsList hends rest),
        Token.fromListEnd_append hsegment, Token.fromListEnd_of_endsList hends,
        Token.behindList_append hsegment, Token.behindList_of_endsList hends hsemicolon]
      exact ⟨hlast, rfl⟩

theorem gives_nil (within : Section) : Gives within [] [] [] :=
  ⟨rfl, [], rfl, rfl, by simp⟩

theorem gives_readBody (stop : Position) (opened : Section) (tokens : List Token) :
    Gives opened (ofBody opened stop tokens)
        (missingEnd opened stop (ofBody opened stop tokens) (Token.fromListEnd tokens))
        (Outline.readBody stop opened tokens).1 ∧
      (Outline.readBody stop opened tokens).2 = Token.behindList tokens := by
  unfold Outline.readBody
  split
  · exact ⟨gives_nil _, rfl⟩
  · exact ⟨gives_nil _, rfl⟩
  · next hconnect hmonitor =>
    have hlist : ¬ (opened ≠ .devices ∧
        (tokens.head?.any fun token => token.kind = .semicolon) = true) := by
      rintro ⟨hopened, hhead⟩
      cases tokens with
      | nil => cases hhead
      | cons token rest =>
          obtain ⟨kind, position⟩ := token
          obtain rfl : kind = .semicolon := by simpa using hhead
          cases opened with
          | devices => exact hopened rfl
          | connect => exact hconnect position rest rfl rfl
          | monitor => exact hmonitor position rest rfl rfl
    rw [ofBody, if_neg hlist]
    exact gives_readList stop opened tokens

/-! ## Places of problems -/

/-- A list has a last segment, or a first one in front of a comma and another list. -/
theorem list_induction {motive : List Token → Prop}
    (last : ∀ segment rest, (∀ token ∈ segment, token.isTerminator = false) →
      Token.inList rest = [] → Token.fromListEnd rest = rest → motive (segment ++ rest))
    (comma : ∀ segment token rest, (∀ token ∈ segment, token.isTerminator = false) →
      token.kind = .comma → motive rest → motive (segment ++ token :: rest))
    (tokens : List Token) : motive tokens := by
  obtain ⟨segment, hsegment, htokens, hend⟩ := exists_segment tokens
  cases hskip : Outline.skipItem tokens with
  | nil =>
      rw [htokens, hskip]
      exact last segment [] hsegment rfl rfl
  | cons token rest =>
      rw [hskip] at htokens hend
      by_cases hcomma : token.kind = .comma
      · have hshorter : rest.length < tokens.length := by
          rw [htokens, List.length_append, List.length_cons]
          omega
        rw [htokens]
        exact comma segment token rest hsegment hcomma (list_induction last comma rest)
      · have hends : token.endsList := by
          have hterminator : token.isTerminator = true := hend
          simpa [Token.isTerminator, Token.endsList, hcomma] using hterminator
        rw [htokens]
        exact last segment _ hsegment (Token.inList_of_endsList hends rest)
          (Token.fromListEnd_of_endsList hends rest)
termination_by tokens.length

/-- The problems of a list are at different places, in the order of the text: those of its tokens
and of its end. -/
theorem places_sublist (within : Section) (stop : Position) (tokens : List Token) :
    ((ofList stop tokens).filterMap (flaw? within) ++ (missingEnd within stop
        (ofList stop tokens) (Token.fromListEnd tokens)).map (·.position)).Sublist
      ((Token.inList tokens).map (·.position) ++ [.ofFront stop (Token.fromListEnd tokens)]) := by
  induction tokens using list_induction with
  | last segment rest hsegment hlist hend =>
      rw [ofList_of_inList_eq_nil hsegment hlist, Token.inList_append hsegment, hlist,
        Token.fromListEnd_append hsegment, hend, List.append_nil, missingEnd]
      cases hflaw : flaw? within ⟨segment, .ofFront stop rest⟩ with
      | some position =>
          have hmem := mem_of_flaw? hflaw
          simpa [hflaw] using hmem
      | none =>
          have hplace : (Position.ofFront stop rest) ∈
              segment.map (·.position) ++ [.ofFront stop rest] :=
            List.mem_append_right _ (List.mem_singleton_self _)
          split
          · simp [hflaw]
          · simp [hflaw, Diagnostic.unexpected]
  | comma segment token rest hsegment hcomma ih =>
      have hfirst : (flaw? within ⟨segment, token.position⟩).toList.Sublist
          (segment.map (·.position) ++ [token.position]) := by
        cases hflaw : flaw? within ⟨segment, token.position⟩ with
        | none => exact List.nil_sublist _
        | some position => exact List.singleton_sublist.2 (mem_of_flaw? hflaw)
      rw [ofList_comma hsegment hcomma, Token.inList_append hsegment, Token.inList_comma hcomma,
        Token.fromListEnd_append hsegment, Token.fromListEnd_comma hcomma,
        missingEnd_cons _ (ofList_ne_nil stop rest)]
      have hboth := hfirst.append ih
      cases hflaw : flaw? within ⟨segment, token.position⟩ <;> simpa [hflaw] using hboth

end Segment

namespace Outline

open Segment

variable {stop : Position} {opened : Section}

theorem problems_readBody_sublist (stop : Position) (opened : Section) (tokens : List Token) :
    ((problems (readBody stop opened tokens).1).map (·.position)).Sublist
      ((Token.inList tokens).map (·.position) ++ [.ofFront stop (Token.fromListEnd tokens)]) := by
  obtain ⟨hgives, -⟩ := gives_readBody stop opened tokens
  obtain ⟨flaws, hproblems, hpositions, -⟩ := hgives.problems
  rw [hproblems, List.map_append, hpositions]
  by_cases hempty : opened ≠ .devices ∧ (tokens.head?.any fun token => token.kind = .semicolon)
  · have hsemicolon :
        (Token.fromListEnd tokens).head?.any fun token => token.kind = .semicolon := by
      cases tokens with
      | nil => exact hempty.2
      | cons token rest =>
          have hkind : token.kind = .semicolon := by simpa using hempty.2
          rw [Token.fromListEnd_of_endsList (by simp [Token.endsList, hkind])]
          exact hempty.2
    rw [ofBody, if_pos hempty, missingEnd, if_pos hsemicolon]
    exact List.nil_sublist _
  · rw [ofBody, if_neg hempty]
    exact places_sublist opened stop tokens

theorem category_of_mem_problems_readBody {tokens : List Token} {problem : Diagnostic}
    (h : problem ∈ problems (readBody stop opened tokens).1) : problem.category = .syntactic := by
  obtain ⟨hgives, -⟩ := gives_readBody stop opened tokens
  obtain ⟨flaws, hproblems, -, hcategory⟩ := hgives.problems
  rw [hproblems] at h
  rcases List.mem_append.1 h with hflaw | hmissing
  · exact hcategory problem hflaw
  · unfold missingEnd at hmissing
    split at hmissing
    · cases hmissing
    · split at hmissing
      · cases hmissing
      · obtain rfl := List.mem_singleton.1 hmissing
        rfl

end Outline

end LogicBench
