import LogicBench.Proofs.Definition.Grammar
import LogicBench.Proofs.Definition.Items
import LogicBench.Proofs.Definition.Relocation
import Mathlib.Data.List.Forall2

/-!
# Pieces of a section

The items of a section are spelled by the pieces between its commas. What a piece spells is said by
the kinds of its tokens, up to the places of the item: other tokens of the same kinds spell the same
item somewhere else, and pieces in another order spell the items in that order.
-/

namespace LogicBench

open Token (kinds kinds_append)

def Token.unplaced (token : Token) : Token :=
  token.move fun _ => .start

def Item.unplaced (item : Item) : Item :=
  item.move fun _ => .start

theorem Token.map_unplaced_eq {tokens others : List Token} (h : kinds others = kinds tokens) :
    others.map unplaced = tokens.map unplaced := by
  have hkinds (tokens : List Token) :
      tokens.map unplaced = (kinds tokens).map fun kind => ⟨kind, .start⟩ := by
    rw [kinds, List.map_map]
    rfl
  rw [hkinds, hkinds, h]

theorem Outline.items_move (f : Position → Position) (outline : Outline) :
    items (outline.move f).entries = (items outline.entries).map (Item.move f) := by
  have hitem (entry : Entry) : (entry.move f).item? = entry.item?.map (Item.move f) := by
    cases entry <;> rfl
  simp only [items, move, List.filterMap_map, List.map_filterMap, Function.comp_def, hitem]

theorem Outline.problems_move (f : Position → Position) (outline : Outline) :
    problems (outline.move f).entries = (problems outline.entries).map (Diagnostic.move f) := by
  have hproblem (entry : Entry) :
      (entry.move f).problem? = entry.problem?.map (Diagnostic.move f) := by
    cases entry <;> rfl
  simp only [problems, move, List.filterMap_map, List.map_filterMap, Function.comp_def, hproblem]

namespace Item

variable {within : Section} {item : Item} {items : List Item} {tokens others : List Token}

/-! ## Other places -/

theorem read_unplaced (within : Section) (tokens : List Token) :
    Item.read .start within (tokens.map Token.unplaced) =
      moveOutcome (fun _ => .start) (moveRead (fun _ => .start) unplaced)
        (Item.read .start within tokens) :=
  @read_move (fun _ => .start) .start within tokens

theorem SpelledBy.exists_of_kinds_eq (hspelled : item.SpelledBy within tokens)
    (h : kinds others = kinds tokens) :
    ∃ same : Item, same.SpelledBy within others ∧ same.unplaced = item.unplaced := by
  have hread : Item.read .start within tokens = .ok (item, []) := by
    simpa using @read_of_spelledBy .start tokens [] within item hspelled rfl
  have hmoved := read_unplaced within others
  rw [Token.map_unplaced_eq h, read_unplaced, hread] at hmoved
  cases hother : Item.read .start within others with
  | error diagnostic =>
      rw [hother] at hmoved
      cases hmoved
  | ok result =>
      obtain ⟨same, rest⟩ := result
      rw [hother] at hmoved
      obtain ⟨hitem, hrest⟩ := Prod.mk.inj (Except.ok.inj hmoved)
      obtain rfl : rest = [] := List.map_eq_nil_iff.1 hrest.symm
      obtain ⟨used, rfl, hused⟩ := spelledBy_of_read hother
      rw [List.append_nil]
      exact ⟨same, hused, hitem.symm⟩

theorem readSections_unplaced (last : Option Section) (tokens : List Token) :
    Outline.readSections .start last (tokens.map Token.unplaced) =
      (Outline.readSections .start last tokens).move fun _ => .start :=
  @Outline.readSections_move (fun _ => .start) .start last tokens

theorem SectionsSpelledBy.exists_of_kinds_eq {last : Option Section}
    (hspelled : SectionsSpelledBy last items tokens) (h : kinds others = kinds tokens) :
    ∃ same, SectionsSpelledBy last same others ∧ same.map unplaced = items.map unplaced := by
  obtain ⟨hitems, hproblems⟩ := @Outline.readSections_of_sectionsSpelledBy .start _ _ _ hspelled
  have hmoved := readSections_unplaced last others
  rw [Token.map_unplaced_eq h, readSections_unplaced] at hmoved
  have hentries := congrArg Outline.entries hmoved
  have hsame := congrArg Outline.items hentries
  have hnone := congrArg Outline.problems hentries
  rw [Outline.items_move, Outline.items_move, hitems] at hsame
  rw [Outline.problems_move, Outline.problems_move, hproblems] at hnone
  exact ⟨_, Outline.sectionsSpelledBy_of_readSections (List.map_eq_nil_iff.1 hnone.symm),
    hsame.symm⟩

/-! ## Between commas -/

def SpelledByKinds (within : Section) (item : Item) (word : List TokenKind) : Prop :=
  ∃ tokens, kinds tokens = word ∧ item.SpelledBy within tokens

theorem SpelledBy.not_mem_kinds (h : item.SpelledBy within tokens) :
    .comma ∉ kinds tokens ∧ .semicolon ∉ kinds tokens := by
  have hnone (kind : TokenKind) (hkind : ∀ position, (Token.mk kind position).isTerminator) :
      kind ∉ kinds tokens := by
    intro hmem
    obtain ⟨token, htoken, rfl⟩ := List.mem_map.1 hmem
    have hterminator := hkind token.position
    rw [not_isTerminator_of_spelledBy h token htoken] at hterminator
    cases hterminator
  exact ⟨hnone .comma fun _ => rfl, hnone .semicolon fun _ => rfl⟩

theorem ListSpelledBy.exists_pieces (h : ListSpelledBy within items tokens) :
    ∃ listed semicolon, tokens = listed ++ [⟨.semicolon, semicolon⟩] ∧
      .semicolon ∉ kinds listed ∧
      List.Forall₂ (SpelledByKinds within) items ((kinds listed).splitOn .comma) := by
  induction h with
  | @last item tokens semicolon h =>
      obtain ⟨hcomma, hsemicolon⟩ := h.not_mem_kinds
      refine ⟨tokens, semicolon, rfl, hsemicolon, ?_⟩
      rw [List.splitOn_eq_singleton hcomma]
      exact .cons ⟨tokens, rfl, h⟩ .nil
  | @more item items tokens rest comma h _ ih =>
      obtain ⟨listed, semicolon, rfl, hlisted, hpieces⟩ := ih
      obtain ⟨hcomma, hsemicolon⟩ := h.not_mem_kinds
      refine ⟨tokens ++ ⟨.comma, comma⟩ :: listed, semicolon, by simp, by simp [*], ?_⟩
      rw [kinds_append, Token.kinds_cons, List.splitOn_append_cons_self_of_not_mem hcomma]
      exact .cons ⟨tokens, rfl, h⟩ hpieces

theorem exists_listSpelledBy_of_pieces (semicolon : Position) {pieces : List (List TokenKind)}
    (h : List.Forall₂ (SpelledByKinds within) items pieces) (hpieces : pieces ≠ [])
    (htokens : kinds tokens = [.comma].intercalate pieces) :
    ∃ same, ListSpelledBy within same (tokens ++ [⟨.semicolon, semicolon⟩]) ∧
      same.map unplaced = items.map unplaced := by
  induction h generalizing tokens with
  | nil => exact absurd rfl hpieces
  | @cons item piece items pieces hitem hrest ih =>
      obtain ⟨spelling, rfl, hspelled⟩ := hitem
      cases hrest with
      | nil =>
          rw [List.intercalate_singleton] at htokens
          obtain ⟨same, hsame, hunplaced⟩ := hspelled.exists_of_kinds_eq htokens
          exact ⟨[same], .last hsame, congrArg ([·]) hunplaced⟩
      | @cons _ next _ behind _ _ =>
          rw [List.intercalate_cons_cons, List.append_assoc, List.singleton_append] at htokens
          obtain ⟨first, second, rfl, hfirst, hsecond⟩ := List.map_eq_append_iff.1 htokens
          obtain ⟨⟨kind, comma⟩, rest, rfl, rfl, hbehind⟩ := List.map_eq_cons_iff.1 hsecond
          obtain ⟨same, hsame, hunplaced⟩ := hspelled.exists_of_kinds_eq hfirst
          obtain ⟨others, hothers, hmore⟩ := ih (List.cons_ne_nil _ _) hbehind
          refine ⟨same :: others, ?_, ?_⟩
          · rw [List.append_assoc]
            exact .more hsame hothers
          · rw [List.map_cons, List.map_cons, hunplaced, hmore]

theorem BodySpelledBy.exists_semicolon (h : BodySpelledBy within items tokens) :
    ∃ listed semicolon, tokens = listed ++ [⟨.semicolon, semicolon⟩] ∧
      .semicolon ∉ kinds listed := by
  cases h with
  | items h =>
      obtain ⟨listed, semicolon, rfl, hlisted, -⟩ := h.exists_pieces
      exact ⟨listed, semicolon, rfl, hlisted⟩
  | noConnections semicolon => exact ⟨[], semicolon, rfl, List.not_mem_nil⟩
  | noSignals semicolon => exact ⟨[], semicolon, rfl, List.not_mem_nil⟩

theorem BodySpelledBy.exists_of_pieces_perm {listed relisted : List Token} {here : Position}
    (h : BodySpelledBy .connect items (listed ++ [⟨.semicolon, here⟩]))
    (hperm : ((kinds listed).splitOn .comma).Perm ((kinds relisted).splitOn .comma))
    (there : Position) :
    ∃ swapped same, items.Perm swapped ∧ same.map unplaced = swapped.map unplaced ∧
      BodySpelledBy .connect same (relisted ++ [⟨.semicolon, there⟩]) := by
  have hjoined : kinds relisted =
      [TokenKind.comma].intercalate ((kinds relisted).splitOn .comma) :=
    (List.intercalate_splitOn TokenKind.comma).symm
  generalize htokens : listed ++ [⟨.semicolon, here⟩] = tokens at h
  cases h with
  | items h =>
      obtain ⟨inner, semicolon, rfl, -, hpieces⟩ := h.exists_pieces
      obtain rfl : listed = inner := List.append_inj_left' htokens rfl
      -- The items are put in the order of the pieces that spell them.
      have hcomp : Relation.Comp (List.Forall₂ (SpelledByKinds .connect)) List.Perm items
          ((kinds relisted).splitOn .comma) := ⟨_, hpieces, hperm⟩
      rw [List.forall₂_comp_perm_eq_perm_comp_forall₂] at hcomp
      obtain ⟨swapped, hswapped, hspelled⟩ := hcomp
      obtain ⟨same, hsame, hunplaced⟩ := exists_listSpelledBy_of_pieces there hspelled
        (List.splitOn_ne_nil _ _) hjoined
      exact ⟨swapped, same, hswapped, hunplaced, .items hsame⟩
  | noConnections semicolon =>
      obtain rfl : listed = [] := List.append_inj_left' (htokens.trans (List.nil_append _).symm) rfl
      have hpieces := List.perm_singleton.1 hperm.symm
      rw [hpieces] at hjoined
      obtain rfl : relisted = [] := List.map_eq_nil_iff.1 hjoined
      exact ⟨[], [], .refl _, rfl, .noConnections there⟩

/-! ## A section among others -/

theorem BodySpelledBy.not_isBoundary (h : BodySpelledBy within items tokens) :
    ∀ token ∈ tokens, token.isBoundary = false := by
  have hspelled {item : Item} {tokens : List Token} (h : item.SpelledBy within tokens) :
      ∀ token ∈ tokens, token.isBoundary = false := by
    intro token htoken
    have hterminator := not_isTerminator_of_spelledBy h token htoken
    rw [Token.isTerminator, Bool.or_eq_false_iff] at hterminator
    exact hterminator.2
  have hlist {items : List Item} {tokens : List Token} (h : ListSpelledBy within items tokens) :
      ∀ token ∈ tokens, token.isBoundary = false := by
    induction h with
    | last h => exact List.forall_mem_append.2 ⟨hspelled h, by simp [Token.isBoundary]⟩
    | more h _ ih =>
        exact List.forall_mem_append.2 ⟨hspelled h, List.forall_mem_cons.2 ⟨rfl, ih⟩⟩
  cases h with
  | items h => exact hlist h
  | noConnections semicolon => simp [Token.isBoundary]
  | noSignals semicolon => simp [Token.isBoundary]

/-- Where a section is opened, the tokens in front of it spell items of their own, and the section
and what is behind it can be exchanged for others. -/
theorem SectionsSpelledBy.exists_opening {last : Option Section} {opened : Section}
    {position : Position} {front after : List Token}
    (h : SectionsSpelledBy last items (front ++ ⟨.keyword (.opening opened), position⟩ :: after)) :
    ∃ leading inner rest body behind, items = leading ++ (inner ++ rest) ∧ after = body ++ behind ∧
      BodySpelledBy opened inner body ∧ SectionsSpelledBy (some opened) rest behind ∧
      (∃ parts, Parts parts leading front) ∧
      ∀ {inner rest : List Item} {body behind : List Token}, BodySpelledBy opened inner body →
        SectionsSpelledBy (some opened) rest behind →
        SectionsSpelledBy last (leading ++ (inner ++ rest))
          (front ++ ⟨.keyword (.opening opened), position⟩ :: (body ++ behind)) := by
  generalize htokens : front ++ ⟨.keyword (.opening opened), position⟩ :: after = tokens at h
  induction h generalizing front with
  | finish =>
      cases front with
      | nil => cases htokens
      | cons token front =>
          obtain ⟨-, hnil⟩ := List.cons.inj htokens
          cases front <;> cases hnil
  | @opening last earlier place items rest tokens behind horder hbody hrest ih =>
      cases front with
      | nil =>
          obtain ⟨htoken, rfl⟩ := List.cons.inj htokens
          cases htoken
          refine ⟨[], items, rest, tokens, behind, rfl, rfl, hbody, hrest, ⟨[], parts_nil _⟩,
            fun hnew hbehind => ?_⟩
          rw [List.nil_append, List.nil_append]
          exact .opening horder hnew hbehind
      | cons token front =>
          obtain ⟨rfl, htail⟩ := List.cons.inj htokens
          have hfront : ∃ more, front = tokens ++ more ∧
              more ++ ⟨.keyword (.opening opened), position⟩ :: after = behind := by
            rcases List.append_eq_append_iff.1 htail with ⟨more, htokens, hmore⟩ | ⟨more, rfl, rfl⟩
            · -- The keyword is not within the body of a section.
              cases more with
              | nil => exact ⟨[], by simpa using htokens.symm, hmore⟩
              | cons keyword more =>
                  obtain ⟨rfl, -⟩ := List.cons.inj hmore
                  have hboundary := hbody.not_isBoundary _
                    (htokens ▸ List.mem_append_right _ List.mem_cons_self)
                  cases hboundary
            · exact ⟨more, rfl, rfl⟩
          obtain ⟨more, rfl, hmore⟩ := hfront
          obtain ⟨leading, inner, others, body, remaining, rfl, hafter, hinner, hothers,
            ⟨parts, hparts⟩, hexchange⟩ := ih hmore
          obtain ⟨first, hfirst⟩ := hbody.exists_parts
          refine ⟨items ++ leading, inner, others, body, remaining, by simp, hafter, hinner,
            hothers, ⟨_, (hfirst.cons_token _).append hparts⟩, fun hnew hbehind => ?_⟩
          simpa using @SectionsSpelledBy.opening last earlier place _ _ _ _ horder hbody
            (hexchange hnew hbehind)

end Item

/-- Whether two lists of tokens differ at most in the order of the connections, of which there is
one between two commas of the section, and in the places of the tokens behind the keyword. -/
inductive Token.Reordered : List Token → List Token → Prop
  | connections {front listed relisted behind rebehind : List Token}
      {position here there : Position} (hlisted : .semicolon ∉ kinds listed)
      (hperm : ((kinds listed).splitOn .comma).Perm ((kinds relisted).splitOn .comma))
      (hbehind : kinds rebehind = kinds behind) :
      Reordered
        (front ++ ⟨.keyword (.opening .connect), position⟩ ::
          (listed ++ ⟨.semicolon, here⟩ :: behind))
        (front ++ ⟨.keyword (.opening .connect), position⟩ ::
          (relisted ++ ⟨.semicolon, there⟩ :: rebehind))

namespace Token

variable {tokens others : List Token} {items : List Item}

/-- Tokens are told apart by their first semicolon. -/
theorem append_semicolon_inj {first second behind rest : List Token} {here there : Position}
    (hfirst : .semicolon ∉ kinds first) (hsecond : .semicolon ∉ kinds second)
    (h : first ++ ⟨.semicolon, here⟩ :: behind = second ++ ⟨.semicolon, there⟩ :: rest) :
    first = second ∧ here = there ∧ behind = rest := by
  induction first generalizing second with
  | nil =>
      cases second with
      | nil =>
          obtain ⟨hsemicolon, hbehind⟩ := List.cons.inj h
          exact ⟨rfl, congrArg Token.position hsemicolon, hbehind⟩
      | cons token second =>
          obtain ⟨rfl, -⟩ := List.cons.inj h
          exact absurd List.mem_cons_self hsecond
  | cons token first ih =>
      cases second with
      | nil =>
          obtain ⟨rfl, -⟩ := List.cons.inj h
          exact absurd List.mem_cons_self hfirst
      | cons same second =>
          obtain ⟨rfl, htail⟩ := List.cons.inj h
          obtain ⟨rfl, hrest⟩ := ih (fun hmem => hfirst (List.mem_cons_of_mem _ hmem))
            (fun hmem => hsecond (List.mem_cons_of_mem _ hmem)) htail
          exact ⟨rfl, hrest⟩

theorem mem_intercalate_comma {kind : TokenKind} (hkind : kind ≠ .comma)
    (pieces : List (List TokenKind)) :
    kind ∈ [TokenKind.comma].intercalate pieces ↔ ∃ piece ∈ pieces, kind ∈ piece := by
  induction pieces with
  | nil => simp [List.intercalate]
  | cons piece rest ih =>
      cases rest with
      | nil => simp [List.intercalate_singleton]
      | cons next behind =>
          rw [List.intercalate_cons_cons, List.append_assoc, List.mem_append, List.mem_append, ih,
            List.exists_mem_cons_iff]
          simp [hkind]

theorem Reordered.mem_kinds_iff (h : Reordered tokens others) {kind : TokenKind}
    (hkind : kind ≠ .comma) : kind ∈ kinds others ↔ kind ∈ kinds tokens := by
  cases h with
  | @connections front listed relisted behind rebehind _ _ _ _ hperm hbehind =>
      have hpieces (word : List TokenKind) :
          kind ∈ word ↔ ∃ piece ∈ word.splitOn .comma, kind ∈ piece := by
        rw [← mem_intercalate_comma hkind, List.intercalate_splitOn]
      have hlisted : kind ∈ kinds relisted ↔ kind ∈ kinds listed := by
        rw [hpieces, hpieces]
        simp only [hperm.mem_iff]
      simp only [kinds_append, kinds_cons, List.mem_append, List.mem_cons, hlisted, hbehind]

/-- Reordered tokens spell the same items, up to the order of the connections and to the places of
the items that do not stand in front of them. -/
theorem Reordered.exists_items (h : Reordered tokens others)
    (hspelled : Item.SectionsSpelledBy none items tokens) :
    ∃ front leading inner rest swapped reinner rerest, items = leading ++ (inner ++ rest) ∧
      (∃ parts, Item.Parts parts leading front) ∧ front <+: tokens ∧ front <+: others ∧
      (∀ item ∈ inner, item.inSection = .connect) ∧ (∀ item ∈ rest, item.inSection = .monitor) ∧
      inner.Perm swapped ∧ reinner.map Item.unplaced = swapped.map Item.unplaced ∧
      rerest.map Item.unplaced = rest.map Item.unplaced ∧
      Item.SectionsSpelledBy none (leading ++ (reinner ++ rerest)) others := by
  cases h with
  | @connections front listed relisted behind rebehind position here there hlisted hperm hbehind =>
      obtain ⟨leading, inner, rest, body, remaining, rfl, hafter, hinner, hrest, hparts,
        hexchange⟩ := hspelled.exists_opening
      obtain ⟨within, semicolon, rfl, hwithin⟩ := hinner.exists_semicolon
      rw [List.append_assoc, List.singleton_append] at hafter
      obtain ⟨rfl, rfl, rfl⟩ := append_semicolon_inj hlisted hwithin hafter
      obtain ⟨swapped, reinner, hswapped, hreinner, hbody⟩ :=
        hinner.exists_of_pieces_perm hperm there
      obtain ⟨rerest, hrerest, hsame⟩ := hrest.exists_of_kinds_eq hbehind
      have hmonitor : ∀ item ∈ rest, item.inSection = .monitor := by
        intro item hmem
        have hrank := (Item.pairwise_rank_of_sectionsSpelledBy hrest).1 _ rfl item hmem
        revert hrank
        cases item.inSection <;> decide
      have hothers := hexchange hbody hrerest
      rw [List.append_assoc, List.singleton_append] at hothers
      exact ⟨front, leading, inner, rest, swapped, reinner, rerest, rfl, hparts,
        List.prefix_append _ _, List.prefix_append _ _, Item.inSection_of_bodySpelledBy hinner,
        hmonitor, hswapped, hreinner, hsame, hothers⟩

end Token

end LogicBench
