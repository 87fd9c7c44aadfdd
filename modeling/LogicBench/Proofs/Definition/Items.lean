import LogicBench.Proofs.Definition.Spelling
import LogicBench.Proofs.Definition.Tokens
import Mathlib.Data.List.Nodup

/-!
# Items of a text

What holds of the items that the tokens of a text spell: they come in the order of their sections,
no two are at the same place, and the words in them are well formed.
-/

namespace LogicBench.Item

/-- The places of an item at which it can be refused. -/
def positions : Item → List Position
  | .device declared =>
    declared.position :: declared.kindPosition :: (declared.qualifier.map (·.position)).toList
  | .connection source destination => [source.position, destination.position]
  | .signal reference => [reference.position]

def inSection : Item → Section
  | .device _ => .devices
  | .connection _ _ => .connect
  | .signal _ => .monitor

def Precedes (first second : Item) : Prop :=
  first.positions.Disjoint second.positions ∧ first.inSection.rank ≤ second.inSection.rank

/-- Whether the name that an item declares is an identifier and its qualifier a number. -/
def WellFormed : Item → Prop
  | .device declared =>
    IsIdentifier declared.name ∧
      ∀ qualifier ∈ declared.qualifier, ∀ c ∈ qualifier.digits.toList, c.isDigit
  | _ => True

variable {within : Section} {item : Item} {items : List Item} {tokens : List Token}

theorem inSection_of_spelledBy (h : item.SpelledBy within tokens) : item.inSection = within := by
  cases h <;> rfl

theorem inSection_of_listSpelledBy (h : ListSpelledBy within items tokens) :
    ∀ item ∈ items, item.inSection = within := by
  induction h with
  | last hitem =>
      intro item hmem
      obtain rfl := List.mem_singleton.1 hmem
      exact inSection_of_spelledBy hitem
  | more hitem _ ih =>
      intro item hmem
      rcases List.mem_cons.1 hmem with rfl | hrest
      · exact inSection_of_spelledBy hitem
      · exact ih item hrest

theorem inSection_of_bodySpelledBy (h : BodySpelledBy within items tokens) :
    ∀ item ∈ items, item.inSection = within := by
  cases h with
  | items h => exact inSection_of_listSpelledBy h
  | noConnections _ => simp
  | noSignals _ => simp

/-- Items come in the order of their sections, behind the section opened before. -/
theorem pairwise_rank_of_sectionsSpelledBy {last : Option Section}
    (h : SectionsSpelledBy last items tokens) :
    (∀ before ∈ last, ∀ item ∈ items, before.rank < item.inSection.rank) ∧
      items.Pairwise fun first second => first.inSection.rank ≤ second.inSection.rank := by
  induction h with
  | finish => simp
  | @opening last opened position items rest tokens behind horder hbody hrest ih =>
      have hhere := inSection_of_bodySpelledBy hbody
      obtain ⟨hbehind, hpairwise⟩ := ih
      have hlater (item : Item) (hmem : item ∈ rest) : opened.rank < item.inSection.rank :=
        hbehind opened rfl item hmem
      constructor
      · intro before hbefore item hmem
        rw [Option.mem_def.1 hbefore] at horder
        have hlt : before.rank < opened.rank := horder
        rcases List.mem_append.1 hmem with hbodyMem | hrestMem
        · rw [hhere item hbodyMem]
          exact hlt
        · have := hlater item hrestMem
          omega
      · refine List.pairwise_append.2 ⟨?_, hpairwise, ?_⟩
        · apply List.pairwise_of_forall_mem_list
          intro first hfirst second hsecond
          have hsame : first.inSection = second.inSection :=
            (hhere first hfirst).trans (hhere second hsecond).symm
          exact Nat.le_of_eq (congrArg Section.rank hsame)
        · intro first hfirst second hsecond
          rw [hhere first hfirst]
          exact Nat.le_of_lt (hlater second hsecond)

theorem position_of_reference {reference : Reference} (h : reference.SpelledBy tokens) :
    [reference.position].Sublist (tokens.map Token.position) := by
  cases h <;> simp

theorem positions_sublist (h : item.SpelledBy within tokens) :
    item.positions.Sublist (tokens.map Token.position) := by
  cases h with
  | device _ hqualifier => cases hqualifier <;> simp [positions]
  | @connection source destination left right arrow hsource hdestination =>
      have hright := (position_of_reference hdestination).cons arrow
      have hboth := (position_of_reference hsource).append hright
      simpa [positions] using hboth
  | signal h => exact position_of_reference h

theorem flatMap_positions_sublist {parts : List (Item × List Token)}
    (h : ∀ part ∈ parts, ∃ within, part.1.SpelledBy within part.2) :
    ((parts.map Prod.fst).flatMap positions).Sublist
      ((parts.flatMap Prod.snd).map Token.position) := by
  induction parts with
  | nil => exact List.Sublist.slnil
  | cons part rest ih =>
      obtain ⟨within, hspelled⟩ := h part List.mem_cons_self
      have hrest := ih fun other hother => h other (List.mem_cons_of_mem part hother)
      simpa using (positions_sublist hspelled).append hrest

theorem wellFormed_of_spelledBy (h : item.SpelledBy within tokens)
    (htokens : ∀ token ∈ tokens, token.kind.WellFormed) : item.WellFormed := by
  cases h with
  | @device name position colon kind token qualifier tokens hkind hqualifier =>
      refine ⟨htokens ⟨.name name, position⟩ List.mem_cons_self, ?_⟩
      cases hqualifier with
      | none => simp
      | some digits place =>
          intro qualifier hmem
          cases hmem
          exact htokens ⟨.number digits, place⟩ (by simp)
  | connection _ _ => trivial
  | signal _ => trivial

variable {source : String}

theorem wellFormed_of_sectionsSpelledBy {last : Option Section}
    (h : SectionsSpelledBy last items (TokenStream.ofSource source).tokens) :
    ∀ item ∈ items, item.WellFormed := by
  obtain ⟨parts, hparts⟩ := h.exists_parts
  rw [← hparts.items]
  intro item hmem
  obtain ⟨part, hpart, rfl⟩ := List.mem_map.1 hmem
  obtain ⟨within, hspelled⟩ := hparts.spelled part hpart
  apply wellFormed_of_spelledBy hspelled
  intro token htoken
  have hall : token ∈ parts.flatMap Prod.snd := List.mem_flatMap.2 ⟨part, hpart, htoken⟩
  exact TokenStream.wellFormed_of_mem (hparts.sublist.subset hall)

theorem precedes_of_sectionsSpelledBy {last : Option Section}
    (h : SectionsSpelledBy last items (TokenStream.ofSource source).tokens) :
    items.Pairwise Precedes := by
  obtain ⟨parts, hparts⟩ := h.exists_parts
  have hplaces := flatMap_positions_sublist hparts.spelled
  rw [hparts.items] at hplaces
  have hnodup : (items.flatMap positions).Nodup :=
    (TokenStream.nodup_positions source).sublist
      (hplaces.trans (hparts.sublist.map Token.position))
  have hdisjoint := (List.nodup_flatMap.1 hnodup).2
  exact hdisjoint.and (pairwise_rank_of_sectionsSpelledBy h).2

end LogicBench.Item
