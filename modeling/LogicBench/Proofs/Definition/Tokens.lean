import LogicBench.Definition.Token

/-!
# Tokens of a text

The names among the tokens of a text are identifiers and the numbers are digits. Each token starts
behind the one before it, so that a token is known by its place.
-/

namespace LogicBench

def IsIdentifier (text : String) : Prop :=
  ∃ first rest, text.toList = first :: rest ∧ first.isAlpha ∧ ∀ c ∈ rest, c.isAlphanum

def TokenKind.WellFormed : TokenKind → Prop
  | .name text => IsIdentifier text
  | .number digits => ∀ c ∈ digits.toList, c.isDigit
  | _ => True

namespace Position

theorem offset_after_le (position : Position) (text : List Char) :
    position.offset ≤ (position.after text).offset := by
  induction text generalizing position with
  | nil => exact Nat.le_refl _
  | cons c rest ih =>
      have hstep : position.offset ≤ (position.advance c).offset := by
        unfold advance
        split <;> exact Nat.le_add_right _ _
      exact Nat.le_trans hstep (ih (position.advance c))

theorem offset_after_lt (position : Position) {text : List Char} (h : text ≠ []) :
    position.offset < (position.after text).offset := by
  cases text with
  | nil => exact absurd rfl h
  | cons c rest =>
      have hsize := c.utf8Size_pos
      have hstep : position.offset < (position.advance c).offset := by
        unfold advance
        split <;> exact Nat.lt_add_of_pos_right hsize
      exact Nat.lt_of_lt_of_le hstep (offset_after_le (position.advance c) rest)

end Position

namespace Lexeme

theorem wellFormed_ofWord {c : Char} {rest : List Char} (hletter : c.isAlpha)
    (hrest : ∀ other ∈ rest, other.isAlphanum) : (ofWord (c :: rest)).WellFormed := by
  unfold ofWord
  split
  · trivial
  · exact ⟨c, rest, by simp, hletter, hrest⟩

theorem wellFormed_ofMark (c : Char) : (ofMark c).WellFormed := by
  unfold ofMark
  repeat (split; · trivial)
  trivial

theorem wellFormed_of_first {c : Char} {rest : List Char} {kind : TokenKind}
    (h : (first c rest).1 = .token kind) : kind.WellFormed := by
  have hall (p : Char → Bool) : ∀ other ∈ rest.takeWhile p, p other := by
    intro other hother
    exact List.all_eq_true.1 List.all_takeWhile other hother
  unfold first at h
  split at h
  · cases h
  split at h
  · cases h
  split at h
  · next hletter =>
    cases h
    exact wellFormed_ofWord hletter (hall isWordPart)
  split at h
  · next hdigit =>
    cases h
    simpa [TokenKind.WellFormed, hdigit] using hall Char.isDigit
  split at h
  · split at h
    · cases h
    · cases h
      trivial
  · cases h
    exact wellFormed_ofMark c

theorem wellFormed_of_mem_ofText {source : List Char} {kind : TokenKind}
    (h : .token kind ∈ ofText source) : kind.WellFormed := by
  fun_induction ofText source with
  | case1 => cases h
  | case2 c rest ih =>
      rcases List.mem_cons.1 h with hfirst | hrest
      · exact wellFormed_of_first hfirst.symm
      · exact ih hrest

theorem text_first_ne_nil (c : Char) (rest : List Char) : (first c rest).1.text ≠ [] := by
  intro hnil
  have hall := congrArg List.length (text_first_append c rest)
  have hrest := length_first_le c rest
  rw [hnil, List.nil_append, List.length_cons] at hall
  omega

theorem text_ne_nil_of_mem_ofText {source : List Char} {lexeme : Lexeme}
    (h : lexeme ∈ ofText source) : lexeme.text ≠ [] := by
  fun_induction ofText source with
  | case1 => cases h
  | case2 c rest ih =>
      rcases List.mem_cons.1 h with rfl | hrest
      · exact text_first_ne_nil c rest
      · exact ih hrest

end Lexeme

namespace Token

theorem place_cons (position : Position) (lexeme : Lexeme) (rest : List Lexeme) :
    place position (lexeme :: rest) = (match lexeme with
      | .token kind => [⟨kind, position⟩]
      | _ => []) ++ place (position.after lexeme.text) rest := by
  cases lexeme <;> rfl

theorem mem_lexemes_of_mem_place {position : Position} {lexemes : List Lexeme} {token : Token}
    (h : token ∈ place position lexemes) : .token token.kind ∈ lexemes := by
  induction lexemes generalizing position with
  | nil => cases h
  | cons lexeme rest ih =>
      rw [place_cons] at h
      rcases List.mem_append.1 h with hfirst | hrest
      · cases lexeme with
        | token kind =>
            obtain rfl := List.mem_singleton.1 hfirst
            exact List.mem_cons_self
        | _ => cases hfirst
      · exact List.mem_cons_of_mem _ (ih hrest)

theorem offset_le_of_mem_place {position : Position} {lexemes : List Lexeme} {token : Token}
    (h : token ∈ place position lexemes) : position.offset ≤ token.position.offset := by
  induction lexemes generalizing position with
  | nil => cases h
  | cons lexeme rest ih =>
      rw [place_cons] at h
      rcases List.mem_append.1 h with hfirst | hrest
      · cases lexeme with
        | token kind =>
            obtain rfl := List.mem_singleton.1 hfirst
            exact Nat.le_refl _
        | _ => cases hfirst
      · exact Nat.le_trans (position.offset_after_le lexeme.text) (ih hrest)

theorem pairwise_offset_place (position : Position) {lexemes : List Lexeme}
    (h : ∀ lexeme ∈ lexemes, lexeme.text ≠ []) : (place position lexemes).Pairwise
      fun first second => first.position.offset < second.position.offset := by
  induction lexemes generalizing position with
  | nil => exact .nil
  | cons lexeme rest ih =>
      have hrest := ih (position.after lexeme.text) fun other hother =>
        h other (List.mem_cons_of_mem lexeme hother)
      rw [place_cons]
      cases lexeme with
      | token kind =>
          refine List.pairwise_cons.2 ⟨fun other hother => ?_, hrest⟩
          have hstep := position.offset_after_lt (h _ List.mem_cons_self)
          exact Nat.lt_of_lt_of_le hstep (offset_le_of_mem_place hother)
      | _ => exact hrest

theorem offset_lt_of_mem_place {position : Position} {lexemes : List Lexeme} {token : Token}
    (htoken : token ∈ place position lexemes) (h : ∀ lexeme ∈ lexemes, lexeme.text ≠ []) :
    token.position.offset < (position.after (lexemes.flatMap Lexeme.text)).offset := by
  induction lexemes generalizing position with
  | nil => cases htoken
  | cons lexeme rest ih =>
      rw [place_cons] at htoken
      rw [List.flatMap_cons, Position.after_append]
      rcases List.mem_append.1 htoken with hfirst | hrest
      · cases lexeme with
        | token kind =>
            obtain rfl := List.mem_singleton.1 hfirst
            exact Nat.lt_of_lt_of_le (position.offset_after_lt (h _ List.mem_cons_self))
              (Position.offset_after_le _ _)
        | _ => cases hfirst
      · exact ih hrest fun other hother => h other (List.mem_cons_of_mem lexeme hother)

end Token

namespace TokenStream

theorem wellFormed_of_mem {source : String} {token : Token}
    (h : token ∈ (ofSource source).tokens) : token.kind.WellFormed :=
  Lexeme.wellFormed_of_mem_ofText (Token.mem_lexemes_of_mem_place h)

theorem nodup_positions (source : String) :
    ((ofSource source).tokens.map Token.position).Nodup := by
  have hlexemes : ∀ lexeme ∈ Lexeme.ofText source.toList, lexeme.text ≠ [] :=
    fun _ => Lexeme.text_ne_nil_of_mem_ofText
  have hpairwise := Token.pairwise_offset_place .start hlexemes
  refine List.pairwise_map.2 (hpairwise.imp fun hlt heq => ?_)
  rw [heq] at hlt
  exact Nat.lt_irrefl _ hlt

theorem nodup_places (source : String) :
    ((ofSource source).tokens.map Token.position ++ [(ofSource source).stop]).Nodup := by
  refine List.nodup_append.2 ⟨nodup_positions source, by simp, ?_⟩
  intro position hposition stop hstop heq
  obtain ⟨token, htoken, rfl⟩ := List.mem_map.1 hposition
  have hlt := Token.offset_lt_of_mem_place htoken fun _ => Lexeme.text_ne_nil_of_mem_ofText
  rw [Lexeme.flatMap_text_ofText, heq, List.mem_singleton.1 hstop] at hlt
  exact Nat.lt_irrefl _ hlt

/-- Behind a token of a text there is no place twice, and none that there was before. -/
theorem places_behind {source : String} {before rest : List Token} {token : Token}
    (h : (ofSource source).tokens = before ++ token :: rest) :
    let places := rest.map Token.position ++ [(ofSource source).stop]
    places.Nodup ∧ ∀ place ∈ places, place ∉ (before ++ [token]).map Token.position := by
  have hplaces := nodup_places source
  rw [h, List.append_cons before, List.map_append, List.append_assoc] at hplaces
  obtain ⟨-, hnodup, hapart⟩ := List.nodup_append.1 hplaces
  exact ⟨hnodup, fun place hbehind hbefore => hapart place hbefore place hbehind rfl⟩

end TokenStream

end LogicBench
