import LogicBench.Proofs.Definition.Layout

/-!
# Tiling

A text is tiled by its tokens: they stand in it one behind another, nothing but layout is around
them, and each is at its place and ends where it has to. Cutting a text up gives such tokens
(`tiles_place`), and no others tile it (`Tiles.place_eq`).
-/

namespace LogicBench

namespace Position

/-- The place behind a text that starts at the start: its line feeds make lines, the characters
since the last of them columns, its bytes the offset. -/
def behind (text : List Char) : Position where
  line := 1 + text.count '\n'
  column := 1 + (text.rtakeWhile (· ≠ '\n')).length
  offset := (String.ofList text).utf8ByteSize

theorem advance_behind (text : List Char) (c : Char) :
    (behind text).advance c = behind (text ++ [c]) := by
  have hbytes : (String.ofList (text ++ [c])).utf8ByteSize =
      (String.ofList text).utf8ByteSize + c.utf8Size := by
    rw [String.ofList_append, String.utf8ByteSize_append, ← String.singleton_eq_ofList,
      String.utf8ByteSize_singleton]
  unfold advance behind
  split
  · next h =>
    subst h
    rw [hbytes, List.rtakeWhile_concat_neg _ _ _ (by simp), List.count_append]
    rfl
  · next h =>
    rw [hbytes, List.rtakeWhile_concat_pos _ _ _ (by simpa using h), List.count_append,
      List.count_singleton, if_neg (by simpa using h), List.length_append]
    rfl

theorem after_behind (before text : List Char) :
    (behind before).after text = behind (before ++ text) := by
  induction text generalizing before with
  | nil => rw [after_nil, List.append_nil]
  | cons c rest ih =>
      have hrest := ih (before ++ [c])
      rw [← advance_behind, List.append_assoc] at hrest
      exact hrest

theorem start_eq_behind : start = behind [] := by
  simp [start, behind]

end Position

/-- Tokens that stand in a text behind another one, with nothing but layout around them. -/
inductive Tiles : List Char → List Char → List Token → Prop
  | stop {before gap : List Char} (layout : FinalLayout gap) : Tiles before gap []
  | token {before gap after : List Char} {kind : TokenKind} {tokens : List Token}
      (layout : Layout gap) (proper : kind.Proper) (ends : kind.EndsBefore after)
      (rest : Tiles (before ++ gap ++ kind.spelling) after tokens) :
      Tiles before (gap ++ (kind.spelling ++ after))
        (⟨kind, .behind (before ++ gap)⟩ :: tokens)

namespace Tiles

variable {before text : List Char} {tokens : List Token}

theorem separator_append {piece : List Char} (h : Separator piece)
    (htiles : Tiles (before ++ piece) text tokens) : Tiles before (piece ++ text) tokens := by
  cases htiles with
  | stop hfinal => exact .stop (hfinal.separator_append h)
  | @token _ gap after kind tokens hlayout hproper hends hrest =>
      rw [List.append_assoc before] at hrest ⊢
      rw [← List.append_assoc piece]
      exact .token (.cons h hlayout) hproper hends hrest

end Tiles

namespace Token

theorem place_separator {piece : List Char} (h : Separator piece) (position : Position)
    (text : List Char) :
    place position (Lexeme.ofText (piece ++ text)) =
      place (position.after piece) (Lexeme.ofText text) := by
  cases h with
  | blank hblank =>
      rw [List.singleton_append, Lexeme.ofText_of_leading (.blank hblank)]
      rfl
  | @lineComment body hline =>
      have hfeed : Lexeme.Leading ('\n' :: text) (.blank '\n') text := .blank (by decide)
      have hcomment : Lexeme.Leading ('#' :: (body ++ '\n' :: text)) (.lineComment body)
          ('\n' :: text) := .lineComment hline (by simp)
      rw [List.cons_append, List.append_assoc, List.singleton_append,
        Lexeme.ofText_of_leading hcomment, Lexeme.ofText_of_leading hfeed, ← List.cons_append,
        Position.after_append]
      rfl
  | @blockComment body hclosed =>
      have hcomment : Lexeme.Leading ('/' :: '*' :: (body ++ '*' :: '/' :: text))
          (.blockComment body) text := .blockComment hclosed
      rw [List.cons_append, List.cons_append, List.append_assoc, List.cons_append,
        List.singleton_append, Lexeme.ofText_of_leading hcomment]
      rfl

theorem place_layout {gap : List Char} (h : Layout gap) (position : Position)
    (text : List Char) :
    place position (Lexeme.ofText (gap ++ text)) =
      place (position.after gap) (Lexeme.ofText text) := by
  induction h generalizing position with
  | nil => rfl
  | cons hpiece _ ih =>
      rw [List.append_assoc, place_separator hpiece, ih, Position.after_append]

theorem place_finalLayout {gap : List Char} (h : FinalLayout gap) (position : Position) :
    place position (Lexeme.ofText gap) = [] := by
  have hnil : Lexeme.ofText [] = [] := by rw [Lexeme.ofText]
  cases h with
  | closed hlayout =>
      rw [← List.append_nil gap, place_layout hlayout, hnil]
      rfl
  | @lineComment gap body hlayout hline =>
      have hcomment : Lexeme.Leading ('#' :: (body ++ [])) (.lineComment body) [] :=
        .lineComment hline (by simp)
      rw [place_layout hlayout, ← List.append_nil body, Lexeme.ofText_of_leading hcomment, hnil]
      rfl

theorem place_token {kind : TokenKind} {after : List Char} (hproper : kind.Proper)
    (hends : kind.EndsBefore after) (position : Position) :
    place position (Lexeme.ofText (kind.spelling ++ after)) =
      ⟨kind, position⟩ :: place (position.after kind.spelling) (Lexeme.ofText after) := by
  rw [Lexeme.ofText_of_token hproper hends]
  rfl

end Token

theorem Tiles.place_eq {before text : List Char} {tokens : List Token}
    (h : Tiles before text tokens) :
    Token.place (.behind before) (Lexeme.ofText text) = tokens := by
  induction h with
  | stop hfinal => exact Token.place_finalLayout hfinal _
  | token hlayout hproper hends _ ih =>
      rw [Token.place_layout hlayout, Token.place_token hproper hends, Position.after_behind,
        Position.after_behind, ih]

theorem tiles_separator {before piece text : List Char} (h : Separator piece)
    (htiles : Tiles (before ++ piece) text
      (Token.place (.behind (before ++ piece)) (Lexeme.ofText text))) :
    Tiles before (piece ++ text)
      (Token.place (.behind before) (Lexeme.ofText (piece ++ text))) := by
  rw [Token.place_separator h, Position.after_behind]
  exact htiles.separator_append h

/-- The tokens of a text tile it, if those of every shorter text do. -/
theorem tiles_of_leading {before text after : List Char} {lexeme : Lexeme}
    (h : Lexeme.Leading text lexeme after) (hshorter : after.length < text.length)
    (ih : ∀ before rest : List Char, rest.length < text.length →
      Tiles before rest (Token.place (.behind before) (Lexeme.ofText rest))) :
    Tiles before text (Token.place (.behind before) (Lexeme.ofText text)) := by
  cases h with
  | blank hblank => exact tiles_separator (.blank hblank) (ih _ _ hshorter)
  | @lineComment body after hline hends =>
      cases after with
      | nil =>
          have hfinal : FinalLayout ('#' :: (body ++ [])) := by
            rw [List.append_nil]
            exact .lineComment .nil hline
          rw [Token.place_finalLayout hfinal]
          exact .stop hfinal
      | cons feed after =>
          -- The line feed is a lexeme of its own, but part of the separator.
          obtain rfl : feed = '\n' := hends feed rfl
          have hrest := ih (before ++ '#' :: (body ++ ['\n'])) after (Nat.lt_of_succ_lt hshorter)
          simpa using tiles_separator (.lineComment hline) hrest
  | @blockComment body after hclosed =>
      have hrest := ih (before ++ '/' :: '*' :: (body ++ ['*', '/'])) after hshorter
      simpa using tiles_separator (.blockComment hclosed) hrest
  | @token kind after hproper hends =>
      rw [Token.place_token hproper hends, Position.after_behind]
      have hrest := ih (before ++ [] ++ kind.spelling) after hshorter
      simpa using Tiles.token .nil hproper hends hrest

theorem tiles_place (before text : List Char) :
    Tiles before text (Token.place (.behind before) (Lexeme.ofText text)) := by
  induction hlength : text.length using Nat.strong_induction_on generalizing before text with
  | _ length ih =>
      subst hlength
      cases text with
      | nil =>
          rw [Lexeme.ofText]
          exact .stop (.closed .nil)
      | cons c rest =>
          have hshorter := Nat.lt_succ_of_le (Lexeme.length_first_le c rest)
          exact tiles_of_leading (Lexeme.leading_first c rest) hshorter fun before rest hlt =>
            ih rest.length hlt before rest rfl

/-! ## Runs of letters and digits -/

/-- Whether the text of a token goes as far to the front as it can, in the text before it. -/
def TokenKind.StartsBehind (before : List Char) : TokenKind → Prop
  | keyword _ | name _ => ∀ c ∈ before.getLast?, c.isAlpha = false
  | number _ => ∀ c ∈ before.getLast?, c.isAlphanum = false
  | _ => True

/-- Whether no run of letters and digits that starts with a letter, and none of digits, goes on from
one text to the next. -/
def Seam (before text : List Char) : Prop :=
  ∀ last ∈ before.getLast?, ∀ next ∈ text.head?,
    (last.isAlpha → next.isAlphanum = false) ∧ (last.isDigit → next.isDigit = false)

theorem Separator.getLast?_not_isAlphanum {piece : List Char} (h : Separator piece) :
    ∀ last ∈ piece.getLast?, last.isAlphanum = false := by
  intro last hlast
  cases h with
  | blank hblank =>
      obtain rfl : _ = last := by simpa using hlast
      exact Text.isAlphanum_of_isBlank hblank
  | lineComment _ =>
      obtain rfl : '\n' = last := by simpa [List.getLast?_cons] using hlast
      rfl
  | blockComment _ =>
      obtain rfl : '/' = last := by simpa [List.getLast?_cons] using hlast
      rfl

theorem Separator.ne_nil {piece : List Char} (h : Separator piece) : piece ≠ [] := by
  cases h <;> simp

theorem mem_getLast?_append {first second : List Char} (h : second ≠ []) {last : Char}
    (hlast : last ∈ (first ++ second).getLast?) : last ∈ second.getLast? := by
  rwa [List.getLast?_append_of_ne_nil first h] at hlast

namespace Seam

variable {before text gap after : List Char} {kind : TokenKind}

theorem of_not_isAlphanum (h : ∀ last ∈ before.getLast?, last.isAlphanum = false) :
    Seam before text := by
  intro last hlast next _
  obtain ⟨hletter, hdigit⟩ := Text.isAlphanum_eq_false_iff.1 (h last hlast)
  simp [hletter, hdigit]

theorem behind_layout (h : Layout gap) (hseam : Seam before (gap ++ text)) :
    Seam (before ++ gap) text := by
  induction h generalizing before with
  | nil => simpa using hseam
  | @cons piece rest hpiece _ ih =>
      rw [← List.append_assoc]
      refine ih (of_not_isAlphanum fun last hlast => ?_)
      exact hpiece.getLast?_not_isAlphanum last (mem_getLast?_append hpiece.ne_nil hlast)

theorem behind_token (hproper : kind.Proper) (hends : kind.EndsBefore after) :
    Seam (before ++ kind.spelling) after := by
  intro last hlast next hnext
  cases kind with
  | keyword _ | name _ =>
      have hnot := hends next hnext
      exact ⟨fun _ => hnot, fun _ => (Text.isAlphanum_eq_false_iff.1 hnot).2⟩
  | number digits =>
      have hmem := List.mem_of_getLast? (mem_getLast?_append hproper.1 hlast)
      have hletter := Text.isAlpha_of_isDigit (hproper.2 last hmem)
      exact ⟨fun h => absurd h (by simp [hletter]), fun _ => hends next hnext⟩
  | comma | semicolon | colon | arrow | dot =>
      obtain rfl : _ = last := by simpa [TokenKind.spelling] using hlast
      exact ⟨(fun h => by cases h), (fun h => by cases h)⟩
  | stray c =>
      obtain rfl : c = last := by simpa [TokenKind.spelling] using hlast
      obtain ⟨hletter, hdigit⟩ := Text.isAlphanum_eq_false_iff.1 hproper.2.1
      simp [hletter, hdigit]
  | openComment _ =>
      obtain rfl : after = [] := hends
      cases hnext

theorem startsBehind (hproper : kind.Proper) (h : Seam before (kind.spelling ++ after)) :
    kind.StartsBehind before := by
  have hword {text : String} (hidentifier : IsIdentifier text)
      (h : Seam before (text.toList ++ after)) : ∀ c ∈ before.getLast?, c.isAlpha = false := by
    intro last hlast
    obtain ⟨first, rest, htext, hletter, -⟩ := hidentifier
    rw [Bool.eq_false_iff]
    intro halpha
    have hnot := (h last hlast first (by simp [htext])).1 halpha
    simp [Char.isAlphanum, hletter] at hnot
  cases kind with
  | keyword word => exact hword word.isIdentifier_text h
  | name text => exact hword hproper.1 h
  | number digits =>
      intro last hlast
      obtain ⟨hne, hdigits⟩ := hproper
      obtain ⟨first, rest, htext⟩ := List.exists_cons_of_ne_nil hne
      have hdigit : first.isDigit := hdigits first (by simp [htext])
      have hapart := h last hlast first (by simp [TokenKind.spelling, htext])
      rw [Bool.eq_false_iff]
      intro halphanum
      rcases Bool.or_eq_true _ _ ▸ halphanum with hletter | hlastDigit
      · have hnot := hapart.1 hletter
        simp [Char.isAlphanum, hdigit] at hnot
      · have hnot := hapart.2 hlastDigit
        simp [hdigit] at hnot
  | _ => trivial

end Seam

namespace Tiles

variable {before text : List Char} {tokens : List Token}

theorem exists_around (h : Tiles before text tokens) (hseam : Seam before text) {token : Token}
    (htoken : token ∈ tokens) : ∃ front after,
      before ++ text = front ++ token.kind.spelling ++ after ∧
      token.position = .behind front ∧ token.kind.Proper ∧ token.kind.StartsBehind front ∧
      token.kind.EndsBefore after := by
  induction h with
  | stop => cases htoken
  | @token before gap after kind tokens hlayout hproper hends _ ih =>
      rcases List.mem_cons.1 htoken with rfl | hrest
      · refine ⟨before ++ gap, after, by simp, rfl, hproper, ?_, hends⟩
        exact (hseam.behind_layout hlayout).startsBehind hproper
      · simpa using ih (.behind_token hproper hends) hrest

theorem tokens_eq_nil (h : Tiles before [] tokens) : tokens = [] := by
  rw [← h.place_eq, Lexeme.ofText]
  rfl

/-- A comment that is never closed is behind all other tokens. -/
theorem later_eq_nil (h : Tiles before text tokens) {earlier later : List Token} {token : Token}
    (htokens : tokens = earlier ++ token :: later) {body : String}
    (hkind : token.kind = .openComment body) : later = [] := by
  induction h generalizing earlier with
  | stop => simp at htokens
  | @token before gap after kind tokens _ _ hends hrest ih =>
      cases earlier with
      | nil =>
          obtain ⟨rfl, rfl⟩ := List.cons.inj htokens
          obtain rfl : kind = .openComment body := hkind
          obtain rfl : after = [] := hends
          exact hrest.tokens_eq_nil
      | cons other earlier => exact ih (List.cons.inj htokens).2

end Tiles

namespace TokenStream

theorem tiles_ofSource (source : String) : Tiles [] source.toList (ofSource source).tokens := by
  rw [ofSource, Position.start_eq_behind]
  exact tiles_place [] source.toList

theorem stop_ofSource (source : String) : (ofSource source).stop = .behind source.toList := by
  rw [ofSource, Position.start_eq_behind, Position.after_behind, List.nil_append]

theorem pairwise_offset (source : String) :
    ((ofSource source).tokens.map Token.position ++ [(ofSource source).stop]).Pairwise
      fun first second => first.offset < second.offset := by
  have hlexemes : ∀ lexeme ∈ Lexeme.ofText source.toList, lexeme.text ≠ [] :=
    fun _ => Lexeme.text_ne_nil_of_mem_ofText
  refine List.pairwise_append.2 ⟨?_, List.pairwise_singleton _ _, ?_⟩
  · exact List.pairwise_map.2 (Token.pairwise_offset_place .start hlexemes)
  · intro position hposition stop hstop
    obtain ⟨token, htoken, rfl⟩ := List.mem_map.1 hposition
    have hlt := Token.offset_lt_of_mem_place htoken hlexemes
    rw [Lexeme.flatMap_text_ofText] at hlt
    rwa [List.mem_singleton.1 hstop]

theorem exists_around {source : String} {token : Token} (h : token ∈ (ofSource source).tokens) :
    ∃ before after, source.toList = before ++ token.kind.spelling ++ after ∧
      token.position = .behind before ∧ token.kind.Proper ∧ token.kind.StartsBehind before ∧
      token.kind.EndsBefore after := by
  have hseam : Seam [] source.toList := .of_not_isAlphanum (by simp)
  simpa using (tiles_ofSource source).exists_around hseam h

theorem proper_of_mem {source : String} {token : Token} (h : token ∈ (ofSource source).tokens) :
    token.kind.Proper := by
  obtain ⟨-, -, -, -, hproper, -⟩ := exists_around h
  exact hproper

/-- The tokens of a text tile it and are the only ones that do. They stand in order before the end
of the text. Each is at its place, and a word or a number goes as far as it can to both sides. Past
the last one every request finds the end of the text, at the same place. -/
theorem tokens_tile_source (source : String) :
    (∀ tokens, Tiles [] source.toList tokens ↔ tokens = (ofSource source).tokens) ∧
    ((ofSource source).tokens.map Token.position ++ [(ofSource source).stop]).Pairwise
      (fun first second => first.offset < second.offset) ∧
    (ofSource source).stop = .behind source.toList ∧
    (ofSource source).stop.offset = source.utf8ByteSize ∧
    (∀ token ∈ (ofSource source).tokens, ∃ before after,
      source.toList = before ++ token.kind.spelling ++ after ∧
      token.position = .behind before ∧ token.kind.Proper ∧ token.kind.StartsBehind before ∧
      token.kind.EndsBefore after) ∧
    ∀ further, (ofSource source).request ((ofSource source).tokens.length + further) =
      (none, (ofSource source).stop) := by
  have htiles := tiles_ofSource source
  have hstop := stop_ofSource source
  refine ⟨fun tokens => ⟨fun hother => ?_, fun heq => heq ▸ htiles⟩, pairwise_offset source, hstop,
    ?_, fun _ => exists_around, fun further => ?_⟩
  · rw [← hother.place_eq, htiles.place_eq]
  · rw [hstop, Position.behind, String.ofList_toList]
  · simp [request]

/-- The end of a comment shares no character with its opening, and a number ends before a letter. -/
theorem tokens_tile_source_comments :
    let source := "/*/ é*/12ab#*/\n/**"
    let tokens := [⟨.number "12", ⟨1, 8, 8⟩⟩, ⟨.name "ab", ⟨1, 10, 10⟩⟩,
      ⟨.openComment "*", ⟨2, 1, 16⟩⟩]
    (ofSource source).tokens = tokens ∧ Tiles [] source.toList tokens ∧
    ∃ before after, source.toList = before ++ ['a', 'b'] ++ after ∧
      ⟨1, 10, 10⟩ = Position.behind before ∧ IsIdentifier "ab" ∧
      ∀ c ∈ after.head?, c.isAlphanum = false := by
  intro source tokens
  have htokens : (ofSource source).tokens = tokens := by
    unfold source tokens
    decide +kernel
  obtain ⟨htiles, -, -, -, haround, -⟩ := tokens_tile_source source
  have hmem : ⟨.name "ab", ⟨1, 10, 10⟩⟩ ∈ (ofSource source).tokens := by simp [htokens, tokens]
  obtain ⟨before, after, htext, hposition, hproper, -, hends⟩ := haround _ hmem
  exact ⟨htokens, (htiles tokens).2 htokens.symm, before, after, htext, hposition, hproper.1, hends⟩

end TokenStream

end LogicBench
