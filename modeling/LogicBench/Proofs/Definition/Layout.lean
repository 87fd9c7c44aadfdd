import LogicBench.Proofs.Definition.Tokens
import LogicBench.Proofs.Text.Lines

/-!
# Layout

What separates tokens, said without the scanner: white space, comments that a line feed ends and
closed block comments. Such layout is skipped whatever stands behind it. A token is known by its
spelling as soon as what stands behind it cannot be taken for a part of it, and no layout can.
-/

namespace LogicBench

def Closes (text : List Char) : Prop :=
  ['*', '/'] <:+: text

instance (text : List Char) : Decidable (Closes text) :=
  inferInstanceAs (Decidable (['*', '/'] <:+: text))

inductive Separator : List Char → Prop
  | blank {c : Char} (isBlank : Text.isBlank c) : Separator [c]
  | lineComment {body : List Char} (oneLine : '\n' ∉ body) : Separator ('#' :: (body ++ ['\n']))
  /-- The comment is closed by its last two characters and not before. -/
  | blockComment {body : List Char} (closed : ¬ Closes (body ++ ['*'])) :
      Separator ('/' :: '*' :: (body ++ ['*', '/']))

inductive Layout : List Char → Prop
  | nil : Layout []
  | cons {piece rest : List Char} (separator : Separator piece) (layout : Layout rest) :
      Layout (piece ++ rest)

/-- Layout at the end of a text, where a line comment need not be ended by a line feed. -/
inductive FinalLayout : List Char → Prop
  | closed {gap : List Char} (layout : Layout gap) : FinalLayout gap
  | lineComment {gap body : List Char} (layout : Layout gap) (oneLine : '\n' ∉ body) :
      FinalLayout (gap ++ '#' :: body)

theorem FinalLayout.separator_append {piece gap : List Char} (h : Separator piece)
    (hgap : FinalLayout gap) : FinalLayout (piece ++ gap) := by
  cases hgap with
  | closed hlayout => exact .closed (.cons h hlayout)
  | lineComment hlayout hline =>
      rw [← List.append_assoc]
      exact .lineComment (.cons h hlayout) hline

namespace TokenKind

/-- Whether the spelling of a token is read as that token. -/
def Proper : TokenKind → Prop
  | name text => IsIdentifier text ∧ Keyword.ofWord? text = none
  | number digits => digits.toList ≠ [] ∧ ∀ c ∈ digits.toList, c.isDigit
  | stray c => Text.isBlank c = false ∧ c.isAlphanum = false ∧
      c ∉ ['#', ',', ';', ':', '>', '.']
  | openComment body => ¬ Closes body.toList
  | _ => True

/-- Whether nothing at the front of the text behind a token can be taken for a part of it. -/
def EndsBefore (after : List Char) : TokenKind → Prop
  | keyword _ | name _ => ∀ c ∈ after.head?, c.isAlphanum = false
  | number _ => ∀ c ∈ after.head?, c.isDigit = false
  | stray c => c = '/' → after.head? ≠ some '*'
  | openComment _ => after = []
  | _ => True

end TokenKind

namespace Text

theorem isAlpha_iff {c : Char} : c.isAlpha ↔
    (65 ≤ c.toNat ∧ c.toNat ≤ 90) ∨ (97 ≤ c.toNat ∧ c.toNat ≤ 122) := by
  show (decide (c.val ≥ 'A'.val ∧ c.val ≤ 'Z'.val) ||
    decide (c.val ≥ 'a'.val) && decide (c.val ≤ 'z'.val)) = true ↔ _
  simp [UInt32.le_iff_toNat_le]

theorem isAlphanum_iff {c : Char} : c.isAlphanum ↔
    ((65 ≤ c.toNat ∧ c.toNat ≤ 90) ∨ (97 ≤ c.toNat ∧ c.toNat ≤ 122)) ∨
      (48 ≤ c.toNat ∧ c.toNat ≤ 57) := by
  rw [← isAlpha_iff]
  exact Bool.or_eq_true_iff.trans (or_congr_right Char.isDigit_iff_toNat)

theorem isBlank_of_isAlphanum {c : Char} (h : c.isAlphanum) : isBlank c = false := by
  rw [Bool.eq_false_iff]
  intro hblank
  simp only [isBlank, blankRanges, List.any_cons, List.any_nil, Bool.or_eq_true, Bool.and_eq_true,
    decide_eq_true_eq, Bool.or_false] at hblank
  have hcode := isAlphanum_iff.1 h
  omega

theorem isAlphanum_of_isBlank {c : Char} (h : isBlank c) : c.isAlphanum = false := by
  rw [Bool.eq_false_iff]
  intro halphanum
  rw [isBlank_of_isAlphanum halphanum] at h
  cases h

theorem isAlphanum_eq_false_iff {c : Char} :
    c.isAlphanum = false ↔ c.isAlpha = false ∧ c.isDigit = false :=
  Bool.or_eq_false_iff

theorem isAlpha_of_isDigit {c : Char} (h : c.isDigit) : c.isAlpha = false := by
  rw [Bool.eq_false_iff]
  intro hletter
  have hdigit : 48 ≤ c.toNat ∧ c.toNat ≤ 57 := Char.isDigit_iff_toNat.1 h
  have hcode := isAlpha_iff.1 hletter
  omega

end Text

namespace Keyword

theorem ofWord?_text (word : Keyword) : ofWord? word.text = some word := by
  cases word with
  | opening opened => cases opened <;> rfl
  | finish => rfl
  | device type =>
      cases type with
      | gate op => cases op <;> decide
      | _ => decide

theorem isIdentifier_text (word : Keyword) : IsIdentifier word.text := by
  have hword : ∃ first rest, word.text.toList = first :: rest ∧ first.isAlpha ∧
      rest.all Char.isAlphanum := by
    cases word with
    | opening opened => cases opened <;> exact ⟨_, _, rfl, by decide, by decide⟩
    | finish => exact ⟨_, _, rfl, by decide, by decide⟩
    | device type =>
        cases type with
        | gate op => cases op <;> exact ⟨_, _, rfl, by decide, by decide⟩
        | _ => exact ⟨_, _, rfl, by decide, by decide⟩
  simpa [IsIdentifier] using hword

end Keyword

namespace Lexeme

/-! ## The end of a block comment -/

theorem closes_cons_iff {c : Char} {rest : List Char} :
    Closes (c :: rest) ↔ (c = '*' ∧ rest.head? = some '/') ∨ Closes rest := by
  rw [Closes, List.infix_cons_iff, List.cons_prefix_cons, eq_comm]
  cases rest with
  | nil => simp [Closes]
  | cons next rest => simp [Closes, List.cons_prefix_cons, eq_comm]

theorem not_closes_nil : ¬ Closes [] := by
  simp [Closes]

theorem closeComment_eq_none_iff {text : List Char} : closeComment text = none ↔ ¬ Closes text := by
  fun_induction closeComment text with
  | case1 => simp [not_closes_nil]
  | case2 rest => simp [closes_cons_iff]
  | case3 c rest hne ih =>
      have hfront : ¬ (c = '*' ∧ rest.head? = some '/') := by
        rintro ⟨rfl, hhead⟩
        obtain ⟨tail, rfl⟩ := List.head?_eq_some_iff.1 hhead
        exact hne tail rfl rfl
      simp [closes_cons_iff, hfront, ih]

theorem closeComment_append {body : List Char} (h : ¬ Closes (body ++ ['*'])) (rest : List Char) :
    closeComment (body ++ '*' :: '/' :: rest) = some (body, rest) := by
  induction body with
  | nil => rfl
  | cons c body ih =>
      rw [List.cons_append, closes_cons_iff, not_or] at h
      rw [List.cons_append, closeComment, ih h.2, Option.map_some]
      rintro tail rfl htail
      refine h.1 ⟨rfl, ?_⟩
      have hhead := congrArg List.head? htail
      simpa [List.head?_append] using hhead

theorem not_closes_of_closeComment {text body after : List Char}
    (h : closeComment text = some (body, after)) : ¬ Closes (body ++ ['*']) := by
  fun_induction closeComment text generalizing body after with
  | case1 => cases h
  | case2 rest =>
      cases h
      simp [closes_cons_iff, not_closes_nil]
  | case3 c rest hne ih =>
      obtain ⟨⟨body, after⟩, hclose, hcons⟩ := Option.map_eq_some_iff.1 h
      cases hcons
      rw [List.cons_append, closes_cons_iff, not_or]
      refine ⟨?_, ih hclose⟩
      rintro ⟨rfl, hhead⟩
      have hrest : rest.head? = some '/' := by
        rw [← append_of_closeComment hclose]
        simpa [List.head?_append] using hhead
      obtain ⟨tail, rfl⟩ := List.head?_eq_some_iff.1 hrest
      exact hne tail rfl rfl

/-! ## What the first lexeme is -/

theorem proper_ofWord {c : Char} {rest : List Char} (hletter : c.isAlpha)
    (hrest : ∀ other ∈ rest, other.isAlphanum) : (ofWord (c :: rest)).Proper := by
  unfold ofWord
  split
  · trivial
  · next hnot => exact ⟨⟨c, rest, by simp, hletter, hrest⟩, hnot⟩

theorem endsBefore_ofWord (word : List Char) {after : List Char}
    (h : ∀ c ∈ after.head?, c.isAlphanum = false) : (ofWord word).EndsBefore after := by
  unfold ofWord
  split <;> exact h

theorem ofMark_eq_stray {c : Char} (h : c ∉ ['#', ',', ';', ':', '>', '.']) :
    ofMark c = .stray c := by
  simp only [List.mem_cons, List.not_mem_nil, or_false, not_or] at h
  obtain ⟨-, hcomma, hsemicolon, hcolon, harrow, hdot⟩ := h
  rw [ofMark, if_neg hcomma, if_neg hsemicolon, if_neg hcolon, if_neg harrow, if_neg hdot]

theorem proper_ofMark {c : Char} {after : List Char} (hblank : Text.isBlank c = false)
    (halphanum : c.isAlphanum = false) (hhash : c ≠ '#')
    (hafter : c = '/' → after.head? ≠ some '*') :
    (ofMark c).Proper ∧ (ofMark c).EndsBefore after := by
  by_cases hmark : c ∈ [',', ';', ':', '>', '.']
  · simp only [List.mem_cons, List.not_mem_nil, or_false] at hmark
    rcases hmark with rfl | rfl | rfl | rfl | rfl <;> exact ⟨trivial, trivial⟩
  · have hall : c ∉ ['#', ',', ';', ':', '>', '.'] := by
      rw [List.mem_cons, not_or]
      exact ⟨hhash, hmark⟩
    rw [ofMark_eq_stray hall]
    exact ⟨⟨hblank, halphanum, hall⟩, hafter⟩

inductive Leading : List Char → Lexeme → List Char → Prop
  | blank {c : Char} {after : List Char} (isBlank : Text.isBlank c) :
      Leading (c :: after) (.blank c) after
  | lineComment {body after : List Char} (oneLine : '\n' ∉ body)
      (ends : ∀ c ∈ after.head?, c = '\n') :
      Leading ('#' :: (body ++ after)) (.lineComment body) after
  | blockComment {body after : List Char} (closed : ¬ Closes (body ++ ['*'])) :
      Leading ('/' :: '*' :: (body ++ '*' :: '/' :: after)) (.blockComment body) after
  | token {kind : TokenKind} {after : List Char} (proper : kind.Proper)
      (ends : kind.EndsBefore after) : Leading (kind.spelling ++ after) (.token kind) after

theorem leading_first (c : Char) (rest : List Char) :
    Leading (c :: rest) (first c rest).1 (first c rest).2 := by
  have hsplit (p : Char → Bool) : rest.takeWhile p ++ rest.dropWhile p = rest :=
    List.takeWhile_append_dropWhile
  unfold first
  split
  · next hblank => exact .blank hblank
  split
  · next hhash =>
    subst hhash
    have hline : '\n' ∉ rest.takeWhile (· ≠ '\n') := by
      intro hmem
      simpa using List.mem_takeWhile_imp hmem
    have hends : ∀ c ∈ (rest.dropWhile (· ≠ '\n')).head?, c = '\n' := by
      simpa using Text.head?_dropWhile (p := (· ≠ '\n')) rest
    have hcomment := Leading.lineComment hline hends
    rwa [hsplit] at hcomment
  split
  · next hletter =>
    have hword : (ofWord (c :: rest.takeWhile isWordPart)).Proper := proper_ofWord hletter
      fun other hother => List.mem_takeWhile_imp hother
    have hends := endsBefore_ofWord (c :: rest.takeWhile isWordPart)
      (Text.head?_dropWhile (p := isWordPart) rest)
    simpa [spelling_ofWord, hsplit] using Leading.token hword hends
  split
  · next hdigit =>
    have hnumber : (TokenKind.number (String.ofList (c :: rest.takeWhile Char.isDigit))).Proper :=
      ⟨by simp, by simpa [hdigit] using fun other hother => List.mem_takeWhile_imp hother⟩
    have htoken := Leading.token hnumber (Text.head?_dropWhile (p := Char.isDigit) rest)
    simpa [TokenKind.spelling, hsplit] using htoken
  · next hblank hhash hletter hdigit =>
    split
    · next hopen =>
      obtain ⟨rfl, hstar⟩ := hopen
      obtain ⟨tail, rfl⟩ := List.head?_eq_some_iff.1 hstar
      split
      · next body after hclose =>
        have hcomment : Leading _ (.blockComment body) after :=
          .blockComment (not_closes_of_closeComment hclose)
        rwa [append_of_closeComment hclose] at hcomment
      · next hclose =>
        have hproper : (TokenKind.openComment (String.ofList tail)).Proper := by
          simpa [TokenKind.Proper] using closeComment_eq_none_iff.1 hclose
        simpa [TokenKind.spelling] using Leading.token hproper rfl
    · next hopen =>
      have halphanum : c.isAlphanum = false := by
        simpa [Text.isAlphanum_eq_false_iff, isLetter] using And.intro hletter hdigit
      have hapart : c = '/' → rest.head? ≠ some '*' := fun hslash hstar => hopen ⟨hslash, hstar⟩
      obtain ⟨hproper, hends⟩ := proper_ofMark (by simpa using hblank) halphanum hhash hapart
      simpa [spelling_ofMark] using Leading.token hproper hends

theorem first_word {c : Char} {rest after : List Char} (hletter : c.isAlpha)
    (hrest : ∀ other ∈ rest, other.isAlphanum) (hafter : ∀ c ∈ after.head?, c.isAlphanum = false) :
    first c (rest ++ after) = (.token (ofWord (c :: rest)), after) := by
  have hblank : Text.isBlank c = false :=
    Text.isBlank_of_isAlphanum (by simp [Char.isAlphanum, hletter])
  have hhash : c ≠ '#' := by
    rintro rfl
    cases hletter
  obtain ⟨htake, hdrop⟩ := Text.takeWhile_dropWhile_append (p := isWordPart) hrest hafter
  simp [first, hblank, hhash, isLetter, hletter, htake, hdrop]

theorem first_number {c : Char} {rest after : List Char} (hdigit : c.isDigit)
    (hrest : ∀ other ∈ rest, other.isDigit) (hafter : ∀ c ∈ after.head?, c.isDigit = false) :
    first c (rest ++ after) = (.token (.number (String.ofList (c :: rest))), after) := by
  have hblank : Text.isBlank c = false :=
    Text.isBlank_of_isAlphanum (by simp [Char.isAlphanum, hdigit])
  have hhash : c ≠ '#' := by
    rintro rfl
    cases hdigit
  have hletter : c.isAlpha = false := Text.isAlpha_of_isDigit hdigit
  obtain ⟨htake, hdrop⟩ := Text.takeWhile_dropWhile_append (p := Char.isDigit) hrest hafter
  simp [first, hblank, hhash, isLetter, hletter, hdigit, htake, hdrop]

theorem ofWord_keyword (word : Keyword) : ofWord word.text.toList = .keyword word := by
  rw [ofWord, String.ofList_toList, Keyword.ofWord?_text]

theorem ofText_identifier {text : String} {after : List Char} (h : IsIdentifier text)
    (hafter : ∀ c ∈ after.head?, c.isAlphanum = false) :
    ofText (text.toList ++ after) = .token (ofWord text.toList) :: ofText after := by
  obtain ⟨c, rest, htext, hletter, hrest⟩ := h
  rw [htext, List.cons_append, ofText, first_word hletter hrest hafter]

theorem first_mark {c : Char} {rest : List Char} (hblank : Text.isBlank c = false)
    (halphanum : c.isAlphanum = false) (hhash : c ≠ '#')
    (hopen : c = '/' → rest.head? ≠ some '*') : first c rest = (.token (ofMark c), rest) := by
  have hnot : ¬ (c = '/' ∧ rest.head? = some '*') := fun h => hopen h.1 h.2
  obtain ⟨hletter, hdigit⟩ := Text.isAlphanum_eq_false_iff.1 halphanum
  simp [first, hblank, hhash, isLetter, hletter, hdigit, hnot]

/-- The text of a token that ends where it has to is read as this token. -/
theorem ofText_of_token {kind : TokenKind} {after : List Char} (hproper : kind.Proper)
    (hends : kind.EndsBefore after) :
    ofText (kind.spelling ++ after) = .token kind :: ofText after := by
  cases kind with
  | keyword word =>
      rw [TokenKind.spelling, ofText_identifier word.isIdentifier_text hends, ofWord_keyword]
  | name text =>
      obtain ⟨hidentifier, hnot⟩ := hproper
      rw [TokenKind.spelling, ofText_identifier hidentifier hends, ofWord, String.ofList_toList,
        hnot]
  | number digits =>
      obtain ⟨hne, hdigits⟩ := hproper
      obtain ⟨c, rest, htext⟩ := List.exists_cons_of_ne_nil hne
      rw [htext, List.forall_mem_cons] at hdigits
      rw [TokenKind.spelling, htext, List.cons_append, ofText,
        first_number hdigits.1 hdigits.2 hends, ← htext, String.ofList_toList]
  | comma | semicolon | colon | arrow | dot =>
      rw [TokenKind.spelling, List.singleton_append, ofText, first_mark]
      · rfl
      · decide
      · decide
      · decide
      · simp
  | stray c =>
      obtain ⟨hblank, halphanum, hmark⟩ := hproper
      have hhash : c ≠ '#' := List.ne_of_not_mem_cons hmark
      rw [TokenKind.spelling, List.singleton_append, ofText,
        first_mark hblank halphanum hhash hends, ofMark_eq_stray hmark]
  | openComment body =>
      obtain rfl : after = [] := hends
      have hopen : closeComment body.toList = none := closeComment_eq_none_iff.2 hproper
      rw [TokenKind.spelling, List.append_nil, ofText, ofText, first, if_neg (by decide),
        if_neg (by decide), if_neg (by decide), if_neg (by decide), if_pos ⟨rfl, rfl⟩,
        List.tail_cons, hopen, String.ofList_toList, ofText]

/-- The lexemes of a text are told one after another by what may lead a text. -/
theorem ofText_of_leading {text after : List Char} {lexeme : Lexeme}
    (h : Leading text lexeme after) : ofText text = lexeme :: ofText after := by
  cases h with
  | blank hblank => simp [ofText, first, hblank]
  | @lineComment body after hline hends =>
      have hafter : ∀ c ∈ after.head?, decide (c ≠ '\n') = false := by simpa using hends
      have hbody : ∀ c ∈ body, decide (c ≠ '\n') := by
        intro c hc
        simpa using ne_of_mem_of_not_mem hc hline
      obtain ⟨htake, hdrop⟩ := Text.takeWhile_dropWhile_append hbody hafter
      rw [ofText, first, if_neg (by decide), if_pos rfl, htake, hdrop]
  | blockComment hclosed =>
      rw [ofText, first, if_neg (by decide), if_neg (by decide), if_neg (by decide),
        if_neg (by decide), if_pos ⟨rfl, rfl⟩, List.tail_cons, closeComment_append hclosed]
  | token hproper hends => exact ofText_of_token hproper hends

end Lexeme

end LogicBench
