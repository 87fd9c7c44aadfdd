import LogicBench.Proofs.Definition.Wording
import LogicBench.Proofs.Text.Lines

/-!
# The caret

A diagnostic is shown with the line that it is about and a caret under the place. The lines that are
counted in reading and the lines that a text is cut into for display are the same, and the caret is
never short of its column, since the place is at most the end of its line.
-/

namespace LogicBench

namespace Text

/-- Where a place of a text is, by its distance from the start in bytes: the lines before its own,
what is before and behind it on its line, and what follows from the end of that line on. -/
structure Surrounds (text : List Char) (offset : Nat) (earlier left right later : List Char) :
    Prop where
  text : text = earlier ++ left ++ right ++ later
  offset : (String.ofList (earlier ++ left)).utf8ByteSize = offset
  starts : ∀ c ∈ earlier.getLast?, c = '\n'
  inside : '\n' ∉ left ++ right
  ends : ∀ c ∈ later.head?, c = '\n'

/-- What is shown of a line: a carriage return is left out if it belongs to the line ending. -/
def shown (line later : List Char) : List Char :=
  if later = [] then line else dropReturn line

variable {before after earlier left right later line : List Char}

theorem exists_surrounds (before after : List Char) :
    ∃ earlier left right later, before = earlier ++ left ∧ after = right ++ later ∧
      Surrounds (before ++ after) (Position.behind before).offset earlier left right later := by
  refine ⟨before.rdropWhile (· ≠ '\n'), before.rtakeWhile (· ≠ '\n'),
    after.takeWhile (· ≠ '\n'), after.dropWhile (· ≠ '\n'),
    List.rdropWhile_append_rtakeWhile.symm, List.takeWhile_append_dropWhile.symm, ?_, ?_, ?_, ?_,
    ?_⟩
  · rw [List.rdropWhile_append_rtakeWhile, List.append_assoc, List.takeWhile_append_dropWhile]
  · rw [List.rdropWhile_append_rtakeWhile]
    rfl
  · intro c hc
    rw [List.rdropWhile, List.getLast?_reverse] at hc
    simpa using head?_dropWhile before.reverse c hc
  · intro hfeed
    rcases List.mem_append.1 hfeed with hleft | hright
    · simpa using List.mem_rtakeWhile_imp hleft
    · simpa using List.mem_takeWhile_imp hright
  · intro c hc
    simpa using head?_dropWhile after c hc

theorem lineAt_behind {source : String} {offset : Nat}
    (h : Surrounds source.toList offset earlier left right later) :
    Diagnostic.lineAt source (.behind (earlier ++ left)) = shown (left ++ right) later := by
  obtain ⟨hlines, hcount⟩ := lines_append h.starts (left ++ right ++ later)
  have hleft : '\n' ∉ left := fun hmem => h.inside (List.mem_append_left right hmem)
  have hplace : (Position.behind (earlier ++ left)).line - 1 = (lines earlier).length := by
    rw [Position.behind, List.count_append, List.count_eq_zero.2 hleft, hcount]
    simp
  have hwhole : lines source.toList = lines earlier ++ lines (left ++ right ++ later) := by
    rw [← hlines, h.text]
    simp
  rw [Diagnostic.lineAt, hplace, hwhole, List.getElem?_append_right (Nat.le_refl _), Nat.sub_self]
  cases hlater : later with
  | nil =>
      rw [List.append_nil, shown, if_pos rfl]
      exact getD_lines h.inside
  | cons c rest =>
      obtain rfl : c = '\n' := h.ends c (by rw [hlater]; rfl)
      rw [lines_feed h.inside, shown, if_neg (List.cons_ne_nil _ _)]
      rfl

theorem Surrounds.rtakeWhile_eq {text : List Char} {offset : Nat}
    (h : Surrounds text offset earlier left right later) :
    (earlier ++ left).rtakeWhile (· ≠ '\n') = left := by
  have hleft : '\n' ∉ left := fun hmem => h.inside (List.mem_append_left right hmem)
  have hinside : ∀ c ∈ left.reverse, decide (c ≠ '\n') = true :=
    ne_feed_of_mem (by simpa using hleft)
  have hfront : ∀ c ∈ earlier.reverse.head?, decide (c ≠ '\n') = false := by
    intro c hc
    rw [List.head?_reverse] at hc
    simpa using h.starts c hc
  obtain ⟨htake, -⟩ := takeWhile_dropWhile_append hinside hfront
  rw [List.rtakeWhile, List.reverse_append, htake, List.reverse_reverse]

theorem column_behind {text : List Char} {offset : Nat}
    (h : Surrounds text offset earlier left right later) :
    (Position.behind (earlier ++ left)).column = left.length + 1 := by
  show 1 + ((earlier ++ left).rtakeWhile _).length = _
  rw [h.rtakeWhile_eq, Nat.add_comm]

theorem eq_of_prefix_of_size {front other text : List Char} (hfront : front <+: text)
    (hother : other <+: text)
    (hsize : (String.ofList front).utf8ByteSize = (String.ofList other).utf8ByteSize) :
    front = other := by
  have hlt {short rest : List Char} (hne : rest ≠ []) :
      (String.ofList short).utf8ByteSize < (String.ofList (short ++ rest)).utf8ByteSize := by
    have hbehind := Position.offset_after_lt (.behind short) hne
    rwa [Position.after_behind] at hbehind
  rcases List.prefix_or_prefix_of_prefix hfront hother with ⟨rest, rfl⟩ | ⟨rest, rfl⟩
  · by_cases hne : rest = []
    · rw [hne, List.append_nil]
    · exact absurd hsize (Nat.ne_of_lt (hlt hne))
  · by_cases hne : rest = []
    · rw [hne, List.append_nil]
    · exact absurd hsize.symm (Nat.ne_of_lt (hlt hne))

theorem Surrounds.unique {text : List Char} {offset : Nat}
    (h : Surrounds text offset earlier left right later) {front before' behind rest : List Char}
    (hother : Surrounds text offset front before' behind rest) :
    front = earlier ∧ before' = left ∧ behind = right ∧ rest = later := by
  have hcut (line later : List Char) (hinside : '\n' ∉ line)
      (hends : ∀ c ∈ later.head?, c = '\n') : (line ++ later).takeWhile (· ≠ '\n') = line :=
    (takeWhile_dropWhile_append (ne_feed_of_mem hinside) fun c hc => by simp [hends c hc]).1
  have hsame : front ++ before' = earlier ++ left := by
    have hfront : front ++ before' <+: text := by
      rw [hother.text, List.append_assoc]
      exact List.prefix_append _ _
    have hearlier : earlier ++ left <+: text := by
      rw [h.text, List.append_assoc]
      exact List.prefix_append _ _
    exact eq_of_prefix_of_size hfront hearlier (hother.offset.trans h.offset.symm)
  have hleft : before' = left := by
    rw [← hother.rtakeWhile_eq, hsame, h.rtakeWhile_eq]
  subst hleft
  obtain rfl := List.append_cancel_right hsame
  have htext := hother.text.symm.trans h.text
  simp only [List.append_assoc, List.append_cancel_left_eq] at htext
  have hright : behind = right := by
    rw [← hcut behind rest (fun hmem => hother.inside (List.mem_append_right _ hmem)) hother.ends,
      htext, hcut right later (fun hmem => h.inside (List.mem_append_right _ hmem)) h.ends]
  subst hright
  exact ⟨rfl, rfl, rfl, List.append_cancel_left htext⟩

theorem dropReturn_append (left : List Char) (h : right ≠ []) :
    dropReturn (left ++ right) = left ++ dropReturn right := by
  rw [dropReturn, dropReturn, List.getLast?_append_of_ne_nil _ h]
  split
  · rw [List.dropLast_append_of_ne_nil h]
  · rfl

theorem dropReturn_subset (line : List Char) : dropReturn line ⊆ line := by
  unfold dropReturn
  split
  · exact List.dropLast_subset line
  · exact List.Subset.refl line

/-- What is before a place on its line is shown, unless the place is at the end of the line. -/
theorem prefix_shown (h : right = [] → later = []) :
    left <+: shown (left ++ right) later := by
  unfold shown
  split
  · exact List.prefix_append _ _
  · next hlater =>
    rw [dropReturn_append left fun hright => hlater (h hright)]
    exact List.prefix_append _ _

theorem not_mem_shown (h : '\n' ∉ line) : '\n' ∉ shown line later := by
  unfold shown
  split
  · exact h
  · exact fun hmem => h (dropReturn_subset line hmem)

end Text

namespace TokenKind

theorem exists_cons_of_proper {kind : TokenKind} (h : kind.Proper) :
    ∃ c rest, kind.spelling = c :: rest ∧ c ≠ '\n' := by
  have hword {text : String} (hidentifier : IsIdentifier text) :
      ∃ c rest, text.toList = c :: rest ∧ c ≠ '\n' := by
    obtain ⟨c, rest, htext, hletter, -⟩ := hidentifier
    refine ⟨c, rest, htext, ?_⟩
    rintro rfl
    exact absurd hletter (by decide)
  cases kind with
  | keyword word => exact hword word.isIdentifier_text
  | name text => exact hword h.1
  | number digits =>
      obtain ⟨c, rest, htext⟩ := List.exists_cons_of_ne_nil h.1
      refine ⟨c, rest, htext, ?_⟩
      rintro rfl
      exact absurd (h.2 '\n' (by rw [htext]; exact List.mem_cons_self)) (by decide)
  | stray c =>
      refine ⟨c, [], rfl, ?_⟩
      rintro rfl
      exact absurd h.1 (by decide)
  | openComment body => exact ⟨'/', _, rfl, by decide⟩
  | _ => exact ⟨_, [], rfl, by decide⟩

end TokenKind

namespace Definition

open Text

variable {source : String} {diagnostic : Diagnostic}

theorem exists_surrounds (h : diagnostic ∈ (ofSource source).diagnostics) :
    ∃ earlier left right later,
      Surrounds source.toList diagnostic.position.offset earlier left right later ∧
      diagnostic.position = .behind (earlier ++ left) ∧ (right = [] → later = []) := by
  obtain ⟨before, after, htext, hposition, hafter⟩ : ∃ before after,
      source.toList = before ++ after ∧ diagnostic.position = .behind before ∧
        ∀ c ∈ after.head?, c ≠ '\n' := by
    rcases List.mem_append.1 (position_mem_places h) with htoken | hstop
    · obtain ⟨token, htoken, hplace⟩ := List.mem_map.1 htoken
      obtain ⟨before, after, htext, hposition, hproper, -⟩ := TokenStream.exists_around htoken
      obtain ⟨c, rest, hspelling, hc⟩ := TokenKind.exists_cons_of_proper hproper
      refine ⟨before, token.kind.spelling ++ after, by simp [htext], hplace ▸ hposition, ?_⟩
      rw [hspelling]
      simpa using hc
    · refine ⟨source.toList, [], by simp, ?_, by simp⟩
      rw [List.mem_singleton.1 hstop, TokenStream.stop_ofSource]
  obtain ⟨earlier, left, right, later, rfl, rfl, hsurrounds⟩ := Text.exists_surrounds before after
  rw [← htext, ← hposition] at hsurrounds
  refine ⟨earlier, left, right, later, hsurrounds, hposition, fun hright => ?_⟩
  subst hright
  cases later with
  | nil => rfl
  | cons c rest => exact absurd (hsurrounds.ends c rfl) (hafter c rfl)

/-- The caret stands under the place of a diagnostic, which is somewhere on a line of the text. What
is shown is three lines: the headline, that line without its ending, and as many blanks as there are
characters before the place on the line, with a tab for each tab, and the caret. -/
theorem caret_under_place (h : diagnostic ∈ (ofSource source).diagnostics) :
    (∃ earlier left right later,
      Surrounds source.toList diagnostic.position.offset earlier left right later) ∧
    ∀ earlier left right later,
      Surrounds source.toList diagnostic.position.offset earlier left right later →
      left.length + 1 = diagnostic.position.column ∧ left <+: shown (left ++ right) later ∧
      (diagnostic.render source).toList.splitOn '\n' =
        [diagnostic.headline.toList, [' ', ' '] ++ shown (left ++ right) later,
          [' ', ' '] ++ left.map (fun c => if c = '\t' then '\t' else ' ') ++ ['^']] := by
  obtain ⟨earlier, left, right, later, hsurrounds, hposition, hend⟩ := exists_surrounds h
  refine ⟨⟨earlier, left, right, later, hsurrounds⟩, fun _ _ _ _ hother => ?_⟩
  obtain ⟨rfl, rfl, rfl, rfl⟩ := hother.unique hsurrounds
  have hcolumn := hposition ▸ column_behind hsurrounds
  have hprefix : left <+: shown (left ++ right) later := prefix_shown hend
  have hline := hposition ▸ lineAt_behind hsurrounds
  have hpadding : Diagnostic.padding (shown (left ++ right) later) diagnostic.position.column =
      left.map fun c => if c = '\t' then '\t' else ' ' := by
    rw [Diagnostic.padding, hcolumn, Nat.add_sub_cancel, ← List.prefix_iff_eq_take.1 hprefix]
  have htext : (diagnostic.render source).toList = ['\n'].intercalate
      [diagnostic.headline.toList, [' ', ' '] ++ shown (left ++ right) later,
        [' ', ' '] ++ left.map (fun c => if c = '\t' then '\t' else ' ') ++ ['^']] := by
    simp [Diagnostic.render, hline, hpadding, List.intercalate]
  refine ⟨hcolumn.symm, hprefix, ?_⟩
  rw [htext]
  refine List.splitOn_intercalate _ ?_ (List.cons_ne_nil _ _)
  have hheadline : '\n' ∉ diagnostic.headline.toList :=
    Diagnostic.isOneLine_headline (isOneLine_message h)
  have hpads : ∀ c : Char, (if c = '\t' then '\t' else ' ') ≠ '\n' := by
    intro c
    split <;> decide
  simp only [List.forall_mem_cons]
  refine ⟨hheadline, ?_, by simp [hpads], by simp⟩
  simpa using not_mem_shown hsurrounds.inside

/-- The place is behind a comment with a character of two bytes and a tab, on a line that a carriage
return and a line feed end. -/
theorem caret_under_place_tab :
    let source := "DEVICES\n/* é */\ta b;\r\nEND"
    let diagnostic : Diagnostic := ⟨.syntactic, ⟨2, 11, 19⟩, "expected ':', found name `b`"⟩
    diagnostic ∈ (ofSource source).diagnostics ∧
      Surrounds source.toList diagnostic.position.offset "DEVICES\n".toList "/* é */\ta ".toList
        "b;\r".toList "\nEND".toList ∧
      (diagnostic.render source).toList.splitOn '\n' =
        [diagnostic.headline.toList, "  /* é */\ta b;".toList, "         \t  ^".toList] := by
  intro source diagnostic
  have hdiagnostics : (ofSource source).diagnostics = [diagnostic] := by
    unfold source diagnostic
    decide +kernel
  have hmem : diagnostic ∈ (ofSource source).diagnostics := by
    rw [hdiagnostics]
    exact List.mem_singleton_self diagnostic
  have hsurrounds : Surrounds source.toList diagnostic.position.offset "DEVICES\n".toList
      "/* é */\ta ".toList "b;\r".toList "\nEND".toList := by
    refine ⟨?_, ?_, ?_, ?_, ?_⟩
    · unfold source
      decide +kernel
    · unfold diagnostic
      decide +kernel
    · simp
    · simp
    · simp
  obtain ⟨-, -, hshown⟩ := (caret_under_place hmem).2 _ _ _ _ hsurrounds
  exact ⟨hmem, hsurrounds, hshown⟩

end Definition

end LogicBench
