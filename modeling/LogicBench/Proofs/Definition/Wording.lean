import LogicBench.Proofs.Definition.Handles
import LogicBench.Proofs.Definition.Reporting

/-!
# Wording

A message is one line. What it quotes of a text are words and single characters, and neither holds a
line feed: a name or a number has none, and a character that cannot start a token is not white
space.
-/

namespace LogicBench

def Text.IsOneLine (text : String) : Prop :=
  '\n' ∉ text.toList

instance (text : String) : Decidable (Text.IsOneLine text) :=
  inferInstanceAs (Decidable ('\n' ∉ text.toList))

namespace Text

variable {first second : String}

@[simp] theorem isOneLine_append : IsOneLine (first ++ second) ↔
    IsOneLine first ∧ IsOneLine second := by
  simp [IsOneLine]

theorem isOneLine_quoted {name ending : String} (hname : IsOneLine name)
    (hending : IsOneLine ending) : IsOneLine ("`" ++ name ++ ending) :=
  isOneLine_append.2 ⟨isOneLine_append.2 ⟨by decide, hname⟩, hending⟩

theorem isOneLine_of_isAlphanum {text : String} (h : ∀ c ∈ text.toList, c.isAlphanum) :
    IsOneLine text := fun hfeed =>
  absurd (h '\n' hfeed) (by decide)

theorem isOneLine_of_isIdentifier {text : String} (h : IsIdentifier text) : IsOneLine text := by
  obtain ⟨first, rest, htext, hfirst, hrest⟩ := h
  apply isOneLine_of_isAlphanum
  rw [htext]
  refine List.forall_mem_cons.2 ⟨?_, hrest⟩
  rw [Char.isAlphanum, hfirst, Bool.true_or]

theorem isOneLine_of_isDigit {text : String} (h : ∀ c ∈ text.toList, c.isDigit) :
    IsOneLine text := by
  apply isOneLine_of_isAlphanum
  intro c hc
  rw [Char.isAlphanum, h c hc, Bool.or_true]

@[simp] theorem isOneLine_toString (number : Nat) : IsOneLine (toString number) := by
  apply isOneLine_of_isDigit
  intro c hc
  have hdigit : c ∈ Nat.toDigits 10 number := by simpa using hc
  exact Nat.isDigit_of_mem_toDigits (by decide) (by decide) hdigit

theorem isOneLine_singleton {c : Char} (h : isBlank c = false) : IsOneLine c.toString := by
  intro hfeed
  have hsame : '\n' = c := by simpa [Char.toString] using hfeed
  rw [← hsame] at h
  exact absurd h (by decide)

theorem isOneLine_intercalate {separator : String} {pieces : List String}
    (hseparator : IsOneLine separator) (h : ∀ piece ∈ pieces, IsOneLine piece) :
    IsOneLine (separator.intercalate pieces) := by
  induction pieces with
  | nil => simp [IsOneLine]
  | cons piece rest ih =>
      obtain ⟨hpiece, hrest⟩ := List.forall_mem_cons.1 h
      by_cases hnil : rest = []
      · simpa [hnil] using hpiece
      · rw [String.intercalate_cons_of_ne_nil hnil]
        simp [hpiece, hseparator, ih hrest]

end Text

open Text

/-! ## What messages quote -/

@[simp] theorem DeviceType.isOneLine_keyword (type : DeviceType) : IsOneLine type.keyword := by
  cases type with
  | gate op => cases op <;> decide
  | _ => decide

@[simp] theorem Section.isOneLine_keyword (opened : Section) : IsOneLine opened.keyword := by
  cases opened <;> decide

theorem Keyword.isOneLine_text (word : Keyword) : IsOneLine word.text := by
  cases word with
  | opening opened => exact opened.isOneLine_keyword
  | finish => decide
  | device type => exact type.isOneLine_keyword

theorem InputPin.isOneLine_name (pin : InputPin) : IsOneLine pin.name := by
  cases pin with
  | numbered index => exact isOneLine_append.2 ⟨by decide, isOneLine_toString index⟩
  | _ => decide

theorem NetworkError.isOneLine_message (cause : NetworkError) : IsOneLine cause.message := by
  cases cause with
  | missingQualifier type =>
      refine isOneLine_append.2 ⟨by decide, ?_⟩
      cases type with
      | gate op => exact (by decide : IsOneLine "a number of inputs")
      | _ => decide
  | invalidArity arity =>
      have hbounds := isOneLine_append.2
        ⟨(by decide : IsOneLine "number of inputs must be between 1 and "),
          isOneLine_toString maxGateInputs⟩
      have hfront := isOneLine_append.2 ⟨hbounds, (by decide : IsOneLine ", got ")⟩
      exact isOneLine_append.2 ⟨hfront, isOneLine_toString arity⟩
  | unexpectedQualifier type => exact isOneLine_append.2 ⟨type.isOneLine_keyword, by decide⟩
  | _ => decide

theorem MonitorError.isOneLine_message (cause : MonitorError) : IsOneLine cause.message := by
  cases cause <;> decide

theorem TokenKind.isOneLine_description {kind : TokenKind} (h : kind.Proper) :
    IsOneLine kind.description := by
  cases kind with
  | keyword word => exact isOneLine_append.2 ⟨by decide, word.isOneLine_text⟩
  | name text =>
      rw [description, isOneLine_append, isOneLine_append]
      exact ⟨⟨by decide, isOneLine_of_isIdentifier h.1⟩, by decide⟩
  | number digits => exact isOneLine_append.2 ⟨by decide, isOneLine_of_isDigit h.2⟩
  | stray c =>
      rw [description, isOneLine_append, isOneLine_append]
      exact ⟨⟨by decide, isOneLine_singleton h.1⟩, by decide⟩
  | openComment body => exact (by decide : IsOneLine "unterminated comment")
  | _ => decide

theorem Diagnostic.isOneLine_unexpected {expected : String} {tokens : List Token}
    (hexpected : IsOneLine expected) (htokens : ∀ token ∈ tokens, token.kind.Proper)
    (stop : Position) : IsOneLine (unexpected stop expected tokens).message := by
  cases tokens with
  | nil =>
      simp only [unexpected, isOneLine_append]
      exact ⟨⟨by decide, hexpected⟩, by decide⟩
  | cons token rest =>
      obtain ⟨kind, position⟩ := token
      have hproper : kind.Proper := htokens _ List.mem_cons_self
      have hdescription := TokenKind.isOneLine_description hproper
      cases kind with
      | stray c =>
          simp only [unexpected, isOneLine_append]
          exact ⟨⟨by decide, isOneLine_singleton hproper.1⟩, by decide⟩
      | openComment body => simp only [unexpected]; decide
      | _ =>
          simp only [unexpected, isOneLine_append]
          exact ⟨⟨⟨by decide, hexpected⟩, by decide⟩, hdescription⟩

/-! ## Reading -/

inductive Worded {α : Type} (behind : α → List Token) (tokens : List Token) :
    Except Diagnostic α → Prop
  | ok {value : α} (suffix : behind value <:+ tokens) : Worded behind tokens (.ok value)
  | error {diagnostic : Diagnostic} (message : IsOneLine diagnostic.message) :
      Worded behind tokens (.error diagnostic)

section

variable {α β : Type} {behind : α → List Token} {further : β → List Token}
  {tokens rest : List Token} {stop : Position}

theorem Worded.of_suffix {result : Except Diagnostic α} (h : Worded behind rest result)
    (hrest : rest <:+ tokens) : Worded behind tokens result := by
  cases h with
  | ok hsuffix => exact .ok (hsuffix.trans hrest)
  | error hmessage => exact .error hmessage

theorem Worded.bind {result : Except Diagnostic α} {next : α → Except Diagnostic β}
    (h : Worded behind tokens result)
    (hnext : ∀ value, behind value <:+ tokens → Worded further (behind value) (next value)) :
    Worded further tokens (result >>= next) := by
  cases h with
  | @ok value hsuffix => exact (hnext value hsuffix).of_suffix hsuffix
  | error hmessage => exact .error hmessage

theorem worded_unexpected {expected : String} (hexpected : IsOneLine expected)
    (htokens : ∀ token ∈ tokens, token.kind.Proper) :
    Worded behind tokens (.error (.unexpected stop expected tokens)) :=
  .error (Diagnostic.isOneLine_unexpected hexpected htokens stop)

end

namespace Item

variable {tokens : List Token}

theorem readName_worded (h : ∀ token ∈ tokens, token.kind.Proper) (stop : Position)
    {expected : String} (hexpected : IsOneLine expected) :
    Worded Prod.snd tokens (readName stop expected tokens) := by
  unfold readName
  split
  · exact .ok (List.suffix_cons _ _)
  · exact worded_unexpected hexpected h

theorem readMark_worded (h : ∀ token ∈ tokens, token.kind.Proper) (stop : Position)
    {mark : TokenKind} (hmark : IsOneLine mark.description) :
    Worded id tokens (readMark stop mark tokens) := by
  unfold readMark
  split
  · split
    · exact .ok (List.suffix_cons _ _)
    · exact worded_unexpected hmark h
  · exact worded_unexpected hmark h

theorem readKind_worded (h : ∀ token ∈ tokens, token.kind.Proper) (stop : Position) :
    Worded Prod.snd tokens (readKind stop tokens) := by
  unfold readKind
  split
  · exact .ok (List.suffix_cons _ _)
  · exact .ok (List.suffix_cons _ _)
  · exact worded_unexpected (by decide) h

theorem readQualifier_worded (h : ∀ token ∈ tokens, token.kind.Proper) (stop : Position)
    (kind : KindWord) : Worded Prod.snd tokens (readQualifier stop kind tokens) := by
  unfold readQualifier
  split
  · exact .ok (List.suffix_cons _ _)
  · exact worded_unexpected (by decide) h
  · exact worded_unexpected (by decide) h
  · exact .ok List.suffix_rfl

theorem readReference_worded (h : ∀ token ∈ tokens, token.kind.Proper) (stop : Position) :
    Worded Prod.snd tokens (readReference stop tokens) := by
  refine (readName_worded h stop (by decide)).bind fun ⟨owner, rest⟩ hrest => ?_
  have hproper : ∀ token ∈ rest, token.kind.Proper := fun token hmem => h token (hrest.subset hmem)
  simp only
  split
  · next behindDot =>
    refine Worded.of_suffix ?_ (List.suffix_cons _ behindDot)
    have hbehind := fun token hmem => hproper token (List.mem_cons_of_mem _ hmem)
    exact (readName_worded hbehind stop (by decide)).bind fun _ _ => .ok List.suffix_rfl
  · exact .ok List.suffix_rfl

theorem readDevice_worded (h : ∀ token ∈ tokens, token.kind.Proper) (stop : Position) :
    Worded Prod.snd tokens (readDevice stop tokens) := by
  refine (readName_worded h stop (by decide)).bind fun ⟨name, rest⟩ hrest => ?_
  have hproper := fun token hmem => h token (hrest.subset hmem)
  refine (readMark_worded hproper stop (by decide)).bind fun behindColon hbehind => ?_
  have hkindProper := fun token hmem => hproper token (hbehind.subset hmem)
  refine (readKind_worded hkindProper stop).bind fun ⟨kind, left⟩ hleft => ?_
  have hleftProper := fun token hmem => hkindProper token (hleft.subset hmem)
  exact (readQualifier_worded hleftProper stop kind).bind fun _ _ => .ok List.suffix_rfl

theorem readConnection_worded (h : ∀ token ∈ tokens, token.kind.Proper) (stop : Position) :
    Worded Prod.snd tokens (readConnection stop tokens) := by
  refine (readReference_worded h stop).bind fun ⟨source, rest⟩ hrest => ?_
  have hproper := fun token hmem => h token (hrest.subset hmem)
  refine (readMark_worded hproper stop (by decide)).bind fun behindArrow hbehind => ?_
  have hdestination := fun token hmem => hproper token (hbehind.subset hmem)
  exact (readReference_worded hdestination stop).bind fun _ _ => .ok List.suffix_rfl

theorem read_worded (h : ∀ token ∈ tokens, token.kind.Proper) (stop : Position)
    (within : Section) : Worded Prod.snd tokens (Item.read stop within tokens) := by
  cases within with
  | devices => exact readDevice_worded h stop
  | connect => exact readConnection_worded h stop
  | monitor => exact (readReference_worded h stop).bind fun _ _ => .ok List.suffix_rfl

end Item

namespace Outline

variable {stop : Position} {tokens : List Token}

def ToldOnLines (entries : List Entry) : Prop :=
  ∀ diagnostic ∈ problems entries, IsOneLine diagnostic.message

theorem ToldOnLines.append {first second : List Entry} (hfirst : ToldOnLines first)
    (hsecond : ToldOnLines second) : ToldOnLines (first ++ second) := by
  rw [ToldOnLines, problems_append]
  exact List.forall_mem_append.2 ⟨hfirst, hsecond⟩

theorem toldOnLines_nil : ToldOnLines [] := by
  simp [ToldOnLines]

theorem toldOnLines_problem {within : Option Section} {diagnostic : Diagnostic}
    (h : IsOneLine diagnostic.message) : ToldOnLines [.problem within diagnostic] := by
  simpa [ToldOnLines] using h

theorem toldOnLines_unexpected {expected : String} (hexpected : IsOneLine expected)
    (h : ∀ token ∈ tokens, token.kind.Proper) (within : Option Section) :
    ToldOnLines [.problem within (.unexpected stop expected tokens)] :=
  toldOnLines_problem (Diagnostic.isOneLine_unexpected hexpected h stop)

theorem toldOnLines_readSegment (h : ∀ token ∈ tokens, token.kind.Proper) (stop : Position)
    (within : Section) : ToldOnLines (readSegment stop within tokens).1 := by
  have hread := Item.read_worded h stop within
  unfold readSegment
  generalize Item.read stop within tokens = result at hread
  cases hread with
  | error hmessage => exact toldOnLines_problem hmessage
  | @ok value hsuffix =>
      obtain ⟨item, rest⟩ := value
      simp only
      split
      · simp [ToldOnLines]
      · have hrest := fun token hmem => h token (hsuffix.subset hmem)
        have htold : ToldOnLines
            [.problem (some within) (.unexpected stop "',' or ';'" rest)] :=
          toldOnLines_unexpected (by decide) hrest (some within)
        simpa [ToldOnLines] using htold

theorem toldOnLines_missingSemicolon (h : ∀ token ∈ tokens, token.kind.Proper) (stop : Position)
    (within : Section) (isComplete : Bool) :
    ToldOnLines (missingSemicolon stop within isComplete tokens) := by
  cases isComplete with
  | true => exact toldOnLines_unexpected (by decide) h _
  | false => exact toldOnLines_nil

theorem toldOnLines_readList (h : ∀ token ∈ tokens, token.kind.Proper) (stop : Position)
    (within : Section) : ToldOnLines (readList stop within tokens).1 := by
  fun_induction readList stop within tokens with
  | case1 tokens entries isComplete heq hskip =>
      have hfirst := toldOnLines_readSegment h stop within
      rw [heq] at hfirst
      exact hfirst.append (toldOnLines_missingSemicolon (by simp) stop within isComplete)
  | case2 tokens entries isComplete heq token rest hskip hcomma following remaining hrest ih =>
      have hfirst := toldOnLines_readSegment h stop within
      have hsuffix : skipItem tokens <:+ tokens := List.dropWhile_suffix _
      rw [hskip] at hsuffix
      have hfollowing := ih fun other hmem =>
        h other (hsuffix.subset (List.mem_cons_of_mem token hmem))
      rw [heq] at hfirst
      rw [hrest] at hfollowing
      exact hfirst.append hfollowing
  | case3 tokens entries isComplete heq token rest hskip hcomma hsemicolon =>
      have hfirst := toldOnLines_readSegment h stop within
      rwa [heq] at hfirst
  | case4 tokens entries isComplete heq token rest hskip hcomma hsemicolon =>
      have hfirst := toldOnLines_readSegment h stop within
      have hsuffix : skipItem tokens <:+ tokens := List.dropWhile_suffix _
      rw [hskip] at hsuffix
      rw [heq] at hfirst
      have hbehind := fun other hmem => h other (hsuffix.subset hmem)
      exact hfirst.append (toldOnLines_missingSemicolon hbehind stop within isComplete)

theorem toldOnLines_readBody (h : ∀ token ∈ tokens, token.kind.Proper) (stop : Position)
    (opened : Section) : ToldOnLines (readBody stop opened tokens).1 := by
  unfold readBody
  split
  · exact toldOnLines_nil
  · exact toldOnLines_nil
  · exact toldOnLines_readList h stop opened

theorem toldOnLines_orderProblems (last : Option Section) (opened : Section)
    (position : Position) : ToldOnLines (orderProblems last opened position) := by
  unfold orderProblems
  split <;> split
  · exact toldOnLines_problem (isOneLine_append.2 ⟨opened.isOneLine_keyword, by decide⟩)
  · exact toldOnLines_nil
  · exact toldOnLines_nil
  · exact toldOnLines_problem (isOneLine_append.2 ⟨by decide, opened.isOneLine_keyword⟩)

theorem toldOnLines_readEnd {keyword : Token} {rest : List Token}
    (h : ∀ token ∈ keyword :: rest, token.kind.Proper) (stop : Position) (last : Option Section) :
    ToldOnLines (readEnd stop last keyword rest).entries := by
  refine ToldOnLines.append ?_ ?_
  · split
    · exact toldOnLines_unexpected (by decide) h none
    · exact toldOnLines_nil
  · split
    · exact toldOnLines_nil
    · exact toldOnLines_unexpected (by decide) (List.forall_mem_cons.1 h).2 none

theorem toldOnLines_readSections (h : ∀ token ∈ tokens, token.kind.Proper) (stop : Position)
    (last : Option Section) : ToldOnLines (readSections stop last tokens).entries := by
  fun_induction readSections stop last tokens with
  | case1 last => exact toldOnLines_unexpected (by decide) (by simp) none
  | case2 last token rest hkind => exact toldOnLines_readEnd h stop last
  | case3 last token rest opened hkind body ih =>
      have hrest := (List.forall_mem_cons.1 h).2
      have hbody := toldOnLines_readBody hrest stop opened
      have hbehind := ih fun other hmem =>
        hrest other ((readBody_suffix stop opened rest).subset hmem)
      have hopening : ToldOnLines (.opening opened :: body.1) := by
        simpa [ToldOnLines] using hbody
      exact ((toldOnLines_orderProblems last opened _).append hopening).append hbehind
  | case4 last token rest hfinish hopening ih =>
      have hskip : skipToBoundary rest <:+ rest := List.dropWhile_suffix _
      have hbehind := ih fun other hmem =>
        h other (List.mem_cons_of_mem token (hskip.subset hmem))
      exact (toldOnLines_unexpected (by decide) h none).append hbehind

end Outline

/-! ## Applying -/

theorem Reference.isOneLine_text {reference : Reference} {tokens : List Token}
    (h : reference.SpelledBy tokens) (htokens : ∀ token ∈ tokens, token.kind.Proper) :
    IsOneLine reference.text := by
  cases h with
  | device name position =>
      exact isOneLine_of_isIdentifier (htokens ⟨.name name, position⟩ (by simp)).1
  | pin name pin position dot behind =>
      have hname := isOneLine_of_isIdentifier (htokens ⟨.name name, position⟩ (by simp)).1
      have hpin := isOneLine_of_isIdentifier (htokens ⟨.name pin, behind⟩ (by simp)).1
      exact isOneLine_append.2 ⟨isOneLine_append.2 ⟨hname, by decide⟩, hpin⟩

namespace Item

/-- Whether what a message quotes of an item stays on its line. -/
def IsOneLine : Item → Prop
  | .device declared => Text.IsOneLine declared.name ∧
      ∀ word, declared.kind = .unknown word → Text.IsOneLine word
  | .connection source destination => Text.IsOneLine source.text ∧ Text.IsOneLine destination.text
  | .signal reference => Text.IsOneLine reference.text

theorem isOneLine_of_spelledBy {within : Section} {item : Item} {tokens : List Token}
    (h : item.SpelledBy within tokens) (htokens : ∀ token ∈ tokens, token.kind.Proper) :
    item.IsOneLine := by
  cases h with
  | @device name position colon kind token qualifier tokens hkind hqualifier =>
      have hname : TokenKind.Proper (.name name) := htokens ⟨.name name, position⟩ (by simp)
      refine ⟨isOneLine_of_isIdentifier hname.1, fun word hword => ?_⟩
      obtain rfl : kind = .unknown word := hword
      have hproper := htokens token (by simp)
      generalize token.kind = spelled at hkind hproper
      cases hkind with
      | unknown => exact isOneLine_of_isIdentifier hproper.1
  | connection hsource hdestination =>
      obtain ⟨hleft, hright⟩ := List.forall_mem_append.1 htokens
      exact ⟨Reference.isOneLine_text hsource hleft,
        Reference.isOneLine_text hdestination (List.forall_mem_cons.1 hright).2⟩
  | signal h => exact Reference.isOneLine_text h htokens

end Item

namespace Draft

variable {draft : Draft} {item : Item}

def ToldOnLines (draft : Draft) : Prop :=
  ∀ diagnostic ∈ draft.diagnostics, IsOneLine diagnostic.message

theorem ToldOnLines.report (h : draft.ToldOnLines) {diagnostic : Diagnostic}
    (hmessage : IsOneLine diagnostic.message) (within : Option Section) :
    (draft.report within diagnostic).ToldOnLines := by
  unfold Draft.report
  split
  · exact h
  · exact List.forall_mem_append.2 ⟨h, List.forall_mem_singleton.2 hmessage⟩

theorem ToldOnLines.refuseName (h : draft.ToldOnLines) {name message : String}
    (hname : IsOneLine name) (hmessage : IsOneLine message) (position : Position) :
    (draft.refuseName position name message).ToldOnLines := by
  have hfront : IsOneLine ("`" ++ name ++ "`: ") := isOneLine_quoted hname (by decide)
  refine h.report ?_ none
  exact isOneLine_append.2 ⟨hfront, hmessage⟩

theorem isOneLine_of_monitored {network : Network} {recorder : Recorder} {reference : Reference}
    {message : String} (h : monitored network recorder reference = .error message) :
    IsOneLine message := by
  unfold monitored at h
  split at h
  · cases h
    exact MonitorError.isOneLine_message _
  · cases h
    exact MonitorError.isOneLine_message _
  · cases h
    exact NetworkError.isOneLine_message _
  · split at h
    · cases h
    · cases h
      exact MonitorError.isOneLine_message _

theorem ToldOnLines.applyItem (h : draft.ToldOnLines) (hitem : item.IsOneLine) :
    (draft.applyItem item).ToldOnLines := by
  cases item with
  | device declared =>
      obtain ⟨hname, hkind⟩ := hitem
      simp only [Draft.applyItem, declare]
      split
      · next word hword =>
        refine h.report ?_ none
        exact isOneLine_quoted (hkind word hword) (by decide)
      · split
        · exact h.refuseName hname (NetworkError.isOneLine_message _) _
        · split
          · exact h.refuseName hname (NetworkError.isOneLine_message _) _
          · exact h
  | connection source destination =>
      simp only [Draft.applyItem, connect]
      split
      · exact h
      · next reference cause hconnected =>
        have hreference : IsOneLine reference.text := by
          rcases reference_of_connected hconnected with rfl | rfl
          · exact hitem.1
          · exact hitem.2
        have himplicated : (draft.implicate destination.device).ToldOnLines := h
        exact himplicated.refuseName hreference (NetworkError.isOneLine_message _) _
  | signal reference =>
      simp only [Draft.applyItem, monitor]
      split
      · exact h
      · next message hmonitored =>
        exact h.refuseName hitem (isOneLine_of_monitored hmonitored) _

theorem toldOnLines_ofEntries {entries : List Entry} (hproblems : Outline.ToldOnLines entries)
    (hitems : ∀ item ∈ Outline.items entries, item.IsOneLine) :
    (ofEntries entries).ToldOnLines := by
  induction entries using List.reverseRecOn with
  | nil => simp [ofEntries, ToldOnLines]
  | append_singleton done entry ih =>
      rw [Outline.ToldOnLines, Outline.problems_append] at hproblems
      rw [Outline.items_append] at hitems
      obtain ⟨hdoneProblems, hproblem⟩ := List.forall_mem_append.1 hproblems
      obtain ⟨hdoneItems, hitem⟩ := List.forall_mem_append.1 hitems
      have h := ih hdoneProblems hdoneItems
      rw [ofEntries, List.foldl_concat]
      cases entry with
      | opening opened => exact h
      | item item => exact h.applyItem (hitem item (List.mem_singleton_self item))
      | problem within diagnostic =>
          exact h.report (hproblem diagnostic (List.mem_singleton_self diagnostic)) within

theorem isOneLine_unboundMessage (pins : List InputPin) : IsOneLine (unboundMessage pins) := by
  unfold unboundMessage
  split
  · next pin =>
    have hfront := isOneLine_append.2 ⟨(by decide : IsOneLine "input "), pin.isOneLine_name⟩
    exact isOneLine_append.2 ⟨hfront, by decide⟩
  · have hnames : ∀ name ∈ pins.map InputPin.name, IsOneLine name := by
      intro name hname
      obtain ⟨pin, -, rfl⟩ := List.mem_map.1 hname
      exact pin.isOneLine_name
    have hlist := isOneLine_intercalate (by decide : IsOneLine ", ") hnames
    have hfront := isOneLine_append.2 ⟨(by decide : IsOneLine "inputs "), hlist⟩
    exact isOneLine_append.2 ⟨hfront, by decide⟩

end Draft

theorem Diagnostic.isOneLine_headline {diagnostic : Diagnostic}
    (h : IsOneLine diagnostic.message) : IsOneLine diagnostic.headline := by
  have hlabel : IsOneLine diagnostic.category.label := by
    cases diagnostic.category <;> decide
  have hline := isOneLine_append.2
    ⟨(by decide : IsOneLine "line "), isOneLine_toString diagnostic.position.line⟩
  have hcolumn := isOneLine_append.2 ⟨hline, (by decide : IsOneLine ", column ")⟩
  have hplace : IsOneLine diagnostic.position.text :=
    isOneLine_append.2 ⟨hcolumn, isOneLine_toString diagnostic.position.column⟩
  have hfront := isOneLine_append.2 ⟨hlabel, (by decide : IsOneLine " at ")⟩
  have hplaced := isOneLine_append.2 ⟨hfront, hplace⟩
  exact isOneLine_append.2 ⟨isOneLine_append.2 ⟨hplaced, by decide⟩, h⟩

namespace Definition

variable {source : String} {diagnostic : Diagnostic}

theorem toldOnLines_ofEntries (source : String) :
    (Draft.ofEntries (Outline.ofTokens (.ofSource source)).entries).ToldOnLines := by
  apply Draft.toldOnLines_ofEntries
  · unfold Outline.ofTokens
    split
    · exact Outline.toldOnLines_nil
    · exact Outline.toldOnLines_readSections (fun _ => TokenStream.proper_of_mem) _ none
  · intro item hitem
    obtain ⟨parts, hparts⟩ := Outline.exists_parts_ofTokens (.ofSource source)
    rw [← hparts.items] at hitem
    obtain ⟨part, hpart, rfl⟩ := List.mem_map.1 hitem
    obtain ⟨within, hspelled⟩ := hparts.spelled part hpart
    refine Item.isOneLine_of_spelledBy hspelled fun token htoken => ?_
    have hused := hparts.sublist.subset (List.mem_flatMap.2 ⟨part, hpart, htoken⟩)
    exact TokenStream.proper_of_mem (List.take_subset _ _ hused)

/-- Whatever is reported of a text is told on one line. -/
theorem isOneLine_message (h : diagnostic ∈ (ofSource source).diagnostics) :
    IsOneLine diagnostic.message := by
  by_cases htokens : (TokenStream.ofSource source).tokens = []
  · obtain ⟨hdiagnostics, -⟩ := read_of_tokens_eq_nil htokens
    rw [hdiagnostics] at h
    rw [List.mem_singleton.1 h]
    exact (by decide : IsOneLine "definition is empty")
  · obtain ⟨haccounts, -, hgrammatical, -, hnetwork, -, hdiagnostics, -⟩ :=
      accounts_ofSource htokens
    have hname {pair : Device × DeviceId}
        (hpair : pair ∈ (ofSource source).network.devices.zipIdx) : IsOneLine pair.1.name :=
      isOneLine_of_isIdentifier (isIdentifier_of_mem_devices (List.fst_mem_of_mem_zipIdx hpair))
    rw [hdiagnostics, haccounts.diagnostics_checked hgrammatical] at h
    rcases List.mem_append.1 h with hchecked | hunused
    · rcases List.mem_append.1 hchecked with hfound | hunbound
      · exact toldOnLines_ofEntries source diagnostic hfound
      · obtain ⟨pair, hpair, rfl⟩ := List.mem_map.1 hunbound
        have hdevice := (Draft.dangling_sublist _).subset hpair
        rw [← hnetwork] at hdevice
        exact isOneLine_append.2
          ⟨isOneLine_quoted (hname hdevice) (by decide), Draft.isOneLine_unboundMessage _⟩
    · obtain ⟨pair, hpair, rfl⟩ := List.mem_map.1 hunused
      have hdevice := (Draft.unused_sublist _).subset hpair
      rw [Draft.network_checkUnbound, ← hnetwork] at hdevice
      exact isOneLine_quoted (hname hdevice) (by decide)

end Definition

end LogicBench
