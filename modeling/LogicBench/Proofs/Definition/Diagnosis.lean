import LogicBench.Proofs.Definition.Drafting
import LogicBench.Proofs.Definition.Recognition

/-!
# Syntactic diagnostics

The first syntactic diagnostic of a definition is the first problem that its tokens have with the
grammar. It is never dropped, since no diagnostic before it concerns the grammar, and nothing but
the grammar is diagnosed as syntactic.
-/

namespace LogicBench

open Token (kinds)

namespace Draft

def syntactic (draft : Draft) : List Diagnostic :=
  draft.diagnostics.filter Diagnostic.isSyntactic

theorem syntactic_report_of_not {diagnostic : Diagnostic} (h : diagnostic.isSyntactic = false)
    (draft : Draft) (within : Option Section) :
    (draft.report within diagnostic).syntactic = draft.syntactic := by
  unfold report
  split
  · rfl
  · simp [syntactic, h]

theorem syntactic_refuse (draft : Draft) (position : Position) (message : String) :
    (draft.refuse position message).syntactic = draft.syntactic :=
  syntactic_report_of_not rfl draft none

theorem syntactic_applyItem (draft : Draft) (item : Item) :
    (draft.applyItem item).syntactic = draft.syntactic := by
  cases item with
  | device declared =>
      rcases draft.declare_cases declared with
        ⟨type, kind, network, id, -, -, -, heq⟩ | ⟨position, message, heq⟩
      · rw [applyItem, heq]
        rfl
      · rw [applyItem, heq, syntactic_refuse]
  | connection source destination =>
      rcases draft.connect_cases source destination with
        ⟨network, -, heq⟩ | ⟨position, message, heq⟩
      · rw [applyItem, heq]
        rfl
      · rw [applyItem, heq, syntactic_refuse]
        rfl
  | signal reference =>
      rcases draft.monitor_cases reference with ⟨recorder, -, heq⟩ | ⟨position, message, heq⟩
      · rw [applyItem, heq]
        rfl
      · rw [applyItem, heq, syntactic_refuse]

theorem syntactic_checkInputs (draft : Draft) (device : Device) (id : DeviceId) :
    (draft.checkInputs device id).syntactic = draft.syntactic := by
  unfold checkInputs
  split
  · rfl
  · exact syntactic_refuse ..

theorem syntactic_checkUse (draft : Draft) (device : Device) (id : DeviceId) :
    (draft.checkUse device id).syntactic = draft.syntactic := by
  unfold checkUse
  split
  · exact syntactic_report_of_not rfl draft none
  · rfl

theorem syntactic_checkUnbound (draft : Draft) :
    draft.checkUnbound.syntactic = draft.syntactic := by
  unfold checkUnbound
  split
  · rfl
  · exact foldl_keeps _ (fun _ _ => syntactic_checkInputs ..) _ _

theorem syntactic_checkUnused (draft : Draft) :
    draft.checkUnused.syntactic = draft.syntactic := by
  unfold checkUnused
  split
  · rfl
  · exact foldl_keeps _ (fun _ _ => syntactic_checkUse ..) _ _

/-- Checking a definition as a whole adds nothing that concerns the grammar. -/
theorem syntactic_ofTokens {stream : TokenStream} (h : stream.tokens ≠ []) :
    (ofTokens stream).syntactic =
      (ofEntries (Outline.readSections stream.stop none stream.tokens).entries).syntactic := by
  rw [ofTokens_of_ne_nil h]
  show (checkUnused _).syntactic = _
  rw [syntactic_checkUnused, syntactic_checkUnbound]

def firstSyntactic (draft : Draft) : Option Diagnostic :=
  draft.diagnostics.find? Diagnostic.isSyntactic

theorem firstSyntactic_eq_head? (draft : Draft) : draft.firstSyntactic = draft.syntactic.head? :=
  List.head?_filter.symm

theorem firstSyntactic_report (draft : Draft) (within : Option Section) (diagnostic : Diagnostic) :
    (draft.report within diagnostic).firstSyntactic =
      draft.firstSyntactic.or ((some diagnostic).filter Diagnostic.isSyntactic) := by
  unfold report
  split
  · next hdropped =>
    show draft.firstSyntactic = _
    cases hsyntactic : diagnostic.isSyntactic with
    | false => simp [Option.filter, hsyntactic]
    | true =>
        -- It follows a diagnostic that concerns the grammar too.
        cases hlast : draft.diagnostics.getLast? with
        | none =>
            rw [hlast] at hdropped
            cases hdropped
        | some previous =>
            have hprevious : previous.isSyntactic = true := by
              simp only [hlast, Option.any_some, Diagnostic.follows, hsyntactic,
                Bool.and_eq_true, beq_iff_eq] at hdropped
              exact hdropped.2
            have hfound : draft.firstSyntactic.isSome := by
              rw [firstSyntactic, List.find?_isSome]
              exact ⟨previous, List.mem_of_getLast? hlast, hprevious⟩
            obtain ⟨first, hfirst⟩ := Option.isSome_iff_exists.1 hfound
            rw [hfirst, Option.some_or]
  · cases hsyntactic : diagnostic.isSyntactic <;>
      simp [firstSyntactic, List.find?_append, hsyntactic, Option.filter]

theorem firstSyntactic_foldl_apply (entries : List Entry) (draft : Draft) :
    (entries.foldl apply draft).firstSyntactic =
      draft.firstSyntactic.or ((Outline.problems entries).find? Diagnostic.isSyntactic) := by
  induction entries generalizing draft with
  | nil => simp
  | cons entry rest ih =>
      rw [List.foldl_cons, ih]
      cases entry with
      | opening opened => rfl
      | item item =>
          rw [apply, firstSyntactic_eq_head?, syntactic_applyItem, ← firstSyntactic_eq_head?]
          rfl
      | problem within diagnostic =>
          rw [apply, firstSyntactic_report, Outline.problems_cons_problem, List.find?_cons,
            Option.or_assoc]
          cases hsyntactic : diagnostic.isSyntactic <;> simp [Option.filter, hsyntactic]

theorem firstSyntactic_ofTokens {stream : TokenStream} (h : stream.tokens ≠ []) :
    (ofTokens stream).firstSyntactic =
      (Outline.problems (Outline.readSections stream.stop none stream.tokens).entries).find?
        Diagnostic.isSyntactic := by
  rw [firstSyntactic_eq_head?, syntactic_ofTokens h, ← firstSyntactic_eq_head?, ofEntries,
    firstSyntactic_foldl_apply]
  rfl

end Draft

namespace Definition

/-- Either the tokens of a text are a sentence and no diagnostic is syntactic, or the first such
diagnostic is at the first wrong token. -/
theorem find?_isSyntactic_cases {source : String} (h : (TokenStream.ofSource source).tokens ≠ []) :
    let stream := TokenStream.ofSource source
    let found := (ofSource source).diagnostics.find? Diagnostic.isSyntactic
    (kinds stream.tokens ∈ Grammar.definition ∧ found = none) ∨
      ∃ diagnostic, found = some diagnostic ∧
        FirstWrong Grammar.definition stream.stop stream.tokens diagnostic.position := by
  intro stream found
  have hfirst : found = _ := Draft.firstSyntactic_ofTokens h
  have hagrees : Outline.Agrees (Section.remaining none) 1 stream.stop stream.tokens
      (Outline.readSections stream.stop none stream.tokens).entries [] :=
    Outline.readSections_agrees none stream.tokens
  unfold Outline.Agrees at hagrees
  split at hagrees
  · next hproblems =>
    rw [hproblems, List.find?_nil] at hfirst
    exact .inl ⟨hagrees.mem rfl, hfirst⟩
  · next diagnostic more hproblems =>
    obtain ⟨hsyntactic, hwrong⟩ := hagrees
    have hfound : diagnostic.isSyntactic := by
      rw [Diagnostic.isSyntactic, hsyntactic]
      rfl
    rw [hproblems, List.find?_cons_of_pos hfound] at hfirst
    exact .inr ⟨diagnostic, hfirst, hwrong⟩

/-- A text with tokens has no syntactic diagnostic exactly if its tokens are a sentence of the
grammar. Otherwise the first one is at the first token with which they cannot be continued to a
sentence. -/
theorem no_syntactic_iff_sentence {source : String}
    (h : (TokenStream.ofSource source).tokens ≠ []) :
    let stream := TokenStream.ofSource source
    let diagnostics := (ofSource source).diagnostics
    ((∀ diagnostic ∈ diagnostics, diagnostic.category ≠ .syntactic) ↔
        kinds stream.tokens ∈ Grammar.definition) ∧
      (kinds stream.tokens ∉ Grammar.definition →
        ∃ diagnostic, diagnostics.find? Diagnostic.isSyntactic = some diagnostic ∧
          FirstWrong Grammar.definition stream.stop stream.tokens diagnostic.position) := by
  intro stream diagnostics
  have hcategory (diagnostic : Diagnostic) :
      diagnostic.isSyntactic = true ↔ diagnostic.category = .syntactic := by
    obtain ⟨category, position, message⟩ := diagnostic
    cases category <;> simp [Diagnostic.isSyntactic, Diagnostic.Category.isSyntactic]
  rcases find?_isSyntactic_cases h with ⟨hsentence, hnone⟩ | ⟨diagnostic, hfound, hwrong⟩
  · refine ⟨⟨fun _ => hsentence, fun _ diagnostic hmem hsyntactic => ?_⟩,
      fun hnot => absurd hsentence hnot⟩
    exact List.find?_eq_none.1 hnone diagnostic hmem ((hcategory diagnostic).2 hsyntactic)
  · refine ⟨⟨fun hnone => ?_, fun hsentence => absurd hsentence hwrong.not_mem⟩,
      fun _ => ⟨diagnostic, hfound, hwrong⟩⟩
    have hsyntactic := (hcategory diagnostic).1 (List.find?_some hfound)
    exact absurd hsyntactic (hnone diagnostic (List.mem_of_find?_eq_some hfound))

/-- A list that ends with a comma: the semicolon is the first wrong token. -/
theorem no_syntactic_iff_sentence_comma :
    let source := "DEVICES s:SWITCH 0, ; END"
    let stream := TokenStream.ofSource source
    stream.tokens ≠ [] ∧
      ((∀ diagnostic ∈ (ofSource source).diagnostics, diagnostic.category ≠ .syntactic) ↔
        kinds stream.tokens ∈ Grammar.definition) := by
  have h : (TokenStream.ofSource "DEVICES s:SWITCH 0, ; END").tokens ≠ [] := by
    have hlength : (TokenStream.ofSource "DEVICES s:SWITCH 0, ; END").tokens.length = 8 := by
      decide +kernel
    intro hnil
    rw [hnil] at hlength
    cases hlength
  exact ⟨h, (no_syntactic_iff_sentence h).1⟩

end Definition

end LogicBench
