import LogicBench.Proofs.Definition.Diagnosis
import LogicBench.Proofs.Definition.Segments
import LogicBench.Proofs.Definition.Tokens

/-!
# Recovery from syntax errors

A mistake in one item of a section costs nothing but this item. Wherever in a text the keyword of a
section stands, reading arrives at it, and what the section does is what its segments do one by one:
those with an item extend the network or the recorder, each of those with a flaw has a diagnostic of
its own. No diagnostic is lost, since a second one is dropped only at the place of the first, and
all problems of a section are at different places behind its keyword.
-/

namespace LogicBench

/-! ## What items do -/

def Item.effect (item : Item) (state : Network × Recorder) : Network × Recorder :=
  let draft := ({ network := state.1, recorder := state.2 } : Draft).applyItem item
  (draft.network, draft.recorder)

/-- What a segment does to a network and a recorder: nothing if no item can be read. -/
def Segment.effect (within : Section) (state : Network × Recorder) (segment : Segment) :
    Network × Recorder :=
  match segment.item? within with
  | some item => item.effect state
  | none => state

theorem Segment.foldl_effect (within : Section) (segments : List Segment)
    (state : Network × Recorder) :
    segments.foldl (effect within) state =
      (segments.filterMap (item? within)).foldl (fun state item => item.effect state) state := by
  rw [List.foldl_filterMap]
  congr 1
  funext state segment
  unfold effect
  cases segment.item? within <;> rfl

namespace Draft

def state (draft : Draft) : Network × Recorder :=
  (draft.network, draft.recorder)

@[simp] theorem state_report (draft : Draft) (within : Option Section) (diagnostic : Diagnostic) :
    (draft.report within diagnostic).state = draft.state := by
  rw [state, network_report, recorder_report, state]

@[simp] theorem state_refuse (draft : Draft) (position : Position) (message : String) :
    (draft.refuse position message).state = draft.state :=
  state_report ..

/-- What an item does depends on what has been built, and on nothing else in the draft. -/
theorem state_applyItem (draft : Draft) (item : Item) :
    (draft.applyItem item).state = item.effect draft.state := by
  show _ = (({ network := draft.network, recorder := draft.recorder } : Draft).applyItem item).state
  cases item with
  | device declared =>
      simp only [applyItem, declare]
      cases declared.kind with
      | unknown word =>
          simp only [state_refuse]
          rfl
      | known type =>
          simp only
          cases DeviceKind.ofDeclaration type (declared.qualifier.map (·.digits)) with
          | error cause =>
              simp only [refuseName, state_refuse]
              rfl
          | ok kind =>
              simp only
              cases draft.network.addDevice declared.name kind with
              | error cause =>
                  simp only [refuseName, state_refuse]
                  rfl
              | ok added => rfl
  | connection source destination =>
      simp only [applyItem, connect]
      cases connected draft.network source destination with
      | error refusal =>
          simp only [refuseName, state_refuse]
          rfl
      | ok network => rfl
  | signal reference =>
      simp only [applyItem, monitor]
      cases monitored draft.network draft.recorder reference with
      | error message =>
          simp only [refuseName, state_refuse]
          rfl
      | ok recorder => rfl

theorem state_foldl_apply (entries : List Entry) (draft : Draft) :
    (entries.foldl apply draft).state =
      (Outline.items entries).foldl (fun state item => item.effect state) draft.state := by
  induction entries generalizing draft with
  | nil => rfl
  | cons entry rest ih =>
      rw [List.foldl_cons, ih]
      cases entry with
      | opening opened => rfl
      | item item =>
          rw [apply, state_applyItem]
          rfl
      | problem within diagnostic =>
          rw [apply, state_report]
          rfl

/-! ## What is diagnosed -/

theorem syntactic_report {draft : Draft} {diagnostic : Diagnostic}
    (h : diagnostic.category = .syntactic)
    (hfresh : diagnostic.position ∉ draft.syntactic.map (·.position)) (within : Option Section) :
    (draft.report within diagnostic).syntactic = draft.syntactic ++ [diagnostic] := by
  have hsyntactic : diagnostic.isSyntactic := by rw [Diagnostic.isSyntactic, h]; rfl
  have hkept : draft.diagnostics.getLast?.any diagnostic.follows = false := by
    cases hlast : draft.diagnostics.getLast? with
    | none => rfl
    | some previous =>
        rw [Option.any_some, ← Bool.not_eq_true, Diagnostic.follows, hsyntactic]
        intro hfollows
        simp only [Bool.and_eq_true, decide_eq_true_eq, beq_iff_eq] at hfollows
        obtain ⟨hposition, hprevious⟩ := hfollows
        have hmem : previous ∈ draft.syntactic :=
          List.mem_filter.2 ⟨List.mem_of_getLast? hlast, hprevious⟩
        exact hfresh (hposition ▸ List.mem_map_of_mem hmem)
  rw [report, hkept, if_neg Bool.false_ne_true]
  simp [syntactic, hsyntactic]

theorem syntactic_foldl_apply {entries : List Entry} {draft : Draft}
    (hcategory : ∀ problem ∈ Outline.problems entries, problem.category = .syntactic)
    (hnodup : ((Outline.problems entries).map (·.position)).Nodup)
    (hfresh : ((Outline.problems entries).map (·.position)).Disjoint
      (draft.syntactic.map (·.position))) :
    (entries.foldl apply draft).syntactic = draft.syntactic ++ Outline.problems entries := by
  induction entries generalizing draft with
  | nil => simp
  | cons entry rest ih =>
      rw [List.foldl_cons]
      cases entry with
      | opening opened => exact ih hcategory hnodup hfresh
      | item item =>
          have hsame : (draft.apply (.item item)).syntactic = draft.syntactic :=
            syntactic_applyItem draft item
          rw [ih hcategory hnodup (by rwa [hsame]), hsame]
          rfl
      | problem within diagnostic =>
          rw [Outline.problems_cons_problem] at hcategory hnodup hfresh ⊢
          rw [List.map_cons] at hnodup hfresh
          obtain ⟨hnew, hrest⟩ := List.nodup_cons.1 hnodup
          obtain ⟨hfirst, hothers⟩ := List.disjoint_cons_left.1 hfresh
          have hreport : (draft.apply (.problem within diagnostic)).syntactic =
              draft.syntactic ++ [diagnostic] :=
            syntactic_report (hcategory _ List.mem_cons_self) hfirst within
          have hapart : ((Outline.problems rest).map (·.position)).Disjoint
              ((draft.apply (.problem within diagnostic)).syntactic.map (·.position)) := by
            rw [hreport, List.map_append]
            exact List.disjoint_append_right.2 ⟨hothers, List.disjoint_singleton.2 hnew⟩
          rw [ih (fun problem hproblem => hcategory problem (List.mem_cons_of_mem _ hproblem))
            hrest hapart, hreport, List.append_assoc, List.singleton_append]

theorem syntactic_report_cases (draft : Draft) (within : Option Section)
    (diagnostic : Diagnostic) :
    (draft.report within diagnostic).syntactic = draft.syntactic ∨
      (draft.report within diagnostic).syntactic = draft.syntactic ++ [diagnostic] := by
  unfold report
  split
  · exact .inl rfl
  · cases hsyntactic : diagnostic.isSyntactic <;> simp [syntactic, hsyntactic]

/-- Only problems are diagnosed as syntactic, and no diagnostic is taken back. -/
theorem exists_syntactic_foldl_apply (entries : List Entry) (draft : Draft) :
    ∃ kept, kept.Sublist (Outline.problems entries) ∧
      (entries.foldl apply draft).syntactic = draft.syntactic ++ kept := by
  induction entries generalizing draft with
  | nil => exact ⟨[], List.nil_sublist _, (List.append_nil _).symm⟩
  | cons entry rest ih =>
      obtain ⟨kept, hkept, heq⟩ := ih (draft.apply entry)
      rw [List.foldl_cons, heq]
      cases entry with
      | opening opened => exact ⟨kept, hkept, rfl⟩
      | item item =>
          rw [apply, syntactic_applyItem]
          exact ⟨kept, hkept, rfl⟩
      | problem within diagnostic =>
          rw [apply, Outline.problems_cons_problem]
          rcases syntactic_report_cases draft within diagnostic with hreport | hreport
          · exact ⟨kept, hkept.cons _, by rw [hreport]⟩
          · exact ⟨diagnostic :: kept, hkept.cons_cons _, by rw [hreport, ← List.append_cons]⟩

theorem syntactic_ofEntries_sublist (entries : List Entry) :
    (ofEntries entries).syntactic.Sublist (Outline.problems entries) := by
  obtain ⟨kept, hkept, heq⟩ := exists_syntactic_foldl_apply entries {}
  rw [ofEntries, heq]
  exact hkept

end Draft

/-! ## Arriving at a section -/

namespace Token

variable {token : Token}

theorem behindList_append_boundary (h : token.isBoundary) (before rest : List Token) :
    ∃ left, left <:+ before ∧ behindList (before ++ token :: rest) = left ++ token :: rest := by
  have hends : token.endsList := by simp [endsList, h]
  induction before with
  | nil =>
      refine ⟨[], List.suffix_refl _, behindList_of_endsList hends ?_ rest⟩
      intro hsemicolon
      simp [isBoundary, hsemicolon] at h
  | cons first before ih =>
      by_cases hfirst : first.endsList
      · by_cases hsemicolon : first.kind = .semicolon
        · exact ⟨before, List.suffix_cons .., behindList_of_semicolon hsemicolon _⟩
        · exact ⟨first :: before, List.suffix_refl _, behindList_of_endsList hfirst hsemicolon _⟩
      · obtain ⟨left, hleft, heq⟩ := ih
        refine ⟨left, hleft.trans (List.suffix_cons ..), ?_⟩
        rw [← heq, behindList, behindList, List.cons_append, fromListEnd, fromListEnd,
          List.dropWhile_cons_of_pos (by simpa using hfirst)]

theorem places_sublist (stop : Position) (tokens : List Token) :
    ((inList tokens).map (·.position) ++ [Position.ofFront stop (fromListEnd tokens)]).Sublist
      (tokens.map (·.position) ++ [stop]) := by
  have hcut : tokens = inList tokens ++ fromListEnd tokens :=
    (List.takeWhile_append_dropWhile ..).symm
  conv_rhs => rw [hcut, List.map_append, List.append_assoc]
  refine List.Sublist.append_left ?_ _
  cases fromListEnd tokens with
  | nil => exact List.Sublist.refl _
  | cons token rest => exact (List.nil_sublist _).cons_cons _

end Token

namespace Outline

variable {stop : Position} {opened : Section}

theorem prepend_prepend (first second : List Entry) (outline : Outline) :
    prepend first (prepend second outline) = prepend (first ++ second) outline := by
  simp [prepend]

theorem skipToBoundary_append {token : Token} (h : token.isBoundary) (before rest : List Token) :
    skipToBoundary (before ++ token :: rest) = skipToBoundary before ++ token :: rest := by
  simp [skipToBoundary, List.dropWhile_append, h]

theorem position_of_mem_orderProblems {last : Option Section} {position : Position}
    {problem : Diagnostic} (h : problem ∈ problems (orderProblems last opened position)) :
    problem.position = position := by
  unfold orderProblems at h
  split at h <;> split at h <;> simp_all [problems, Entry.problem?]

/-- The problems of a list are at tokens if a section keyword stands behind it. -/
theorem position_of_mem_problems_readBody {token : Token} (h : token.isBoundary)
    {before rest : List Token} {problem : Diagnostic}
    (hproblem : problem ∈ problems (readBody stop opened (before ++ token :: rest)).1) :
    problem.position ∈ (before ++ [token]).map (·.position) := by
  have hends : token.endsList := by simp [Token.endsList, h]
  have hlist : Token.inList (before ++ token :: rest) <+: before := by
    rw [Token.inList, List.takeWhile_append, List.takeWhile_cons_of_neg (by simp [hends])]
    split
    · rw [List.append_nil]
    · exact List.takeWhile_prefix _
  have hfront : Token.fromListEnd (before ++ token :: rest) =
      Token.fromListEnd before ++ token :: rest := by
    simp [Token.fromListEnd, List.dropWhile_append, hends]
  have hmem := (problems_readBody_sublist stop opened _).subset (List.mem_map_of_mem hproblem)
  rw [hfront] at hmem
  rw [List.map_append]
  rcases List.mem_append.1 hmem with hinside | hend
  · exact List.mem_append_left _ ((hlist.map _).subset hinside)
  · rw [List.mem_singleton.1 hend]
    have hsuffix : Token.fromListEnd before <:+ before := List.dropWhile_suffix _
    cases hleft : Token.fromListEnd before with
    | nil => exact List.mem_append_right _ (List.mem_singleton_self _)
    | cons first left =>
        rw [hleft] at hsuffix
        exact List.mem_append_left _ (List.mem_map_of_mem (hsuffix.subset List.mem_cons_self))

/-- One step of reading in front of a section keyword: what is left of the tokens before it is at
the end of them, and every problem is at one of them or at the keyword. -/
theorem exists_readSections_step (stop : Position) (last : Option Section) {token keyword : Token}
    (before rest : List Token) (htoken : token.kind ≠ .keyword .finish)
    (hkeyword : keyword.isBoundary) :
    ∃ entries next left, left <:+ before ∧
      readSections stop last (token :: before ++ keyword :: rest) =
        prepend entries (readSections stop next (left ++ keyword :: rest)) ∧
      ∀ problem ∈ problems entries,
        problem.position ∈ (token :: before ++ [keyword]).map (·.position) := by
  have hhere : token.position ∈ (token :: before ++ [keyword]).map (·.position) :=
    List.mem_cons_self
  rw [List.cons_append, readSections]
  split
  · next hkind => exact absurd hkind htoken
  · next opened hkind =>
    obtain ⟨left, hleft, hbehind⟩ := Token.behindList_append_boundary hkeyword before rest
    have hrest : (readBody stop opened (before ++ keyword :: rest)).2 = left ++ keyword :: rest :=
      (Segment.gives_readBody stop opened _).2.trans hbehind
    simp only [hrest]
    refine ⟨_, some opened, left, hleft, rfl, fun problem hproblem => ?_⟩
    rw [problems_append, problems_cons_opening] at hproblem
    rcases List.mem_append.1 hproblem with horder | hbody
    · exact position_of_mem_orderProblems horder ▸ hhere
    · exact List.mem_cons_of_mem _ (position_of_mem_problems_readBody hkeyword hbody)
  · rw [skipToBoundary_append hkeyword]
    refine ⟨_, last, _, List.dropWhile_suffix _, rfl, fun problem hproblem => ?_⟩
    obtain rfl := List.mem_singleton.1 hproblem
    exact hhere

/-- Reading arrives at the keyword of a section wherever it stands in front of the end of the
definition. Every problem found before is at a token up to this keyword. -/
theorem exists_readSections_eq (stop : Position) (last : Option Section) (opened : Section)
    (position : Position) (before rest : List Token)
    (h : ∀ token ∈ before, token.kind ≠ .keyword .finish) :
    let keyword : Token := ⟨.keyword (.opening opened), position⟩
    ∃ earlier, readSections stop last (before ++ keyword :: rest) =
        prepend (earlier ++ .opening opened :: (readBody stop opened rest).1)
          (readSections stop (some opened) (Token.behindList rest)) ∧
      ∀ problem ∈ problems earlier, problem.position ∈ (before ++ [keyword]).map (·.position) := by
  intro keyword
  have hkeyword : keyword.isBoundary := rfl
  -- By recursion on the tokens before the keyword: each step leaves fewer of them.
  match before with
  | [] =>
      refine ⟨orderProblems last opened position, ?_, fun problem hproblem => ?_⟩
      · rw [List.nil_append, readSections]
        simp only [keyword, (Segment.gives_readBody stop opened rest).2]
      · exact List.mem_singleton.2 (position_of_mem_orderProblems hproblem)
  | token :: before =>
      obtain ⟨entries, next, left, hleft, heq, hentries⟩ :=
        exists_readSections_step stop last before rest (h token List.mem_cons_self) hkeyword
      have hshorter := hleft.length_le
      obtain ⟨earlier, hrest, hearlier⟩ :=
        exists_readSections_eq stop next opened position left rest fun other hother =>
          h other (List.mem_cons_of_mem _ (hleft.subset hother))
      refine ⟨entries ++ earlier, ?_, fun problem hproblem => ?_⟩
      · rw [heq, hrest, prepend_prepend, List.append_assoc]
      · rw [problems_append] at hproblem
        rcases List.mem_append.1 hproblem with hfirst | hlater
        · exact hentries problem hfirst
        · have hsublist := (hleft.sublist.append_right [keyword]).map Token.position
          exact List.mem_cons_of_mem _ (hsublist.subset (hearlier problem hlater))
termination_by before.length

end Outline

/-! ## Segment by segment -/

namespace Draft

variable {stop : Position} {tokens : List Token}

/-- What a section does to a draft, if the draft has no diagnostic at a place behind the keyword. -/
theorem foldl_readBody (draft : Draft) (opened : Section)
    (hnodup : (tokens.map (·.position) ++ [stop]).Nodup)
    (hfresh : (tokens.map (·.position) ++ [stop]).Disjoint (draft.syntactic.map (·.position))) :
    let segments := Segment.ofBody opened stop tokens
    let done := (Outline.readBody stop opened tokens).1.foldl apply draft
    done.state = segments.foldl (Segment.effect opened) draft.state ∧
      ∃ flaws, flaws.map (·.position) = segments.filterMap (Segment.flaw? opened) ∧
        done.syntactic = draft.syntactic ++ flaws ++
          Segment.missingEnd opened stop segments (Token.fromListEnd tokens) := by
  intro segments done
  obtain ⟨hgives, -⟩ := Segment.gives_readBody stop opened tokens
  obtain ⟨flaws, hproblems, hpositions, -⟩ := hgives.problems
  have hplaces := (Outline.problems_readBody_sublist stop opened tokens).trans
    (Token.places_sublist stop tokens)
  refine ⟨?_, flaws, hpositions, ?_⟩
  · rw [state_foldl_apply, hgives.items, Segment.foldl_effect]
  · rw [syntactic_foldl_apply (fun _ => Outline.category_of_mem_problems_readBody)
      (hplaces.nodup hnodup) (fun _ hmem => hfresh (hplaces.subset hmem)), hproblems,
      List.append_assoc]

theorem state_ofTokens {stream : TokenStream} (h : stream.tokens ≠ []) :
    (ofTokens stream).state =
      (ofEntries (Outline.readSections stream.stop none stream.tokens).entries).state := by
  rw [ofTokens_of_ne_nil h]
  simp [state, close, note]

end Draft

namespace Definition

/-- Reading arrives at every section keyword in front of the end of a definition, and what stands
behind this keyword is taken apart at the commas. Network and recorder are changed by one segment
after another, each read as if it stood alone. There is one syntactic diagnostic for each segment
that cannot be read or has tokens left over, at the place where reading the segment alone stops, and
one more for a missing semicolon if nothing is wrong with the last segment. Reading goes on behind
the semicolon or at what else ended the list. -/
theorem recovery_is_local {source : String} {before rest : List Token} {opened : Section}
    {position : Position}
    (htokens : (TokenStream.ofSource source).tokens =
      before ++ ⟨.keyword (.opening opened), position⟩ :: rest)
    (hbefore : ∀ token ∈ before, token.kind ≠ .keyword .finish) :
    let stop := (TokenStream.ofSource source).stop
    let segments := Segment.ofBody opened stop rest
    let body := (Outline.readBody stop opened rest).1
    let following := Outline.readSections stop (some opened) (Token.behindList rest)
    ∃ earlier flaws,
      Outline.ofTokens (.ofSource source) =
          .prepend (earlier ++ .opening opened :: body) following ∧
        flaws.map (·.position) = segments.filterMap (Segment.flaw? opened) ∧
        let start := Draft.ofEntries (earlier ++ [.opening opened])
        let done := body.foldl Draft.apply start
        done.state = segments.foldl (Segment.effect opened) start.state ∧
          done.syntactic = start.syntactic ++ flaws ++
            Segment.missingEnd opened stop segments (Token.fromListEnd rest) ∧
          ((ofSource source).network, (ofSource source).recorder) =
            (following.entries.foldl Draft.apply done).state ∧
          done.syntactic <+: (ofSource source).diagnostics.filter Diagnostic.isSyntactic := by
  intro stop segments body following
  obtain ⟨earlier, hsections, hearlier⟩ :=
    Outline.exists_readSections_eq stop none opened position before rest hbefore
  have hne : (TokenStream.ofSource source).tokens ≠ [] := by simp [htokens]
  have houtline : Outline.readSections stop none (TokenStream.ofSource source).tokens =
      .prepend (earlier ++ .opening opened :: body) following := by
    rw [htokens]
    exact hsections
  let start := Draft.ofEntries (earlier ++ [.opening opened])
  obtain ⟨hnodup, hapart⟩ := TokenStream.places_behind htokens
  -- What was diagnosed so far is at the keyword or before it, and cannot hide a flaw of the list.
  have hfresh : (rest.map (·.position) ++ [stop]).Disjoint
      (start.syntactic.map (·.position)) := by
    intro place hbehind hstart
    obtain ⟨diagnostic, hdiagnostic, rfl⟩ := List.mem_map.1 hstart
    have hproblem := (Draft.syntactic_ofEntries_sublist _).subset hdiagnostic
    rw [Outline.problems_append] at hproblem
    exact hapart _ hbehind (hearlier diagnostic (by simpa using hproblem))
  obtain ⟨hstate, flaws, hflaws, hsyntactic⟩ := start.foldl_readBody opened hnodup hfresh
  have hdone : Draft.ofEntries (Outline.readSections stop none
      (TokenStream.ofSource source).tokens).entries =
        following.entries.foldl Draft.apply (body.foldl Draft.apply start) := by
    rw [houtline, Outline.prepend, Draft.ofEntries, List.append_cons, List.foldl_append,
      List.foldl_append]
    rfl
  refine ⟨earlier, flaws, ?_, hflaws, hstate, hsyntactic, ?_, ?_⟩
  · rw [Outline.ofTokens, if_neg (by simpa using hne)]
    exact houtline
  · rw [← hdone, ← Draft.state_ofTokens hne]
    rfl
  · obtain ⟨kept, -, heq⟩ :=
      Draft.exists_syntactic_foldl_apply following.entries (body.foldl Draft.apply start)
    show _ <+: (Draft.ofTokens (TokenStream.ofSource source)).syntactic
    rw [Draft.syntactic_ofTokens hne, hdone, heq]
    exact List.prefix_append ..

/-- The second item breaks off at a comma, and the semicolon behind the third one is missing. -/
theorem recovery_is_local_devices :
    let source := "DEVICES a:NOT, b, c:NOT CONNECT; END"
    let stream := TokenStream.ofSource source
    let rest := stream.tokens.tail
    stream.tokens = [] ++ ⟨.keyword (.opening .devices), .start⟩ :: rest ∧
      ∃ flaws : List Diagnostic, flaws.map (·.position) = [⟨1, 17, 16⟩] ∧
        flaws ++ [.unexpected stream.stop "';'" (Token.fromListEnd rest)] ⊆
          (ofSource source).diagnostics := by
  intro source stream rest
  let segments := Segment.ofBody .devices stream.stop rest
  have htokens : stream.tokens = [] ++ ⟨.keyword (.opening .devices), .start⟩ :: rest := by
    unfold rest stream source
    decide +kernel
  have hflaws : segments.filterMap (Segment.flaw? .devices) = [⟨1, 17, 16⟩] := by
    unfold segments rest stream source
    decide +kernel
  have hmissing : Segment.missingEnd .devices stream.stop segments (Token.fromListEnd rest) =
      [.unexpected stream.stop "';'" (Token.fromListEnd rest)] := by
    unfold segments rest stream source
    decide +kernel
  obtain ⟨earlier, flaws, -, hpositions, -, hsyntactic, -, hkept⟩ :=
    recovery_is_local htokens (by simp)
  refine ⟨htokens, flaws, hpositions.trans hflaws, fun diagnostic hdiagnostic => ?_⟩
  rw [← hmissing] at hdiagnostic
  rw [List.append_assoc] at hsyntactic
  have hdone := hsyntactic ▸ List.mem_append_right _ hdiagnostic
  exact (List.mem_filter.1 (hkept.subset hdone)).1

end Definition

end LogicBench
