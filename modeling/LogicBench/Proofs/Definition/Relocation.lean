import LogicBench.Definition.Basic
import LogicBench.Proofs.Definition.Spelling

/-!
# Relocation

What reading gives when every token is moved to another place. The grammar does not look at places:
the entries read are the same, with their places moved. The places only matter where a diagnostic
is compared with the one before it, so that a move that keeps different places apart moves the
whole draft.
-/

namespace LogicBench

/-! ## Moving places -/

section Move

variable (f : Position → Position)

def Token.move (token : Token) : Token :=
  { token with position := f token.position }

def TokenStream.move (stream : TokenStream) : TokenStream where
  tokens := stream.tokens.map (Token.move f)
  stop := f stream.stop

def Diagnostic.move (diagnostic : Diagnostic) : Diagnostic :=
  { diagnostic with position := f diagnostic.position }

def Reference.move (reference : Reference) : Reference :=
  { reference with position := f reference.position }

def Qualifier.move (qualifier : Qualifier) : Qualifier :=
  { qualifier with position := f qualifier.position }

def DeviceDeclaration.move (declared : DeviceDeclaration) : DeviceDeclaration :=
  { declared with
    position := f declared.position
    kindPosition := f declared.kindPosition
    qualifier := declared.qualifier.map (Qualifier.move f) }

def Item.move : Item → Item
  | device declared => .device (declared.move f)
  | connection source destination => .connection (source.move f) (destination.move f)
  | signal reference => .signal (reference.move f)

def Entry.move : Entry → Entry
  | opening opened => .opening opened
  | item found => .item (found.move f)
  | problem within diagnostic => .problem within (diagnostic.move f)

def Outline.move (outline : Outline) : Outline where
  entries := outline.entries.map (Entry.move f)
  unread := outline.unread.map (Token.move f)

def Notice.move : Notice → Notice
  | dropped diagnostic => .dropped (diagnostic.move f)
  | notice => notice

def Draft.move (draft : Draft) : Draft :=
  { draft with
    diagnostics := draft.diagnostics.map (Diagnostic.move f)
    declaredAt := draft.declaredAt.map f
    notices := draft.notices.map (Notice.move f) }

@[simp] theorem Token.kind_move (token : Token) : (token.move f).kind = token.kind := rfl

@[simp] theorem Draft.network_move (draft : Draft) : (draft.move f).network = draft.network := rfl

@[simp] theorem Draft.recorder_move (draft : Draft) : (draft.move f).recorder = draft.recorder :=
  rfl

end Move

variable {f : Position → Position}

/-! ## Reading items -/

theorem Position.ofFront_move (stop : Position) (tokens : List Token) :
    ofFront (f stop) (tokens.map (Token.move f)) = f (ofFront stop tokens) := by
  cases tokens <;> rfl

theorem Diagnostic.unexpected_move (stop : Position) (expected : String) (tokens : List Token) :
    unexpected (f stop) expected (tokens.map (Token.move f)) =
      (unexpected stop expected tokens).move f := by
  cases tokens with
  | nil => rfl
  | cons token rest =>
      obtain ⟨kind, position⟩ := token
      cases kind <;> rfl

namespace Item

def moveOutcome {α β : Type} (f : Position → Position) (g : α → β) :
    Except Diagnostic α → Except Diagnostic β
  | .error diagnostic => .error (diagnostic.move f)
  | .ok a => .ok (g a)

theorem moveOutcome_bind {α α' β β' : Type} {g : α → α'} {h : β → β'}
    {next : α → Except Diagnostic β} {next' : α' → Except Diagnostic β'}
    (hnext : ∀ a, next' (g a) = moveOutcome f h (next a)) (first : Except Diagnostic α) :
    moveOutcome f g first >>= next' = moveOutcome f h (first >>= next) := by
  cases first with
  | error => rfl
  | ok a => exact hnext a

def moveRead {α β : Type} (f : Position → Position) (g : α → β) :
    α × List Token → β × List Token :=
  Prod.map g (List.map (Token.move f))

theorem readName_move (stop : Position) (expected : String) (tokens : List Token) :
    readName (f stop) expected (tokens.map (Token.move f)) =
      moveOutcome f (moveRead f id) (readName stop expected tokens) := by
  cases tokens with
  | nil => rfl
  | cons token rest =>
      obtain ⟨kind, position⟩ := token
      cases kind <;> rfl

theorem readMark_move (stop : Position) (mark : TokenKind) (tokens : List Token) :
    readMark (f stop) mark (tokens.map (Token.move f)) =
      moveOutcome f (List.map (Token.move f)) (readMark stop mark tokens) := by
  cases tokens with
  | nil => rfl
  | cons token rest =>
      have hunexpected := Diagnostic.unexpected_move (f := f) stop mark.description (token :: rest)
      rw [List.map_cons] at hunexpected ⊢
      rw [readMark, readMark, Token.kind_move, hunexpected]
      split <;> rfl

theorem readReference_move (stop : Position) (tokens : List Token) :
    readReference (f stop) (tokens.map (Token.move f)) =
      moveOutcome f (moveRead f (Reference.move f)) (readReference stop tokens) := by
  rw [readReference, readReference, readName_move, Position.ofFront_move]
  refine moveOutcome_bind ?_ _
  rintro ⟨owner, rest⟩
  cases rest with
  | nil => rfl
  | cons token behind =>
      obtain ⟨kind, position⟩ := token
      cases kind with
      | dot =>
          have hpin := readName_move (f := f) stop "a pin name" behind
          simp only [moveRead, Prod.map, List.map_cons, Token.move] at hpin ⊢
          rw [hpin]
          refine moveOutcome_bind (fun outcome => ?_) _
          rfl
      | _ => rfl

theorem readKind_move (stop : Position) (tokens : List Token) :
    readKind (f stop) (tokens.map (Token.move f)) =
      moveOutcome f (moveRead f id) (readKind stop tokens) := by
  cases tokens with
  | nil => rfl
  | cons token rest =>
      obtain ⟨kind, position⟩ := token
      cases kind with
      | keyword word => cases word <;> rfl
      | _ => rfl

theorem readQualifier_move (stop : Position) (kind : KindWord) (tokens : List Token) :
    readQualifier (f stop) kind (tokens.map (Token.move f)) =
      moveOutcome f (moveRead f (Option.map (Qualifier.move f)))
        (readQualifier stop kind tokens) := by
  cases tokens with
  | nil => cases kind <;> rfl
  | cons token rest =>
      obtain ⟨front, position⟩ := token
      cases front <;> cases kind <;> rfl

theorem readDevice_move (stop : Position) (tokens : List Token) :
    readDevice (f stop) (tokens.map (Token.move f)) =
      moveOutcome f (moveRead f (Item.move f)) (readDevice stop tokens) := by
  rw [readDevice, readDevice, readName_move, Position.ofFront_move]
  refine moveOutcome_bind ?_ _
  rintro ⟨name, rest⟩
  simp only [moveRead, Prod.map]
  rw [readMark_move]
  refine moveOutcome_bind (fun behindColon => ?_) _
  rw [readKind_move, Position.ofFront_move]
  refine moveOutcome_bind ?_ _
  rintro ⟨kind, rest⟩
  simp only [moveRead, Prod.map]
  rw [id, readQualifier_move]
  refine moveOutcome_bind (fun outcome => ?_) _
  rfl

theorem readConnection_move (stop : Position) (tokens : List Token) :
    readConnection (f stop) (tokens.map (Token.move f)) =
      moveOutcome f (moveRead f (Item.move f)) (readConnection stop tokens) := by
  rw [readConnection, readConnection, readReference_move]
  refine moveOutcome_bind ?_ _
  rintro ⟨source, rest⟩
  simp only [moveRead, Prod.map]
  rw [readMark_move]
  refine moveOutcome_bind (fun behindArrow => ?_) _
  rw [readReference_move]
  refine moveOutcome_bind (fun outcome => ?_) _
  rfl

theorem readSignal_move (stop : Position) (tokens : List Token) :
    readSignal (f stop) (tokens.map (Token.move f)) =
      moveOutcome f (moveRead f (Item.move f)) (readSignal stop tokens) := by
  rw [readSignal, readSignal, readReference_move]
  refine moveOutcome_bind (fun outcome => ?_) _
  rfl

theorem read_move (stop : Position) (within : Section) (tokens : List Token) :
    read (f stop) within (tokens.map (Token.move f)) =
      moveOutcome f (moveRead f (Item.move f)) (read stop within tokens) := by
  cases within with
  | devices => exact readDevice_move stop tokens
  | connect => exact readConnection_move stop tokens
  | monitor => exact readSignal_move stop tokens

end Item

/-! ## Reading sections -/

namespace Outline

theorem skipItem_move (tokens : List Token) :
    skipItem (tokens.map (Token.move f)) = (skipItem tokens).map (Token.move f) := by
  rw [skipItem, skipItem, List.dropWhile_map]
  rfl

theorem skipToBoundary_move (tokens : List Token) :
    skipToBoundary (tokens.map (Token.move f)) = (skipToBoundary tokens).map (Token.move f) := by
  rw [skipToBoundary, skipToBoundary, List.dropWhile_map]
  rfl

theorem readSegment_move (stop : Position) (within : Section) (tokens : List Token) :
    readSegment (f stop) within (tokens.map (Token.move f)) =
      Prod.map (List.map (Entry.move f)) id (readSegment stop within tokens) := by
  rw [readSegment, readSegment, Item.read_move]
  cases Item.read stop within tokens with
  | error diagnostic => rfl
  | ok outcome =>
      obtain ⟨item, rest⟩ := outcome
      have hend : atItemEnd (rest.map (Token.move f)) = atItemEnd rest := by cases rest <;> rfl
      simp only [Item.moveOutcome, Item.moveRead, Prod.map, hend, Diagnostic.unexpected_move]
      split <;> rfl

theorem missingSemicolon_move (stop : Position) (within : Section) (isComplete : Bool)
    (tokens : List Token) :
    missingSemicolon (f stop) within isComplete (tokens.map (Token.move f)) =
      (missingSemicolon stop within isComplete tokens).map (Entry.move f) := by
  rw [missingSemicolon, missingSemicolon, Diagnostic.unexpected_move]
  split <;> rfl

theorem readList_eq (stop : Position) (within : Section) (tokens : List Token) :
    readList stop within tokens =
      let segment := readSegment stop within tokens
      match skipItem tokens with
      | [] => (segment.1 ++ missingSemicolon stop within segment.2 [], [])
      | token :: rest =>
        if token.kind = .comma then
          (segment.1 ++ (readList stop within rest).1, (readList stop within rest).2)
        else if token.kind = .semicolon then (segment.1, rest)
        else
          (segment.1 ++ missingSemicolon stop within segment.2 (token :: rest), token :: rest) := by
  rw [readList]
  split
  next h =>
    simp only [h]
    split <;> next hskip => rw [hskip]

theorem readList_move (stop : Position) (within : Section) (tokens : List Token) :
    readList (f stop) within (tokens.map (Token.move f)) =
      Prod.map (List.map (Entry.move f)) (List.map (Token.move f))
        (readList stop within tokens) := by
  fun_induction readList stop within tokens with
  | case1 tokens entries isComplete heq hskip =>
      have hmissing := missingSemicolon_move (f := f) stop within isComplete []
      rw [List.map_nil] at hmissing
      rw [readList_eq, skipItem_move, readSegment_move, heq, hskip]
      simp [hmissing]
  | case2 tokens entries isComplete heq token rest hskip hcomma following remaining hrest ih =>
      rw [readList_eq, skipItem_move, readSegment_move, heq, hskip]
      simp [hcomma, ih, hrest]
  | case3 tokens entries isComplete heq token rest hskip hcomma hsemicolon =>
      rw [readList_eq, skipItem_move, readSegment_move, heq, hskip]
      simp [hsemicolon]
  | case4 tokens entries isComplete heq token rest hskip hcomma hsemicolon =>
      have hmissing := missingSemicolon_move (f := f) stop within isComplete (token :: rest)
      rw [List.map_cons] at hmissing
      rw [readList_eq, skipItem_move, readSegment_move, heq, hskip]
      simp [hcomma, hsemicolon, hmissing]

theorem readBody_move (stop : Position) (opened : Section) (tokens : List Token) :
    readBody (f stop) opened (tokens.map (Token.move f)) =
      Prod.map (List.map (Entry.move f)) (List.map (Token.move f))
        (readBody stop opened tokens) := by
  cases tokens with
  | nil => cases opened <;> exact readList_move stop _ []
  | cons token rest =>
      obtain ⟨kind, position⟩ := token
      cases kind with
      | semicolon =>
          cases opened with
          | devices => exact readList_move stop .devices (⟨.semicolon, position⟩ :: rest)
          | connect | monitor => rfl
      | _ => cases opened <;> exact readList_move stop _ (⟨_, position⟩ :: rest)

theorem orderProblems_move (last : Option Section) (opened : Section) (position : Position) :
    orderProblems last opened (f position) =
      (orderProblems last opened position).map (Entry.move f) := by
  cases last with
  | none =>
      simp only [orderProblems]
      split <;> rfl
  | some last =>
      simp only [orderProblems]
      split <;> rfl

theorem readEnd_move (stop : Position) (last : Option Section) (keyword : Token)
    (rest : List Token) :
    readEnd (f stop) last (keyword.move f) (rest.map (Token.move f)) =
      (readEnd stop last keyword rest).move f := by
  have hnone := Diagnostic.unexpected_move (f := f) stop "DEVICES" (keyword :: rest)
  have hmore := Diagnostic.unexpected_move (f := f) stop "end of file after END" rest
  rw [List.map_cons] at hnone
  rw [readEnd, readEnd, hnone, hmore, List.isEmpty_map]
  cases last <;> cases rest <;> rfl

theorem prepend_move (entries : List Entry) (outline : Outline) :
    prepend (entries.map (Entry.move f)) (outline.move f) = (prepend entries outline).move f := by
  simp [prepend, Outline.move]

theorem readSections_move (stop : Position) (last : Option Section) (tokens : List Token) :
    readSections (f stop) last (tokens.map (Token.move f)) =
      (readSections stop last tokens).move f := by
  fun_induction readSections stop last tokens with
  | case1 last =>
      rw [List.map_nil, readSections]
      rfl
  | case2 last token rest hkind =>
      rw [List.map_cons, readSections]
      simp only [Token.kind_move, hkind]
      exact readEnd_move stop last token rest
  | case3 last token rest opened hkind body ih =>
      rw [List.map_cons, readSections]
      simp only [Token.kind_move, hkind, readBody_move]
      have hproblems : orderProblems last opened (token.move f).position =
          (orderProblems last opened token.position).map (Entry.move f) :=
        orderProblems_move last opened token.position
      have hentries : orderProblems last opened (token.move f).position ++
          .opening opened :: body.1.map (Entry.move f) =
          (orderProblems last opened token.position ++ .opening opened :: body.1).map
            (Entry.move f) := by
        rw [hproblems, List.map_append]
        rfl
      rw [← prepend_move, ← ih, ← hentries]
      rfl
  | case4 last token rest hfinish hopening ih =>
      have hunexpected :=
        Diagnostic.unexpected_move (f := f) stop "a section keyword" (token :: rest)
      rw [List.map_cons] at hunexpected ⊢
      rw [readSections]
      split
      · next h => exact absurd h hfinish
      · next opened h => exact absurd h (hopening opened)
      · rw [hunexpected, skipToBoundary_move, ih, ← prepend_move]
        rfl

theorem ofTokens_move (stream : TokenStream) :
    ofTokens (stream.move f) = (ofTokens stream).move f := by
  have hempty : (stream.move f).tokens.isEmpty = stream.tokens.isEmpty := List.isEmpty_map
  rw [ofTokens, ofTokens, hempty]
  split
  · rfl
  · exact readSections_move stream.stop none stream.tokens

theorem requested_move (outline : Outline) (stream : TokenStream) :
    requested (outline.move f) (stream.move f) = (requested outline stream).map (Token.move f) := by
  simp [requested, Outline.move, TokenStream.move, List.map_take]

end Outline

/-! ## Applying entries -/

theorem Diagnostic.follows_move (hinj : Function.Injective f) (diagnostic previous : Diagnostic) :
    (diagnostic.move f).follows (previous.move f) = diagnostic.follows previous := by
  simp [follows, move, isSyntactic, hinj.eq_iff]

namespace Draft

theorem report_move (hinj : Function.Injective f) (draft : Draft) (within : Option Section)
    (diagnostic : Diagnostic) :
    (draft.move f).report within (diagnostic.move f) = (draft.report within diagnostic).move f := by
  have hlast : (draft.move f).diagnostics.getLast?.any (diagnostic.move f).follows =
      draft.diagnostics.getLast?.any diagnostic.follows := by
    simp only [Draft.move, List.getLast?_map, Option.any_map, Diagnostic.follows_move hinj]
  rw [report, report, hlast]
  split
  · simp [note, Draft.move, Notice.move]
  · simp [Draft.move, Diagnostic.move, Diagnostic.isSyntactic]

theorem refuse_move (hinj : Function.Injective f) (draft : Draft) (position : Position)
    (message : String) :
    (draft.move f).refuse (f position) message = (draft.refuse position message).move f :=
  draft.report_move hinj none ⟨.semantic, position, message⟩

theorem refuseName_move (hinj : Function.Injective f) (draft : Draft) (position : Position)
    (name message : String) :
    (draft.move f).refuseName (f position) name message =
      (draft.refuseName position name message).move f :=
  draft.refuse_move hinj position _

theorem declare_move (hinj : Function.Injective f) (draft : Draft) (declared : DeviceDeclaration) :
    (draft.move f).declare (declared.move f) = (draft.declare declared).move f := by
  obtain ⟨name, position, kind, kindPosition, qualifier⟩ := declared
  have hdigits : (qualifier.map (Qualifier.move f)).map (·.digits) = qualifier.map (·.digits) := by
    cases qualifier <;> rfl
  have hplace : ((qualifier.map (Qualifier.move f)).map (·.position)).getD (f kindPosition) =
      f ((qualifier.map (·.position)).getD kindPosition) := by
    cases qualifier <;> rfl
  simp only [declare, DeviceDeclaration.move, hdigits, hplace, network_move]
  cases kind with
  | unknown word => exact draft.refuse_move hinj kindPosition _
  | known type =>
      simp only
      split
      · exact draft.refuseName_move hinj _ name _
      · split
        · exact draft.refuseName_move hinj position name _
        · simp [note, Draft.move, Notice.move]

theorem connected_move (network : Network) (source destination : Reference) :
    connected network (source.move f) (destination.move f) =
      (connected network source destination).mapError (Prod.map (Reference.move f) id) := by
  have hdriver : (source.move f).driver network = source.driver network := rfl
  have htarget : (destination.move f).target network = destination.target network := rfl
  rw [connected, connected, hdriver, htarget]
  split
  · rfl
  split
  · rfl
  split <;> rfl

theorem connect_move (hinj : Function.Injective f) (draft : Draft)
    (source destination : Reference) :
    (draft.move f).connect (source.move f) (destination.move f) =
      (draft.connect source destination).move f := by
  rw [connect, connect, network_move, connected_move]
  cases connected draft.network source destination with
  | ok network => rfl
  | error refusal =>
      exact (draft.implicate destination.device).refuseName_move hinj refusal.1.position _ _

theorem monitor_move (hinj : Function.Injective f) (draft : Draft) (reference : Reference) :
    (draft.move f).monitor (reference.move f) = (draft.monitor reference).move f := by
  have hmonitored : monitored (draft.move f).network (draft.move f).recorder (reference.move f) =
      monitored draft.network draft.recorder reference := rfl
  rw [monitor, monitor, hmonitored]
  cases monitored draft.network draft.recorder reference with
  | ok recorder => rfl
  | error message => exact draft.refuseName_move hinj reference.position _ message

theorem apply_move (hinj : Function.Injective f) (draft : Draft) (entry : Entry) :
    (draft.move f).apply (entry.move f) = (draft.apply entry).move f := by
  cases entry with
  | opening opened => simp [apply, Entry.move, note, Draft.move, Notice.move]
  | item item =>
      cases item with
      | device declared => exact draft.declare_move hinj declared
      | connection source destination => exact draft.connect_move hinj source destination
      | signal reference => exact draft.monitor_move hinj reference
  | problem within diagnostic => exact draft.report_move hinj within diagnostic

/-! ## Checking the whole -/

theorem declarationOf_move (hdefault : f default = default) (draft : Draft) (id : DeviceId) :
    (draft.move f).declarationOf id = f (draft.declarationOf id) := by
  rw [declarationOf, declarationOf, Draft.move, List.getElem?_map]
  cases draft.declaredAt[id]? with
  | none => exact hdefault.symm
  | some position => rfl

theorem checkInputs_move (hinj : Function.Injective f) (hdefault : f default = default)
    (draft : Draft) (device : Device) (id : DeviceId) :
    (draft.move f).checkInputs device id = (draft.checkInputs device id).move f := by
  have himplicated : (draft.move f).implicated = draft.implicated := rfl
  rw [checkInputs, checkInputs, declarationOf_move hdefault, himplicated]
  split
  · rfl
  · exact draft.refuseName_move hinj _ device.name _

theorem checkUnbound_move (hinj : Function.Injective f) (hdefault : f default = default)
    (draft : Draft) : (draft.move f).checkUnbound = draft.checkUnbound.move f := by
  have hincomplete : (draft.move f).connectIncomplete = draft.connectIncomplete := rfl
  rw [checkUnbound, checkUnbound, hincomplete, network_move]
  split
  · simp [note, Draft.move, Notice.move]
  · exact List.foldl_hom (Draft.move f) fun draft pair =>
      draft.checkInputs_move hinj hdefault pair.1 pair.2

theorem checkUse_move (hinj : Function.Injective f) (hdefault : f default = default)
    (draft : Draft) (device : Device) (id : DeviceId) :
    (draft.move f).checkUse device id = (draft.checkUse device id).move f := by
  rw [checkUse, checkUse, declarationOf_move hdefault, network_move, recorder_move]
  split
  · exact draft.report_move hinj none ⟨.warning, _, _⟩
  · rfl

theorem checkUnused_move (hinj : Function.Injective f) (hdefault : f default = default)
    (draft : Draft) : (draft.move f).checkUnused = draft.checkUnused.move f := by
  have hany : (draft.move f).diagnostics.any Diagnostic.isError =
      draft.diagnostics.any Diagnostic.isError := List.any_map
  rw [checkUnused, checkUnused, hany, network_move]
  split
  · rfl
  · exact List.foldl_hom (Draft.move f) fun draft pair =>
      draft.checkUse_move hinj hdefault pair.1 pair.2

theorem close_move (draft : Draft) : (draft.move f).close = draft.close.move f := by
  simp [close, note, Draft.move, Notice.move]

theorem ofOutline_move (hinj : Function.Injective f) (hdefault : f default = default)
    (outline : Outline) : ofOutline (outline.move f) = (ofOutline outline).move f := by
  have hentries : (outline.move f).entries.foldl apply {} =
      (outline.entries.foldl apply {}).move f := by
    rw [Outline.move, List.foldl_map]
    change outline.entries.foldl (fun draft entry => draft.apply (entry.move f))
      (Draft.move f {}) = _
    exact List.foldl_hom (Draft.move f) fun draft entry => draft.apply_move hinj entry
  rw [ofOutline, ofOutline, hentries, checkUnbound_move hinj hdefault,
    checkUnused_move hinj hdefault]

/-- A move that keeps different places apart moves the draft of a text. -/
theorem ofTokens_move (hinj : Function.Injective f) (hdefault : f default = default)
    (stream : TokenStream) : ofTokens (stream.move f) = (ofTokens stream).move f := by
  have hempty : (stream.move f).tokens.isEmpty = stream.tokens.isEmpty := List.isEmpty_map
  rw [ofTokens, ofTokens, hempty, Outline.ofTokens_move, ofOutline_move hinj hdefault]
  split
  · have hrefuse := refuse_move hinj {} stream.stop "definition is empty"
    rw [← close_move, ← hrefuse]
    rfl
  · exact close_move _

end Draft

end LogicBench
