import LogicBench.Proofs.Definition.Recognition
import LogicBench.Proofs.Definition.Rendering

/-!
# Exactness of elaboration

What is built from a definition that follows the grammar, and its errors: one for each item that is
rejected, and one for each device that has an input without a driver, unless a connection to it was
rejected.
-/

namespace LogicBench

open Token (kinds)
open Elaboration (Elaborates)

def Diagnostic.unboundInputs (device : Device) (place : Position) : Diagnostic where
  category := .semantic
  position := place
  message := "`" ++ device.name ++ "`: " ++ Draft.unboundMessage device.unbound

namespace Elaboration

/-- Whether a device has an input without a driver and no connection to it has been rejected. -/
def Dangles (state : Elaboration) (id : DeviceId) : Prop :=
  ∃ device, state.network.device? id = some device ∧ device.HasUnbound ∧
    ¬ state.Implicates device.name

def ReportsDevice (state : Elaboration) (id : DeviceId) (diagnostic : Diagnostic) : Prop :=
  diagnostic.category = .semantic ∧
    ∃ declared, state.declared[id]? = some declared ∧ diagnostic.position = declared.position

/-- Whether errors are one for each rejected item and one for each device that dangles. -/
def Explains (state : Elaboration) (errors : List Diagnostic) : Prop :=
  ∃ refusals unbound ids, errors = refusals ++ unbound ∧
    List.Forall₂ Item.Reports state.rejected refusals ∧
    ids.Pairwise (· < ·) ∧ (∀ id, id ∈ ids ↔ state.Dangles id) ∧
    List.Forall₂ state.ReportsDevice ids unbound

theorem exists_declared {state : Elaboration}
    (hnames : state.declared.map (·.name) = state.network.devices.map Device.name) {id : DeviceId}
    {device : Device} (h : state.network.device? id = some device) :
    ∃ declared, state.declared[id]? = some declared := by
  obtain ⟨hlt, -⟩ := List.getElem?_eq_some_iff.1 h
  have hlength : state.declared.length = state.network.devices.length := by
    simpa using congrArg List.length hnames
  have hbound : id < state.declared.length := Nat.lt_of_lt_of_eq hlt hlength.symm
  exact ⟨_, List.getElem?_eq_getElem hbound⟩

theorem Elaborates.apart {items : List Item} {last : Elaboration} (h : Elaborates {} items last)
    (horder : items.Pairwise Item.Precedes) :
    (last.rejected ++ last.declared.map Item.device).Pairwise
      fun first second => first.positions.Disjoint second.positions := by
  obtain ⟨some, hperm, hsublist⟩ := h.subperm
  have hitems : some.Pairwise fun first second => first.positions.Disjoint second.positions :=
    (horder.sublist hsublist).imp And.left
  exact hperm.pairwise hitems fun hdisjoint => hdisjoint.symm

end Elaboration

namespace Draft

theorem errors_report_warning {draft : Draft} {diagnostic : Diagnostic}
    (h : diagnostic.isError = false) (within : Option Section) :
    (draft.report within diagnostic).diagnostics.filter Diagnostic.isError =
      draft.diagnostics.filter Diagnostic.isError := by
  unfold report
  split
  · rfl
  · simp [h]

theorem errors_checkUse (draft : Draft) (device : Device) (id : DeviceId) :
    (draft.checkUse device id).diagnostics.filter Diagnostic.isError =
      draft.diagnostics.filter Diagnostic.isError := by
  unfold checkUse
  split
  · exact errors_report_warning rfl none
  · rfl

theorem errors_checkUnused (draft : Draft) :
    draft.checkUnused.diagnostics.filter Diagnostic.isError =
      draft.diagnostics.filter Diagnostic.isError := by
  unfold checkUnused
  split
  · rfl
  · exact foldl_keeps (fun draft => draft.diagnostics.filter Diagnostic.isError)
      (fun _ _ => errors_checkUse ..) _ _

def isDangling (draft : Draft) (pair : Device × DeviceId) : Bool :=
  !(pair.1.unbound.isEmpty || draft.implicated.contains pair.2)

def unboundError (draft : Draft) (pair : Device × DeviceId) : Diagnostic :=
  .unboundInputs pair.1 (draft.declarationOf pair.2)

theorem checkInputs_eq (draft : Draft) (pair : Device × DeviceId) :
    draft.checkInputs pair.1 pair.2 =
      if draft.isDangling pair then draft.report none (draft.unboundError pair) else draft := by
  rw [checkInputs, isDangling]
  cases pair.1.unbound.isEmpty || draft.implicated.contains pair.2 <;> rfl

theorem checkInputs_of_not_isDangling {draft : Draft} {device : Device} {id : DeviceId}
    (h : ¬ draft.isDangling (device, id)) : draft.checkInputs device id = draft := by
  rw [draft.checkInputs_eq (device, id), if_neg h]

/-- A check that reports the devices selected, each at a place of its own, reports them all, in
their order. What is selected and reported does not depend on the diagnostics before. -/
theorem foldl_report_eq {check : Draft → Device × DeviceId → Draft}
    {selects : Device × DeviceId → Bool} {diagnostic : Device × DeviceId → Diagnostic}
    {draft : Draft} {pairs : List (Device × DeviceId)}
    (hcheck : ∀ diagnostics pair,
      let current := { draft with diagnostics }
      check current pair =
        if selects pair then current.report none (diagnostic pair) else current)
    (hmeaning : ∀ pair, (diagnostic pair).isSyntactic = false)
    (hfresh : ∀ pair ∈ pairs, ∀ previous ∈ draft.diagnostics,
      previous.position ≠ (diagnostic pair).position)
    (hdistinct : pairs.Pairwise fun first second =>
      (diagnostic first).position ≠ (diagnostic second).position) :
    pairs.foldl check draft =
      { draft with diagnostics := draft.diagnostics ++ (pairs.filter selects).map diagnostic } := by
  induction pairs generalizing draft with
  | nil => simp
  | cons pair rest ih =>
      obtain ⟨hhere, hapart⟩ := List.pairwise_cons.1 hdistinct
      have hfreshRest (other : Device × DeviceId) (hother : other ∈ rest) :=
        hfresh other (List.mem_cons_of_mem _ hother)
      rw [List.foldl_cons, hcheck draft.diagnostics pair]
      cases hselects : selects pair with
      | false =>
          rw [List.filter_cons_of_neg (by simp [hselects]), if_neg Bool.false_ne_true]
          exact ih hcheck hfreshRest hapart
      | true =>
          have hreport := report_of_fresh (hmeaning pair) (hfresh pair List.mem_cons_self) none
          have hfreshNext : ∀ other ∈ rest, ∀ previous ∈ draft.diagnostics ++ [diagnostic pair],
              previous.position ≠ (diagnostic other).position := by
            intro other hother previous hprevious
            rcases List.mem_append.1 hprevious with hold | hnew
            · exact hfreshRest other hother previous hold
            · rw [List.mem_singleton.1 hnew]
              exact hhere other hother
          rw [List.filter_cons_of_pos hselects, if_pos rfl, hreport]
          rw [@ih { draft with diagnostics := draft.diagnostics ++ [diagnostic pair] } hcheck
            hfreshNext hapart]
          simp

theorem foldl_checkInputs_eq {draft : Draft} {pairs : List (Device × DeviceId)}
    (hfresh : ∀ pair ∈ pairs, ∀ previous ∈ draft.diagnostics,
      previous.position ≠ draft.declarationOf pair.2)
    (hdistinct : pairs.Pairwise fun first second =>
      draft.declarationOf first.2 ≠ draft.declarationOf second.2) :
    pairs.foldl (fun draft (device, id) => draft.checkInputs device id) draft =
      { draft with diagnostics :=
          draft.diagnostics ++ (pairs.filter draft.isDangling).map draft.unboundError } :=
  foldl_report_eq (fun diagnostics pair => checkInputs_eq { draft with diagnostics } pair)
    (fun _ => rfl) hfresh hdistinct

variable {draft : Draft} {state : Elaboration}

theorem Renders.isDangling_iff (h : draft.Renders state) {device : Device} {id : DeviceId}
    (hdevice : draft.network.device? id = some device) : draft.isDangling (device, id) ↔
      device.HasUnbound ∧ ¬ state.Implicates device.name := by
  have hshaped := h.built.wellWired.shaped hdevice
  have himplicated : id ∈ draft.implicated ↔ state.Implicates device.name := by
    rw [h.implicated]
    constructor
    · rintro ⟨same, hsame, himplicates⟩
      cases hdevice.symm.trans hsame
      exact himplicates
    · intro himplicates
      exact ⟨device, hdevice, himplicates⟩
  rw [Device.hasUnbound_iff hshaped, ← himplicated]
  simp [isDangling]

theorem Renders.declarationOf_eq (h : draft.Renders state) {id : DeviceId}
    {declared : DeviceDeclaration} (hdeclared : state.declared[id]? = some declared) :
    draft.declarationOf id = declared.position := by
  simp [declarationOf, h.declaredAt, hdeclared]

theorem Renders.exists_declarationOf (h : draft.Renders state)
    (hnames : state.declared.map (·.name) = state.network.devices.map Device.name)
    {pair : Device × DeviceId} (hpair : pair ∈ draft.network.devices.zipIdx) :
    ∃ declared, state.declared[pair.2]? = some declared ∧
      draft.declarationOf pair.2 = declared.position := by
  have hdevice : state.network.device? pair.2 = some pair.1 := by
    rw [← h.network]
    exact List.mem_zipIdx_iff_getElem?.1 hpair
  obtain ⟨declared, hdeclared⟩ := Elaboration.exists_declared hnames hdevice
  exact ⟨declared, hdeclared, h.declarationOf_eq hdeclared⟩

theorem pairwise_snd_zipIdx (devices : List Device) :
    (devices.zipIdx.map Prod.snd).Pairwise (· < ·) := by
  rw [List.zipIdx_map_snd]
  exact List.pairwise_lt_range'

/-- No device is declared where an item was refused. -/
theorem Renders.declarationOf_fresh (h : draft.Renders state)
    (hnames : state.declared.map (·.name) = state.network.devices.map Device.name)
    (hapart : (state.rejected ++ state.declared.map Item.device).Pairwise
      fun first second => first.positions.Disjoint second.positions) :
    ∀ pair ∈ draft.network.devices.zipIdx, ∀ previous ∈ draft.diagnostics,
      previous.position ≠ draft.declarationOf pair.2 := by
  intro pair hpair previous hprevious heq
  obtain ⟨declared, hdeclared, hplace⟩ := h.exists_declarationOf hnames hpair
  obtain ⟨rejected, hrejected, -, hposition⟩ := exists_of_forall₂ h.diagnostics hprevious
  have hmem : Item.device declared ∈ state.declared.map Item.device :=
    List.mem_map_of_mem (List.mem_of_getElem? hdeclared)
  have hdisjoint := (List.pairwise_append.1 hapart).2.2 rejected hrejected _ hmem
  rw [heq, hplace] at hposition
  exact hdisjoint hposition List.mem_cons_self

theorem Renders.declarationOf_distinct (h : draft.Renders state)
    (hnames : state.declared.map (·.name) = state.network.devices.map Device.name)
    (hapart : (state.rejected ++ state.declared.map Item.device).Pairwise
      fun first second => first.positions.Disjoint second.positions) :
    draft.network.devices.zipIdx.Pairwise fun first second =>
      draft.declarationOf first.2 ≠ draft.declarationOf second.2 := by
  have hdeclared := List.pairwise_map.1 (List.pairwise_append.1 hapart).2.1
  apply (List.pairwise_map.1 (pairwise_snd_zipIdx draft.network.devices)).imp_of_mem
  intro first second hfirst hsecond hlt heq
  obtain ⟨one, hone, honePlace⟩ := h.exists_declarationOf hnames hfirst
  obtain ⟨two, htwo, htwoPlace⟩ := h.exists_declarationOf hnames hsecond
  obtain ⟨honeLt, rfl⟩ := List.getElem?_eq_some_iff.1 hone
  obtain ⟨htwoLt, rfl⟩ := List.getElem?_eq_some_iff.1 htwo
  have hdisjoint := List.pairwise_iff_getElem.1 hdeclared _ _ honeLt htwoLt hlt
  rw [honePlace, htwoPlace] at heq
  exact hdisjoint List.mem_cons_self (heq ▸ List.mem_cons_self)

/-- Checking a draft leaves the errors that its elaboration explains. -/
theorem Renders.explains (h : draft.Renders state)
    (hnames : state.declared.map (·.name) = state.network.devices.map Device.name)
    (hapart : (state.rejected ++ state.declared.map Item.device).Pairwise
      fun first second => first.positions.Disjoint second.positions) :
    state.Explains (draft.checkUnbound.checkUnused.diagnostics.filter Diagnostic.isError) := by
  let dangling := draft.network.devices.zipIdx.filter draft.isDangling
  have hchecked : draft.checkUnbound.diagnostics =
      draft.diagnostics ++ dangling.map draft.unboundError := by
    rw [checkUnbound, h.complete, if_neg (by decide), foldl_checkInputs_eq
      (h.declarationOf_fresh hnames hapart) (h.declarationOf_distinct hnames hapart)]
  have hsemantic : ∀ diagnostic ∈ draft.diagnostics ++ dangling.map draft.unboundError,
      diagnostic.isError := by
    intro diagnostic hmem
    have hcategory : diagnostic.category = .semantic := by
      rcases List.mem_append.1 hmem with hrefusal | hunbound
      · obtain ⟨_, _, hreport⟩ := exists_of_forall₂ h.diagnostics hrefusal
        exact hreport.1
      · obtain ⟨pair, -, rfl⟩ := List.mem_map.1 hunbound
        rfl
    rw [Diagnostic.isError, hcategory]
    rfl
  have hmember (pair : Device × DeviceId) :
      pair ∈ dangling ↔
        state.network.device? pair.2 = some pair.1 ∧ pair.1.HasUnbound ∧
          ¬ state.Implicates pair.1.name := by
    have hdevice : pair ∈ draft.network.devices.zipIdx ↔
        draft.network.device? pair.2 = some pair.1 := List.mem_zipIdx_iff_getElem?
    rw [List.mem_filter, hdevice, ← h.network]
    exact and_congr_right h.isDangling_iff
  refine ⟨draft.diagnostics, dangling.map draft.unboundError, dangling.map Prod.snd, ?_,
    h.diagnostics, ?_, ?_, ?_⟩
  · rw [errors_checkUnused, hchecked, List.filter_eq_self.2 hsemantic]
  · exact (pairwise_snd_zipIdx _).sublist (List.filter_sublist.map Prod.snd)
  · intro id
    rw [List.mem_map]
    constructor
    · rintro ⟨pair, hpair, rfl⟩
      exact ⟨pair.1, (hmember pair).1 hpair⟩
    · intro ⟨device, hdangles⟩
      exact ⟨(device, id), (hmember (device, id)).2 hdangles, rfl⟩
  · rw [List.forall₂_map_left_iff, List.forall₂_map_right_iff, List.forall₂_same]
    intro pair hpair
    obtain ⟨declared, hdeclared, hplace⟩ :=
      h.exists_declarationOf hnames (List.mem_of_mem_filter hpair)
    exact ⟨rfl, declared, hdeclared, hplace⟩

end Draft

namespace Definition

variable {source : String}

theorem exists_renders {items : List Item} {last : Elaboration}
    (hspelled : Item.SectionsSpelledBy none items (TokenStream.ofSource source).tokens)
    (h : Elaborates {} items last) :
    ∃ draft : Draft, draft.Renders last ∧ (ofSource source).network = draft.network ∧
      (ofSource source).recorder = draft.recorder ∧
      (ofSource source).diagnostics = draft.checkUnbound.checkUnused.diagnostics := by
  set stream := TokenStream.ofSource source with hstream
  have hread : Outline.items (Outline.readSections stream.stop none stream.tokens).entries = items ∧
      Outline.problems (Outline.readSections stream.stop none stream.tokens).entries = [] :=
    Outline.readSections_of_sectionsSpelledBy hspelled
  obtain ⟨hitems, hproblems⟩ := hread
  have hrenders : (Draft.ofEntries
      (Outline.readSections stream.stop none stream.tokens).entries).Renders last := by
    apply Draft.renders_empty.foldl_apply hproblems
    · rw [hitems]
      exact Item.wellFormed_of_sectionsSpelledBy hspelled
    · rw [hitems]
      exact Item.precedes_of_sectionsSpelledBy hspelled
    · rw [hitems]
      exact h
  have htokens : stream.tokens ≠ [] := by
    intro hnil
    rw [hnil] at hspelled
    cases hspelled
  have hdraft := Draft.ofTokens_of_ne_nil htokens
  refine ⟨_, hrenders, ?_, ?_, ?_⟩
  · show (Draft.ofTokens stream).network = _
    rw [hdraft]
    simp [Draft.close, Draft.note]
  · show (Draft.ofTokens stream).recorder = _
    rw [hdraft]
    simp [Draft.close, Draft.note]
  · show (Draft.ofTokens stream).diagnostics = _
    rw [hdraft]
    rfl

theorem elaborates_ofSource {items : List Item} {last : Elaboration}
    (hspelled : Item.SectionsSpelledBy none items (TokenStream.ofSource source).tokens)
    (h : Elaborates {} items last) :
    (ofSource source).network = last.network ∧ (ofSource source).recorder = last.recorder ∧
      last.Explains (ofSource source).errors := by
  obtain ⟨draft, hrenders, hnetwork, hrecorder, hdiagnostics⟩ := exists_renders hspelled h
  have hapart := h.apart (Item.precedes_of_sectionsSpelledBy hspelled)
  refine ⟨hnetwork.trans hrenders.network, hrecorder.trans hrenders.recorder, ?_⟩
  rw [errors, hdiagnostics]
  exact hrenders.explains (h.names rfl) hapart

/-- The tokens of a definition that follows the grammar spell its items. The network and the
recorder are what these build in the order in which they are written, and the errors are those that
this explains. -/
theorem elaboration_exact (h : kinds (TokenStream.ofSource source).tokens ∈ Grammar.definition) :
    let tokens := (TokenStream.ofSource source).tokens
    let definition := ofSource source
    (∃ items, Item.SectionsSpelledBy none items tokens) ∧
      ∀ items, Item.SectionsSpelledBy none items tokens →
        (∃ last, Elaborates {} items last) ∧
          ∀ last, Elaborates {} items last →
            definition.network = last.network ∧ definition.recorder = last.recorder ∧
              last.Explains definition.errors := by
  intro tokens definition
  have hproblems : Outline.problems (Outline.readSections .start none tokens).entries = [] :=
    Outline.problems_readSections_eq_nil_iff.2 h
  refine ⟨⟨_, Outline.sectionsSpelledBy_of_readSections hproblems⟩, fun items hspelled => ?_⟩
  refine ⟨Elaboration.exists_elaborates {} items, fun last helaborates => ?_⟩
  exact elaborates_ofSource hspelled helaborates

/-- A declaration is rejected, and a device is left with a free input. -/
theorem elaboration_exact_rejected :
    let source := "DEVICES s:SWITCH 1, a:AND 2, a:NOT; CONNECT s > a.I1; END"
    kinds (TokenStream.ofSource source).tokens ∈ Grammar.definition ∧
      ∃ items last, Elaborates {} items last ∧ (ofSource source).network = last.network ∧
        (ofSource source).recorder = last.recorder ∧ last.Explains (ofSource source).errors := by
  intro source
  have hproblems : Outline.problems
      (Outline.readSections .start none (TokenStream.ofSource source).tokens).entries = [] := by
    decide +kernel
  have hsentence := Outline.problems_readSections_eq_nil_iff.1 hproblems
  obtain ⟨⟨items, hspelled⟩, hall⟩ := elaboration_exact hsentence
  obtain ⟨⟨last, helaborates⟩, hlast⟩ := hall items hspelled
  exact ⟨hsentence, items, last, helaborates, hlast last helaborates⟩

end Definition

end LogicBench
