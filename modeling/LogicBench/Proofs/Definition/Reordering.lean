import LogicBench.Proofs.Definition.Acceptance
import LogicBench.Proofs.Definition.Connecting
import LogicBench.Proofs.Definition.Handles
import LogicBench.Proofs.Definition.Pieces

/-!
# Reordering the connections of a text

When nothing is wrong with a text, the order of its connections does not matter. The items are
accepted in any other order of the connections as well and build the same devices; the warnings
count wires and do not look at their order, and a simulator looks at the devices only.
-/

namespace LogicBench

open Token (kinds)
open Elaboration (Elaborates)

/-! ## Items apart from their places -/

namespace Extends

variable {network last : Network} {recorder final : Recorder} {items others : List Item}

/-- The places of items do not matter for what is accepted. -/
theorem of_map_unplaced_eq (h : Extends network recorder items last final)
    (hmove : others.map Item.unplaced = items.map Item.unplaced) :
    Extends network recorder others last final := by
  have hreference {first second : Reference}
      (heq : first.move (fun _ => .start) = second.move fun _ => .start) :
      ∃ position, first = { second with position } := by
    obtain ⟨device, pin, position⟩ := first
    obtain ⟨hdevice, hpin, -⟩ := Reference.mk.inj heq
    exact ⟨position, by rw [← hdevice, ← hpin]⟩
  induction h generalizing others with
  | nil =>
      obtain rfl := List.map_eq_nil_iff.1 hmove
      exact .nil
  | connection hconnected _ ih =>
      obtain ⟨item, rest, rfl, hitem, hrest⟩ := List.map_eq_cons_iff.1 hmove
      cases item with
      | connection source destination =>
          obtain ⟨hsource, hdestination⟩ := Item.connection.inj hitem
          obtain ⟨_, rfl⟩ := hreference hsource
          obtain ⟨_, rfl⟩ := hreference hdestination
          obtain ⟨driver, id, pin, hconnect⟩ := Draft.connected_eq_ok_iff.1 hconnected
          exact .connection (Draft.connected_eq_ok_iff.2 ⟨driver, id, pin, hconnect⟩) (ih hrest)
      | device _ => cases hitem
      | signal _ => cases hitem
  | signal hmonitored _ ih =>
      obtain ⟨item, rest, rfl, hitem, hrest⟩ := List.map_eq_cons_iff.1 hmove
      cases item with
      | signal reference =>
          obtain ⟨_, rfl⟩ := hreference (Item.signal.inj hitem)
          obtain ⟨driver, hmonitor⟩ := Draft.monitored_eq_ok_iff.1 hmonitored
          exact .signal (Draft.monitored_eq_ok_iff.2 ⟨driver, hmonitor⟩) (ih hrest)
      | device _ => cases hitem
      | connection _ _ => cases hitem

end Extends

namespace Elaboration

variable {state last : Elaboration} {items : List Item}

theorem Elaborates.extends (h : Elaborates state items last) (hrejected : last.rejected = [])
    (hitems : ∀ item ∈ items, item.inSection ≠ .devices)
    (hunique : (state.network.devices.map Device.name).Nodup) :
    Extends state.network state.recorder items last.network last.recorder ∧
      last.declared = state.declared := by
  induction h with
  | nil => exact ⟨.nil, rfl⟩
  | @accept before after last item items haccepts hrest ih =>
      obtain ⟨hitem, hothers⟩ := List.forall_mem_cons.1 hitems
      obtain ⟨hextends, hdeclared⟩ := ih hrejected hothers (haccepts.unique hunique)
      cases item with
      | device declared => exact absurd rfl hitem
      | connection source destination =>
          have hsame : after = { before with network := after.network } := by
            cases haccepts
            rfl
          rw [hsame] at haccepts
          have hconnected := (accepts_connection_iff hunique).2 haccepts
          rw [hsame] at hextends hdeclared
          exact ⟨.connection hconnected hextends, hdeclared⟩
      | signal reference =>
          have hsame : after = { before with recorder := after.recorder } := by
            cases haccepts
            rfl
          rw [hsame] at haccepts
          have hmonitored := (accepts_signal_iff hunique).2 haccepts
          rw [hsame] at hextends hdeclared
          exact ⟨.signal hmonitored hextends, hdeclared⟩
  | @reject before last item items _ hrest _ =>
      have hmem := hrest.subset.1 (List.mem_append_right _ (List.mem_singleton_self item))
      rw [hrejected] at hmem
      cases hmem

theorem elaborates_of_extends {network other : Network} {recorder final : Recorder}
    (h : Extends network recorder items other final)
    (hunique : (network.devices.map Device.name).Nodup) (state : Elaboration) :
    Elaborates { state with network, recorder } items
      { state with network := other, recorder := final } := by
  induction h with
  | nil => exact .nil
  | @connection network next last recorder final source destination items hconnected _ ih =>
      have hsame := Network.names_of_sockets_eq (Draft.sockets_of_connected hconnected)
      have haccepts := (@accepts_connection_iff { state with network, recorder } hunique
        source destination next).1 hconnected
      exact .accept haccepts (ih (hsame.symm ▸ hunique))
  | @signal network last recorder next final reference items hmonitored _ ih =>
      have haccepts := (@accepts_signal_iff { state with network, recorder } hunique
        reference next).1 hmonitored
      exact .accept haccepts (ih hunique)

/-- Where nothing is rejected, connections can be taken in another order, and items from other
places. -/
theorem Elaborates.exists_reordered {leading inner rest swapped reinner rerest : List Item}
    (h : Elaborates {} (leading ++ (inner ++ rest)) last) (hrejected : last.rejected = [])
    (hinner : ∀ item ∈ inner, item.inSection = .connect)
    (hrest : ∀ item ∈ rest, item.inSection = .monitor) (hperm : inner.Perm swapped)
    (hreinner : reinner.map Item.unplaced = swapped.map Item.unplaced)
    (hrerest : rerest.map Item.unplaced = rest.map Item.unplaced) :
    ∃ other, Elaborates {} (leading ++ (reinner ++ rerest)) other ∧
      last.network.SameButOrder other.network ∧ other.recorder = last.recorder ∧
      other.declared = last.declared ∧ other.rejected = [] := by
  obtain ⟨between, hfirst, hsecond⟩ := append_iff.1 h
  have hunique := hfirst.unique List.nodup_nil
  have hitems : ∀ item ∈ inner ++ rest, item.inSection ≠ .devices := by
    intro item hmem
    rcases List.mem_append.1 hmem with hmem | hmem
    · rw [hinner item hmem]
      decide
    · rw [hrest item hmem]
      decide
  obtain ⟨hextends, hdeclared⟩ := hsecond.extends hrejected hitems hunique
  obtain ⟨middle, kept, hconnected, hmonitored⟩ := Extends.append_iff.1 hextends
  obtain ⟨grown, hgrown, hsame⟩ := Extends.of_perm hperm hinner hunique hconnected
  obtain ⟨final, hfinal, hlast⟩ := hmonitored.of_sameButOrder hsame
  have hall := Extends.append_iff.2
    ⟨grown, kept, hgrown.of_map_unplaced_eq hreinner, hfinal.of_map_unplaced_eq hrerest⟩
  have hnone : between.rejected = [] := List.subset_nil.1 (hrejected ▸ hsecond.subset.1)
  exact ⟨_, append_iff.2 ⟨between, hfirst, elaborates_of_extends hall hunique between⟩, hlast, rfl,
    hdeclared.symm, hnone⟩

end Elaboration

/-! ## Warnings -/

namespace Draft

variable {draft other : Draft} {state : Elaboration}

theorem Renders.checkUnbound_eq_self (h : draft.Renders state)
    (hbound : ∀ id device, state.network.device? id = some device → ¬ device.HasUnbound) :
    draft.checkUnbound = draft := by
  rw [checkUnbound, h.complete, if_neg (by decide)]
  refine List.foldlRecOn (motive := fun now => now = draft) _ _ rfl ?_
  rintro now rfl pair hpair
  apply checkInputs_of_not_isDangling
  intro hdangling
  have hdevice : now.network.device? pair.2 = some pair.1 := List.mem_zipIdx_iff_getElem?.1 hpair
  exact hbound pair.2 pair.1 (h.network ▸ hdevice) ((h.isDangling_iff hdevice).1 hdangling).1

structure Agrees (draft other : Draft) : Prop where
  network : draft.network.SameButOrder other.network
  recorder : draft.recorder = other.recorder
  declaredAt : draft.declaredAt = other.declaredAt
  diagnostics : draft.diagnostics = other.diagnostics

theorem Renders.agrees {again : Elaboration} (h : draft.Renders state)
    (hother : other.Renders again) (hrejected : state.rejected = []) (hnone : again.rejected = [])
    (hsame : state.network.SameButOrder again.network) (hrecorder : again.recorder = state.recorder)
    (hdeclared : again.declared = state.declared) : draft.Agrees other := by
  have hfirst := h.diagnostics
  have hsecond := hother.diagnostics
  rw [hrejected, List.forall₂_nil_left_iff] at hfirst
  rw [hnone, List.forall₂_nil_left_iff] at hsecond
  refine ⟨?_, ?_, ?_, ?_⟩
  · rw [h.network, hother.network]
    exact hsame
  · rw [h.recorder, hother.recorder, hrecorder]
  · rw [h.declaredAt, hother.declaredAt, hdeclared]
  · rw [hfirst, hsecond]

theorem Agrees.report (h : draft.Agrees other) (within : Option Section)
    (diagnostic : Diagnostic) :
    (draft.report within diagnostic).Agrees (other.report within diagnostic) := by
  unfold Draft.report
  rw [h.diagnostics]
  split
  · exact ⟨h.network, h.recorder, h.declaredAt, h.diagnostics⟩
  · exact ⟨h.network, h.recorder, h.declaredAt, rfl⟩

theorem Agrees.checkUse (h : draft.Agrees other) (device : Device) (id : DeviceId) :
    (draft.checkUse device id).Agrees (other.checkUse device id) := by
  have hfanout : draft.network.fanout id = other.network.fanout id := h.network.wires.countP_eq _
  have hplace : draft.declarationOf id = other.declarationOf id := by
    rw [declarationOf, declarationOf, h.declaredAt]
  unfold Draft.checkUse
  rw [hfanout, hplace, h.recorder]
  split
  · exact h.report none _
  · exact h

theorem Agrees.checkUnused (h : draft.Agrees other) :
    draft.checkUnused.Agrees other.checkUnused := by
  unfold Draft.checkUnused
  rw [h.diagnostics, h.network.devices]
  split
  · exact h
  · exact List.foldl_rel h fun pair _ _ _ hagrees => hagrees.checkUse pair.1 pair.2

end Draft

/-! ## Names -/

/-- The handle of a text is settled by the first tokens among which it is. -/
theorem Names.query_lookupTokens_of_prefix {names : Names} {front tokens : List Token}
    {text : String} (hfront : front <+: tokens) (h : ∃ token ∈ front, token.kind = .name text) :
    (names.lookupTokens tokens).query text = (names.lookupTokens front).query text := by
  obtain ⟨behind, rfl⟩ := hfront
  obtain ⟨token, htoken, hkind⟩ := h
  have hmem : text ∈ front.filterMap Token.name? :=
    List.mem_filterMap.2 ⟨token, htoken, by rw [Token.name?, hkind]⟩
  obtain ⟨handle, hquery⟩ := names.exists_query_lookupAll hmem
  rw [lookupTokens, List.filterMap_append, lookupAll_append, lookupTokens, hquery]
  exact query_lookupAll_of_query hquery _

theorem Token.mem_filterMap_name?_iff {tokens : List Token} {text : String} :
    text ∈ tokens.filterMap name? ↔ .name text ∈ kinds tokens := by
  rw [List.mem_filterMap, kinds, List.mem_map]
  apply exists_congr
  rintro ⟨kind, position⟩
  cases kind <;> simp [name?]

theorem Names.perm_texts_lookupTokens {tokens others : List Token}
    (h : ∀ text, TokenKind.name text ∈ kinds others ↔ TokenKind.name text ∈ kinds tokens) :
    (({} : Names).lookupTokens others).texts.Perm (({} : Names).lookupTokens tokens).texts := by
  apply (List.perm_ext_iff_of_nodup (nodup_texts_lookupAll List.nodup_nil _)
    (nodup_texts_lookupAll List.nodup_nil _)).2
  intro text
  rw [mem_texts_lookupAll, mem_texts_lookupAll, Token.mem_filterMap_name?_iff,
    Token.mem_filterMap_name?_iff, h]

theorem Outline.unread_of_sectionsSpelledBy {stop : Position} {last : Option Section}
    {items : List Item} {tokens : List Token} (h : Item.SectionsSpelledBy last items tokens) :
    (readSections stop last tokens).unread = [] := by
  induction h with
  | finish => simp [readSections, readEnd]
  | opening _ hbody _ ih =>
      rw [List.cons_append, readSections]
      simp [prepend, readBody_of_bodySpelledBy hbody, ih]

/-! ## Definitions -/

namespace Definition

variable {source other : String}

/-- The table of a definition that follows the grammar is made of all its tokens. -/
theorem names_of_sectionsSpelledBy {items : List Item}
    (h : Item.SectionsSpelledBy none items (TokenStream.ofSource source).tokens) :
    (ofSource source).names = ({} : Names).lookupTokens (TokenStream.ofSource source).tokens := by
  have htokens : (TokenStream.ofSource source).tokens.isEmpty = false := by
    generalize (TokenStream.ofSource source).tokens = tokens at h
    cases h
    rfl
  have hunread : (Outline.ofTokens (.ofSource source)).unread = [] := by
    rw [Outline.ofTokens, htokens, if_neg (by decide)]
    exact Outline.unread_of_sectionsSpelledBy h
  have hrequested : (Outline.ofTokens (.ofSource source)).requested (.ofSource source) =
      (TokenStream.ofSource source).tokens := by
    rw [Outline.requested, hunread, List.length_nil, Nat.sub_zero, List.take_length]
  exact congrArg ({} : Names).lookupTokens hrequested

/-- Reordering the connections of a definition without errors changes the order of the wires and of
what is new in the table of names. -/
theorem sameButOrder_of_reordered (hvalid : (ofSource source).errors = [])
    (h : Token.Reordered (TokenStream.ofSource source).tokens (TokenStream.ofSource other).tokens) :
    (ofSource other).diagnostics = (ofSource source).diagnostics ∧
      (ofSource source).network.SameButOrder (ofSource other).network ∧
      (ofSource other).recorder = (ofSource source).recorder ∧
      (ofSource other).names.texts.Perm (ofSource source).names.texts ∧
      ∀ device ∈ (ofSource source).network.devices,
        (ofSource other).names.query device.name = (ofSource source).names.query device.name := by
  obtain ⟨items, last, hspelled, helaborates, hnetwork, hrecorder, hrejected, hbound⟩ :=
    exists_elaborates_of_no_errors hvalid
  obtain ⟨front, leading, inner, rest, swapped, reinner, rerest, rfl, ⟨parts, hparts⟩, hfront,
    hrefront, hinner, hrest, hperm, hreinner, hrerest, hothers⟩ := h.exists_items hspelled
  obtain ⟨again, hagain, hsame, hpoints, hdeclared, hnone⟩ :=
    helaborates.exists_reordered hrejected hinner hrest hperm hreinner hrerest
  obtain ⟨draft, hrenders, -, -, hdiagnostics⟩ := exists_renders hspelled helaborates
  obtain ⟨redraft, hredraft, hrenetwork, hrerecorder, hrediagnostics⟩ :=
    exists_renders hothers hagain
  have hagrees := hrenders.agrees hredraft hrejected hnone hsame hpoints hdeclared
  have hrebound : ∀ id device, again.network.device? id = some device → ¬ device.HasUnbound := by
    intro id device hdevice
    rw [hsame.eq_withWires] at hdevice
    exact hbound id device hdevice
  refine ⟨?_, ?_, ?_, ?_, ?_⟩
  · rw [hdiagnostics, hrediagnostics, hrenders.checkUnbound_eq_self hbound,
      hredraft.checkUnbound_eq_self hrebound]
    exact hagrees.checkUnused.diagnostics.symm
  · rw [hnetwork, hrenetwork, hredraft.network]
    exact hsame
  · rw [hrecorder, hrerecorder, hredraft.recorder, hpoints]
  · rw [names_of_sectionsSpelledBy hspelled, names_of_sectionsSpelledBy hothers]
    exact Names.perm_texts_lookupTokens fun text => h.mem_kinds_iff nofun
  · intro device hdevice
    rw [hnetwork] at hdevice
    obtain ⟨declared, hitem, hname⟩ := helaborates.exists_declared_of_mem hdevice
    have hleading : Item.device declared ∈ leading := by
      rcases List.mem_append.1 hitem with hmem | hmem
      · exact hmem
      · rcases List.mem_append.1 hmem with hmem | hmem
        · cases hinner _ hmem
        · cases hrest _ hmem
    have htoken := hparts.exists_name hleading
    rw [hname] at htoken
    rw [names_of_sectionsSpelledBy hspelled, names_of_sectionsSpelledBy hothers,
      Names.query_lookupTokens_of_prefix hfront htoken,
      Names.query_lookupTokens_of_prefix hrefront htoken]

/-- When the connections of a definition without errors are put in another order, it stays without
errors and has the same warnings. The devices, with the drivers of their inputs, and the order of
evaluation are the same; the wires are listed in another order, and the names first used by a
connection may enter the table in another order. A simulator gives back the same results whatever is
done with it, and its devices, its cycle and its traces are the same throughout. -/
theorem connection_order_is_irrelevant {source other : String}
    (hvalid : (ofSource source).hasErrors = false)
    (h : Token.Reordered (TokenStream.ofSource source).tokens (TokenStream.ofSource other).tokens)
    (maxPasses : Nat) (operations : List Operation) :
    let definition := ofSource source
    let reordered := ofSource other
    let simulator (definition : Definition) := Simulator.ofNetwork definition.names
      definition.network definition.recorder maxPasses
    let outcome := (simulator definition).performAll operations
    reordered.hasErrors = false ∧ reordered.warnings = definition.warnings ∧
      reordered.network.devices = definition.network.devices ∧
      reordered.network.evaluationOrder = definition.network.evaluationOrder ∧
      reordered = { definition with
        names := reordered.names
        network := { definition.network with wires := reordered.network.wires } } ∧
      reordered.network.wires.Perm definition.network.wires ∧
      reordered.names.texts.Perm definition.names.texts ∧
      (∀ device ∈ definition.network.devices,
        reordered.names.query device.name = definition.names.query device.name) ∧
      (0 < maxPasses →
        Simulator.ofDefinition definition maxPasses = .ok (simulator definition) ∧
        Simulator.ofDefinition reordered maxPasses = .ok (simulator reordered)) ∧
      (simulator reordered).performAll operations =
        ({ outcome.1 with
            names := reordered.names
            network := { outcome.1.network with wires := reordered.network.wires } },
          outcome.2) := by
  intro definition reordered simulator outcome
  obtain ⟨hdiagnostics, hnetwork, hrecorder, hnames, hhandles⟩ :=
    sameButOrder_of_reordered ((errors_eq_nil_iff _).2 hvalid) h
  have hsame : reordered.network = definition.network.withWires reordered.network.wires :=
    hnetwork.eq_withWires
  have hvalidOther : reordered.hasErrors = false := by
    rw [hasErrors, hdiagnostics]
    exact hvalid
  have hlisting : reordered = { definition with
      names := reordered.names
      network := definition.network.withWires reordered.network.wires } := by
    rw [← hsame, ← hrecorder, ← hdiagnostics]
  have hsimulator : simulator reordered =
      (simulator definition).withListing reordered.names reordered.network.wires := by
    rw [hlisting]
    rfl
  refine ⟨hvalidOther, ?_, hnetwork.devices.symm, ?_, hlisting, hnetwork.wires.symm, hnames,
    hhandles, ?_, ?_⟩
  · rw [warnings, hdiagnostics]
    rfl
  · rw [hsame, Network.evaluationOrder_withWires]
  · intro hpasses
    exact ⟨Simulator.ofDefinition_eq_ok hpasses hvalid,
      Simulator.ofDefinition_eq_ok hpasses hvalidOther⟩
  · rw [hsimulator]
    exact Simulator.performAll_withListing _ _ _ operations

/-- Two inverters in a loop, connected in either order. -/
theorem connection_order_is_irrelevant_loop :
    let source := "DEVICES p:NOT, q:NOT, s:SWITCH 0; CONNECT p > q, q > p; MONITOR p; END"
    let other := "DEVICES p:NOT, q:NOT, s:SWITCH 0; CONNECT q > p, p > q; MONITOR p; END"
    let simulator (definition : Definition) := Simulator.ofNetwork definition.names
      definition.network definition.recorder 5
    let outcome := (simulator (ofSource source)).performAll [.run 2, .addMonitor "q"]
    (ofSource source).hasErrors = false ∧
      Token.Reordered (TokenStream.ofSource source).tokens (TokenStream.ofSource other).tokens ∧
      (ofSource other).hasErrors = false ∧ (ofSource other).warnings = (ofSource source).warnings ∧
      ((simulator (ofSource other)).performAll [.run 2, .addMonitor "q"]).2 = outcome.2 := by
  intro source other simulator outcome
  have hvalid : (ofSource source).hasErrors = false := by
    unfold source
    decide +kernel
  have hreordered :
      Token.Reordered (TokenStream.ofSource source).tokens (TokenStream.ofSource other).tokens := by
    -- The section is opened by the fifteenth token and closed by the eighth one behind it.
    let front := (TokenStream.ofSource source).tokens.take 14
    let listed (text : String) := ((TokenStream.ofSource text).tokens.drop 15).take 7
    let behind (text : String) := (TokenStream.ofSource text).tokens.drop 23
    have hsource : (TokenStream.ofSource source).tokens =
        front ++ ⟨.keyword (.opening .connect), ⟨1, 35, 34⟩⟩ ::
          (listed source ++ ⟨.semicolon, ⟨1, 55, 54⟩⟩ :: behind source) := by
      unfold front listed behind source
      decide +kernel
    have hother : (TokenStream.ofSource other).tokens =
        front ++ ⟨.keyword (.opening .connect), ⟨1, 35, 34⟩⟩ ::
          (listed other ++ ⟨.semicolon, ⟨1, 55, 54⟩⟩ :: behind other) := by
      unfold front listed behind source other
      decide +kernel
    have hlisted : kinds (listed source) = [.name "p", .arrow, .name "q", .comma, .name "q", .arrow,
        .name "p"] := by
      unfold listed source
      decide +kernel
    have hrelisted : kinds (listed other) = [.name "q", .arrow, .name "p", .comma, .name "p",
        .arrow, .name "q"] := by
      unfold listed other
      decide +kernel
    have hbehind : kinds (behind other) = kinds (behind source) := by
      unfold behind source other
      decide +kernel
    rw [hsource, hother]
    apply Token.Reordered.connections _ _ hbehind
    · rw [hlisted]
      decide
    · rw [hlisted, hrelisted]
      exact .swap _ _ _
  obtain ⟨hother, hwarnings, -, -, -, -, -, -, -, houtcome⟩ :=
    connection_order_is_irrelevant hvalid hreordered 5 [.run 2, .addMonitor "q"]
  have hresults := congrArg Prod.snd houtcome
  exact ⟨hvalid, hreordered, hother, hwarnings, hresults⟩

end Definition

end LogicBench
