import LogicBench.Proofs.Definition.Elaboration
import Mathlib.Data.List.Forall2

/-!
# Drafts elaborate items

A draft to which items are applied keeps step with their elaboration: what is accepted is added,
what is not leaves one diagnostic within the item. No diagnostic is dropped, since different items
are at different places.
-/

namespace LogicBench

def Item.Reports (item : Item) (diagnostic : Diagnostic) : Prop :=
  diagnostic.category = .semantic ∧ diagnostic.position ∈ item.positions

namespace Draft

structure Renders (draft : Draft) (state : Elaboration) : Prop where
  built : draft.network.Built
  network : draft.network = state.network
  recorder : draft.recorder = state.recorder
  declaredAt : draft.declaredAt = state.declared.map (·.position)
  diagnostics : List.Forall₂ Item.Reports state.rejected draft.diagnostics
  implicated : ∀ id, id ∈ draft.implicated ↔
    ∃ device, draft.network.device? id = some device ∧ state.Implicates device.name
  complete : draft.connectIncomplete = false

theorem report_of_fresh {draft : Draft} {diagnostic : Diagnostic}
    (hmeaning : diagnostic.isSyntactic = false)
    (h : ∀ previous ∈ draft.diagnostics, previous.position ≠ diagnostic.position)
    (within : Option Section) :
    draft.report within diagnostic =
      { draft with diagnostics := draft.diagnostics ++ [diagnostic] } := by
  have hnot : draft.diagnostics.getLast?.any diagnostic.follows = false := by
    cases hlast : draft.diagnostics.getLast? with
    | none => rfl
    | some previous =>
        have hne := h previous (List.mem_of_getLast? hlast)
        simp [Diagnostic.follows, hne]
  simp [report, hnot, hmeaning]

theorem refuse_of_fresh {draft : Draft} {position : Position}
    (h : ∀ previous ∈ draft.diagnostics, previous.position ≠ position) (message : String) :
    draft.refuse position message =
      { draft with diagnostics := draft.diagnostics ++ [⟨.semantic, position, message⟩] } :=
  report_of_fresh rfl h none

theorem Renders.names {draft : Draft} {state : Elaboration} (h : draft.Renders state) :
    (state.network.devices.map Device.name).Nodup := by
  rw [← h.network]
  exact h.built.wellWired.names

/-- The draft in which a rejected item is reported. -/
def beforeRefusal (draft : Draft) : Item → Draft
  | .connection _ destination => draft.implicate destination.device
  | _ => draft

inductive Takes (draft : Draft) : Item → Draft → Prop
  | device {declared : DeviceDeclaration} {type : DeviceType} {kind : DeviceKind}
      {network : Network} {id : DeviceId} (htype : declared.kind = .known type)
      (hkind : DeviceKind.ofDeclaration type (declared.qualifier.map (·.digits)) = .ok kind)
      (hadd : draft.network.addDevice declared.name kind = .ok (network, id)) :
      Takes draft (.device declared)
        ({ draft with network, declaredAt := draft.declaredAt ++ [declared.position] }.note
          (.declared declared.name type))
  | connection {source destination : Reference} {network : Network}
      (hconnected : connected draft.network source destination = .ok network) :
      Takes draft (.connection source destination) { draft with network }
  | signal {reference : Reference} {recorder : Recorder}
      (hmonitored : monitored draft.network draft.recorder reference = .ok recorder) :
      Takes draft (.signal reference) { draft with recorder }

theorem applyItem_cases (draft : Draft) (item : Item) :
    draft.Takes item (draft.applyItem item) ∨ ∃ position ∈ item.positions, ∃ message,
      draft.applyItem item = (draft.beforeRefusal item).refuse position message := by
  cases item with
  | device declared =>
      simp only [applyItem, declare]
      split
      · exact .inr ⟨_, by simp [Item.positions], _, rfl⟩
      · next type htype =>
        split
        · refine .inr ⟨_, ?_, _, rfl⟩
          cases hqualifier : declared.qualifier <;> simp [Item.positions, hqualifier]
        · next kind hkind =>
          split
          · exact .inr ⟨_, by simp [Item.positions], _, rfl⟩
          · next network id hadd => exact .inl (.device htype hkind hadd)
  | connection source destination =>
      simp only [applyItem, connect]
      split
      · next network hconnected => exact .inl (.connection hconnected)
      · next reference cause hconnected =>
        refine .inr ⟨_, ?_, _, rfl⟩
        rcases reference_of_connected hconnected with rfl | rfl <;> simp [Item.positions]
  | signal reference =>
      simp only [applyItem, monitor]
      split
      · next recorder hmonitored => exact .inl (.signal hmonitored)
      · exact .inr ⟨_, by simp [Item.positions], _, rfl⟩

theorem applyItem_of_not_accepts {draft : Draft} {state : Elaboration} (h : draft.Renders state)
    {item : Item} (hitem : item.WellFormed) (hreject : ∀ after, ¬ state.Accepts item after) :
    ∃ position ∈ item.positions, ∃ message,
      draft.applyItem item = (draft.beforeRefusal item).refuse position message := by
  refine (draft.applyItem_cases item).resolve_left fun htakes => ?_
  generalize draft.applyItem item = next at htakes
  cases htakes with
  | device htype hkind hadd =>
      rw [h.network] at hadd
      exact hreject _ ((Elaboration.accepts_device_iff hitem).1 ⟨_, _, _, htype, hkind, hadd⟩)
  | connection hconnected =>
      rw [h.network] at hconnected
      exact hreject _ ((Elaboration.accepts_connection_iff h.names).1 hconnected)
  | signal hmonitored =>
      rw [h.network, h.recorder] at hmonitored
      exact hreject _ ((Elaboration.accepts_signal_iff h.names).1 hmonitored)

theorem exists_of_forall₂ {α β : Type} {R : α → β → Prop} {as : List α} {bs : List β}
    (h : List.Forall₂ R as bs) {b : β} (hb : b ∈ bs) : ∃ a ∈ as, R a b := by
  induction h with
  | nil => cases hb
  | cons hfirst _ ih =>
      rcases List.mem_cons.1 hb with rfl | hrest
      · exact ⟨_, List.mem_cons_self, hfirst⟩
      · obtain ⟨a, ha, hR⟩ := ih hrest
        exact ⟨a, List.mem_cons_of_mem _ ha, hR⟩

theorem Renders.acceptDevice {draft : Draft} {state : Elaboration} (h : draft.Renders state)
    {declared : DeviceDeclaration} (hitem : (Item.device declared).WellFormed) {next : Network}
    (haccepts : state.Accepts (.device declared)
      { state with network := next, declared := state.declared ++ [declared] })
    (horder : ∀ rejected ∈ state.rejected, rejected.Precedes (.device declared)) :
    (draft.declare declared).Renders
      { state with network := next, declared := state.declared ++ [declared] } := by
  have hbuilt : (draft.apply (.item (.device declared))).network.Built := built_apply h.built _
  obtain ⟨type, kind, id, htype, hkind, hadd⟩ := (Elaboration.accepts_device_iff hitem).2 haccepts
  rw [← h.network] at hadd
  have hdraft : draft.declare declared =
      { draft with network := next, declaredAt := draft.declaredAt ++ [declared.position] }.note
        (.declared declared.name type) := by
    simp only [declare, htype, hkind, hadd]
  -- No connection has come yet, so none is rejected.
  have hnone (name : String) : ¬ state.Implicates name := by
    rintro ⟨source, destination, hmem, -⟩
    have hrank : Section.connect.rank ≤ Section.devices.rank := (horder _ hmem).2
    exact absurd hrank (by decide)
  change (draft.declare declared).network.Built at hbuilt
  rw [hdraft] at hbuilt ⊢
  refine ⟨hbuilt, rfl, h.recorder, ?_, h.diagnostics, ?_, h.complete⟩
  · show draft.declaredAt ++ [declared.position] = _
    rw [h.declaredAt, List.map_append]
    rfl
  · intro id
    constructor
    · intro hid
      obtain ⟨device, -, himplicated⟩ := (h.implicated id).1 hid
      exact absurd himplicated (hnone _)
    · intro ⟨device, _, himplicated⟩
      exact absurd himplicated (hnone _)

theorem Renders.acceptConnection {draft : Draft} {state : Elaboration} (h : draft.Renders state)
    {source destination : Reference} {next : Network}
    (haccepts : state.Accepts (.connection source destination) { state with network := next }) :
    (draft.connect source destination).Renders { state with network := next } := by
  have hbuilt : (draft.apply (.item (.connection source destination))).network.Built :=
    built_apply h.built _
  have hconnected := (Elaboration.accepts_connection_iff h.names).2 haccepts
  rw [← h.network] at hconnected
  have hdraft : draft.connect source destination = { draft with network := next } := by
    simp only [connect, hconnected]
  obtain ⟨driver, id, pin, -, -, hconnect⟩ := connected_eq_ok_iff.1 hconnected
  change (draft.connect source destination).network.Built at hbuilt
  rw [hdraft] at hbuilt ⊢
  refine ⟨hbuilt, rfl, h.recorder, h.declaredAt, h.diagnostics, ?_, h.complete⟩
  intro other
  -- Only names matter, and a connection leaves them as they are.
  have hnamed (network : Network) :
      (∃ device, network.device? other = some device ∧ state.Implicates device.name) ↔
        ∃ name, (network.device? other).map Device.name = some name ∧ state.Implicates name := by
    simp [Option.map_eq_some_iff]
  rw [h.implicated]
  show _ ↔ ∃ device, next.device? other = some device ∧ state.Implicates device.name
  rw [hnamed, hnamed, Network.name_device?_of_connect hconnect]

theorem Renders.acceptSignal {draft : Draft} {state : Elaboration} (h : draft.Renders state)
    {reference : Reference} {next : Recorder}
    (haccepts : state.Accepts (.signal reference) { state with recorder := next }) :
    (draft.monitor reference).Renders { state with recorder := next } := by
  have hmonitored := (Elaboration.accepts_signal_iff h.names).2 haccepts
  rw [← h.network, ← h.recorder] at hmonitored
  have hdraft : draft.monitor reference = { draft with recorder := next } := by
    simp only [monitor, hmonitored]
  rw [hdraft]
  exact ⟨h.built, h.network, rfl, h.declaredAt, h.diagnostics, h.implicated, h.complete⟩

theorem Renders.accept {draft : Draft} {state after : Elaboration} (h : draft.Renders state)
    {item : Item} (hitem : item.WellFormed) (haccepts : state.Accepts item after)
    (horder : ∀ rejected ∈ state.rejected, rejected.Precedes item) :
    (draft.applyItem item).Renders after := by
  have hagain := haccepts
  cases haccepts with
  | device => exact h.acceptDevice hitem hagain horder
  | connection => exact h.acceptConnection hagain
  | signal => exact h.acceptSignal hagain

theorem Renders.implicated_beforeRefusal {draft : Draft} {state : Elaboration}
    (h : draft.Renders state) (item : Item) (id : DeviceId) :
    id ∈ (draft.beforeRefusal item).implicated ↔
      ∃ device, draft.network.device? id = some device ∧
        ({ state with rejected := state.rejected ++ [item] } : Elaboration).Implicates
          device.name := by
  cases item with
  | connection source destination =>
      show id ∈ draft.implicated ++ (draft.network.deviceId? destination.device).toList ↔ _
      rw [List.mem_append, Option.mem_toList, h.implicated,
        Network.deviceId?_eq_some_iff h.built.wellWired.names]
      simp only [Elaboration.implicates_reject, Item.connection.injEq]
      constructor
      · rintro (⟨device, hdevice, himplicated⟩ | ⟨device, hdevice, hname⟩)
        · exact ⟨device, hdevice, .inl himplicated⟩
        · exact ⟨device, hdevice, .inr ⟨source, destination, ⟨rfl, rfl⟩, hname.symm⟩⟩
      · rintro ⟨device, hdevice, himplicated | ⟨_, _, ⟨rfl, rfl⟩, hname⟩⟩
        · exact .inl ⟨device, hdevice, himplicated⟩
        · exact .inr ⟨device, hdevice, hname.symm⟩
  | device declared =>
      simp only [Elaboration.implicates_reject, reduceCtorEq, false_and, exists_false, or_false]
      exact h.implicated id
  | signal reference =>
      simp only [Elaboration.implicates_reject, reduceCtorEq, false_and, exists_false, or_false]
      exact h.implicated id

theorem Renders.reject {draft : Draft} {state : Elaboration} (h : draft.Renders state)
    {item : Item} (hitem : item.WellFormed) (hreject : ∀ after, ¬ state.Accepts item after)
    (horder : ∀ rejected ∈ state.rejected, rejected.Precedes item) :
    (draft.applyItem item).Renders { state with rejected := state.rejected ++ [item] } := by
  obtain ⟨position, hposition, message, heq⟩ := applyItem_of_not_accepts h hitem hreject
  have hbefore : (draft.beforeRefusal item).diagnostics = draft.diagnostics := by
    cases item <;> rfl
  have hfresh : ∀ previous ∈ (draft.beforeRefusal item).diagnostics,
      previous.position ≠ position := by
    intro previous hprevious hsame
    rw [hbefore] at hprevious
    obtain ⟨rejected, hrejected, -, hplace⟩ := exists_of_forall₂ h.diagnostics hprevious
    rw [hsame] at hplace
    exact (horder rejected hrejected).1 hplace hposition
  have hreport : Item.Reports item ⟨.semantic, position, message⟩ := ⟨rfl, hposition⟩
  rw [heq, refuse_of_fresh hfresh]
  refine ⟨?_, ?_, ?_, ?_, ?_, ?_, ?_⟩
  · cases item <;> exact h.built
  · cases item <;> exact h.network
  · cases item <;> exact h.recorder
  · cases item <;> exact h.declaredAt
  · rw [hbefore]
    exact List.rel_append h.diagnostics (.cons hreport .nil)
  · intro id
    have hnetwork : (draft.beforeRefusal item).network = draft.network := by
      cases item <;> rfl
    show id ∈ (draft.beforeRefusal item).implicated ↔ ∃ device,
      (draft.beforeRefusal item).network.device? id = some device ∧ _
    rw [hnetwork]
    exact h.implicated_beforeRefusal item id
  · cases item <;> exact h.complete

theorem renders_empty : ({} : Draft).Renders {} := by
  refine ⟨.empty, rfl, rfl, rfl, .nil, ?_, rfl⟩
  simp [Elaboration.Implicates]

/-- Entries without a problem among them keep a draft in step with the elaboration of the items. -/
theorem Renders.foldl_apply {entries : List Entry} {draft : Draft} {state last : Elaboration}
    (h : draft.Renders state) (hproblems : Outline.problems entries = [])
    (hitems : ∀ item ∈ Outline.items entries, item.WellFormed)
    (horder : (state.rejected ++ Outline.items entries).Pairwise Item.Precedes)
    (helaborates : Elaboration.Elaborates state (Outline.items entries) last) :
    (entries.foldl apply draft).Renders last := by
  induction entries generalizing draft state with
  | nil =>
      cases helaborates
      exact h
  | cons entry rest ih =>
      rw [List.foldl_cons]
      cases entry with
      | opening opened =>
          have hnoted : (draft.apply (.opening opened)).Renders state :=
            ⟨h.built, h.network, h.recorder, h.declaredAt, h.diagnostics, h.implicated, h.complete⟩
          exact ih hnoted hproblems hitems horder helaborates
      | problem within diagnostic => cases hproblems
      | item item =>
          rw [Outline.items_cons_item] at hitems horder helaborates
          have hitem := hitems item List.mem_cons_self
          have hrest (other : Item) (hother : other ∈ Outline.items rest) : other.WellFormed :=
            hitems other (List.mem_cons_of_mem item hother)
          have hbefore (rejected : Item) (hmem : rejected ∈ state.rejected) :
              rejected.Precedes item :=
            (List.pairwise_append.1 horder).2.2 rejected hmem item List.mem_cons_self
          cases helaborates with
          | accept haccepts hlast =>
              have hkept := haccepts.rejected
              have hbehind : (state.rejected ++ Outline.items rest).Pairwise Item.Precedes :=
                horder.sublist (List.Sublist.append_left (List.sublist_cons_self _ _) _)
              rw [← hkept] at hbehind
              exact ih (h.accept hitem haccepts hbefore) hproblems hrest hbehind hlast
          | reject hreject hlast =>
              have hbehind : (state.rejected ++ [item] ++ Outline.items rest).Pairwise
                  Item.Precedes := by
                rw [List.append_assoc]
                exact horder
              exact ih (h.reject hitem hreject hbefore) hproblems hrest hbehind hlast

end Draft

end LogicBench
