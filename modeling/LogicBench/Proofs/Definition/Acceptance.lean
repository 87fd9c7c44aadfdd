import LogicBench.Proofs.Definition.Diagnosis
import LogicBench.Proofs.Definition.Exactness

/-!
# Soundness of acceptance

A definition without errors describes a network that can be simulated: it has a device, every input
has a driver that exists, devices are told apart by their names, and what is monitored exists.
-/

namespace LogicBench

open Token (kinds)
open Elaboration (Elaborates)

namespace Elaboration

variable {before after state last : Elaboration} {item : Item} {items : List Item}

theorem Accepts.kept (h : before.Accepts item after) {device : Device}
    (hdevice : device ∈ before.network.devices) :
    ∃ same ∈ after.network.devices, same.name = device.name ∧ same.outputs = device.outputs := by
  cases h with
  | device _ _ _ => exact ⟨device, List.mem_append_left _ hdevice, rfl, rfl⟩
  | @connection source destination driver id pin driven _ _ hdriven _ =>
      obtain ⟨place, hplace⟩ := List.getElem?_of_mem hdevice
      have hset := Network.device?_set { driven with inputs := driven.inputs.set pin (some driver) }
        hdriven place
      by_cases hsame : place = id
      · rw [if_pos hsame] at hset
        rw [hsame] at hplace
        cases hplace.symm.trans hdriven
        exact ⟨_, List.mem_of_getElem? hset, rfl, rfl⟩
      · rw [if_neg hsame, hplace] at hset
        exact ⟨device, List.mem_of_getElem? hset, rfl, rfl⟩
  | signal _ _ _ => exact ⟨device, hdevice, rfl, rfl⟩

structure Monitored (state : Elaboration) : Prop where
  nodup : state.recorder.points.Nodup
  room : state.recorder.points.length ≤ 16
  outputs : ∀ name ∈ state.recorder.points,
    ∃ device ∈ state.network.devices, device.name = name.device ∧ device.hasOutput name.pin

theorem Accepts.outputs (h : before.Accepts item after) {name : SignalName}
    (houtput : ∃ device ∈ before.network.devices,
      device.name = name.device ∧ device.hasOutput name.pin) :
    ∃ device ∈ after.network.devices, device.name = name.device ∧ device.hasOutput name.pin := by
  obtain ⟨device, hdevice, hname, hpin⟩ := houtput
  obtain ⟨same, hsame, hsameName, hsameOutputs⟩ := h.kept hdevice
  refine ⟨same, hsame, hsameName.trans hname, ?_⟩
  rw [Device.hasOutput, hsameOutputs]
  exact hpin

theorem Monitored.accept (h : before.Monitored) (haccepts : before.Accepts item after) :
    after.Monitored := by
  have hkept := fun name hname => haccepts.outputs (h.outputs name hname)
  cases haccepts with
  | device _ _ _ => exact ⟨h.nodup, h.room, hkept⟩
  | connection _ _ _ _ => exact ⟨h.nodup, h.room, hkept⟩
  | @signal reference driver hnames hnew hroom =>
      have hpoints : Recorder.points { before.recorder with
          entries := before.recorder.entries ++
            [(⟨reference.device, driver.pin⟩, { startCycle := before.network.cycle })] } =
          before.recorder.points ++ [⟨reference.device, driver.pin⟩] := by
        simp [Recorder.points]
      refine ⟨?_, ?_, ?_⟩
      · rw [hpoints]
        exact List.nodup_append.2 ⟨h.nodup, List.nodup_singleton _, by
          rintro name hname _ hsame rfl
          rw [List.mem_singleton.1 hsame] at hname
          exact hnew hname⟩
      · rw [hpoints, List.length_append, List.length_singleton]
        exact hroom
      · intro name hname
        rw [hpoints] at hname
        rcases List.mem_append.1 hname with hold | hadded
        · exact h.outputs name hold
        · obtain rfl := List.mem_singleton.1 hadded
          obtain ⟨device, hdevice, hpin⟩ := hnames.hasOutput
          obtain ⟨same, hsame, hname, -⟩ := hnames
          cases hdevice.symm.trans hsame
          exact ⟨device, List.mem_of_getElem? hdevice, hname, hpin⟩

theorem Elaborates.monitored (h : Elaborates state items last) (hstate : state.Monitored) :
    last.Monitored := by
  induction h with
  | nil => exact hstate
  | accept haccepts _ ih => exact ih (hstate.accept haccepts)
  | reject _ _ ih => exact ih ⟨hstate.nodup, hstate.room, hstate.outputs⟩

theorem Accepts.declared_subset (h : before.Accepts item after) :
    before.declared ⊆ after.declared := by
  cases h with
  | device _ _ _ => exact List.subset_append_left _ _
  | connection _ _ _ _ => exact List.Subset.refl _
  | signal _ _ _ => exact List.Subset.refl _

theorem Elaborates.subset (h : Elaborates state items last) :
    state.rejected ⊆ last.rejected ∧ state.declared ⊆ last.declared := by
  induction h with
  | nil => exact ⟨List.Subset.refl _, List.Subset.refl _⟩
  | accept haccepts _ ih =>
      rw [haccepts.rejected] at ih
      exact ⟨ih.1, List.Subset.trans haccepts.declared_subset ih.2⟩
  | reject _ _ ih => exact ⟨List.Subset.trans (List.subset_append_left _ _) ih.1, ih.2⟩

theorem Elaborates.mem_declared (h : Elaborates state items last) {declared : DeviceDeclaration}
    (hmem : .device declared ∈ items) (hkept : .device declared ∉ last.rejected) :
    declared ∈ last.declared := by
  induction h with
  | nil => cases hmem
  | accept haccepts hrest ih =>
      rcases List.mem_cons.1 hmem with rfl | hlater
      · cases haccepts
        exact hrest.subset.2 (List.mem_append_right _ (List.mem_singleton_self _))
      · exact ih hlater hkept
  | reject _ hrest ih =>
      rcases List.mem_cons.1 hmem with rfl | hlater
      · exact absurd (hrest.subset.1 (List.mem_append_right _ (List.mem_singleton_self _))) hkept
      · exact ih hlater hkept

theorem Elaborates.devices_ne_nil (h : Elaborates {} items last) {declared : DeviceDeclaration}
    (hmem : .device declared ∈ items) (hrejected : last.rejected = []) :
    last.network.devices ≠ [] := by
  have hdeclared := h.mem_declared hmem (by simp [hrejected])
  have hnames := h.names rfl
  intro hnil
  rw [hnil, List.map_nil, List.map_eq_nil_iff] at hnames
  rw [hnames] at hdeclared
  cases hdeclared

theorem Elaborates.exists_declared_of_mem (h : Elaborates {} items last) {device : Device}
    (hdevice : device ∈ last.network.devices) :
    ∃ declared, Item.device declared ∈ items ∧ declared.name = device.name := by
  have hname : device.name ∈ last.declared.map (·.name) := by
    rw [h.names rfl]
    exact List.mem_map_of_mem hdevice
  obtain ⟨declared, hdeclared, hsame⟩ := List.mem_map.1 hname
  have hused := h.subperm.subset (List.mem_append_right _ (List.mem_map_of_mem hdeclared))
  exact ⟨declared, by simpa using hused, hsame⟩

theorem Elaborates.isIdentifier (h : Elaborates {} items last)
    (hitems : ∀ item ∈ items, item.WellFormed) {device : Device}
    (hdevice : device ∈ last.network.devices) : IsIdentifier device.name := by
  obtain ⟨declared, hitem, hname⟩ := h.exists_declared_of_mem hdevice
  rw [← hname]
  exact (hitems _ hitem).1

end Elaboration

namespace Definition

variable {source : String}

/-- The tokens of a definition without errors are a sentence: there is one and none is diagnosed. -/
theorem sentence_of_no_errors (h : (ofSource source).errors = []) :
    kinds (TokenStream.ofSource source).tokens ∈ Grammar.definition := by
  have hnone : ∀ diagnostic ∈ (ofSource source).diagnostics, ¬ diagnostic.isError := by
    simpa [errors] using h
  have htokens : (TokenStream.ofSource source).tokens ≠ [] := by
    intro hempty
    have hrefused : (ofSource source).diagnostics =
        [⟨.semantic, (TokenStream.ofSource source).stop, "definition is empty"⟩] := by
      show (Draft.ofTokens (TokenStream.ofSource source)).diagnostics = _
      rw [Draft.ofTokens, hempty]
      rfl
    rw [hrefused] at hnone
    exact hnone _ List.mem_cons_self rfl
  rcases find?_isSyntactic_cases htokens with ⟨hsentence, -⟩ | ⟨diagnostic, hfound, -⟩
  · exact hsentence
  · have hsyntactic := List.find?_some hfound
    have herror : diagnostic.isError := by
      obtain ⟨category, position, message⟩ := diagnostic
      cases category with
      | syntactic => rfl
      | semantic => cases hsyntactic
      | warning => cases hsyntactic
    exact absurd herror (hnone diagnostic (List.mem_of_find?_eq_some hfound))

theorem exists_elaborates_of_no_errors (h : (ofSource source).errors = []) :
    ∃ items last, Item.SectionsSpelledBy none items (TokenStream.ofSource source).tokens ∧
      Elaborates {} items last ∧ (ofSource source).network = last.network ∧
      (ofSource source).recorder = last.recorder ∧ last.rejected = [] ∧
      ∀ id device, last.network.device? id = some device → ¬ device.HasUnbound := by
  have hproblems : Outline.problems
      (Outline.readSections .start none (TokenStream.ofSource source).tokens).entries = [] :=
    Outline.problems_readSections_eq_nil_iff.2 (sentence_of_no_errors h)
  have hspelled := Outline.sectionsSpelledBy_of_readSections hproblems
  obtain ⟨last, helaborates⟩ := Elaboration.exists_elaborates {} (Outline.items
    (Outline.readSections .start none (TokenStream.ofSource source).tokens).entries)
  obtain ⟨hnetwork, hrecorder, hexplains⟩ := elaborates_ofSource hspelled helaborates
  obtain ⟨refusals, unbound, ids, herrors, hrefusals, -, hdangles, hreports⟩ := hexplains
  rw [h] at herrors
  obtain ⟨rfl, rfl⟩ := List.append_eq_nil_iff.1 herrors.symm
  have hrejected : last.rejected = [] := List.forall₂_nil_right_iff.1 hrefusals
  have hids : ids = [] := List.forall₂_nil_right_iff.1 hreports
  refine ⟨_, last, hspelled, helaborates, hnetwork, hrecorder, hrejected, ?_⟩
  intro id device hdevice hunbound
  have himplicates : ¬ last.Implicates device.name := by
    intro ⟨source, destination, hmem, _⟩
    rw [hrejected] at hmem
    cases hmem
  have hmem := (hdangles id).2 ⟨device, hdevice, hunbound, himplicates⟩
  rw [hids] at hmem
  cases hmem

theorem driven_of_not_hasUnbound {network : Network} (h : network.WellWired) {id : DeviceId}
    {device : Device} (hdevice : network.device? id = some device) (hbound : ¬ device.HasUnbound)
    {pin : InputPin} (hpin : device.hasInput pin) :
    ∃ driver, device.driver? pin = some driver ∧ network.HasOutput driver := by
  cases hdriver : device.driver? pin with
  | none => exact absurd ⟨pin, hpin, hdriver⟩ hbound
  | some driver => exact ⟨driver, rfl, h.drivers hdevice hdriver⟩

theorem isComplete_of_not_hasUnbound {network : Network} (h : network.WellWired)
    (hsome : network.devices ≠ [])
    (hbound : ∀ id device, network.device? id = some device → ¬ device.HasUnbound) :
    network.isComplete :=
  h.toWired.isComplete_iff.2 ⟨hsome, hbound⟩

/-- A definition without errors describes a network that can be simulated. -/
theorem acceptance_sound (h : (ofSource source).hasErrors = false) :
    let network := (ofSource source).network
    let points := (ofSource source).recorder.points
    network.devices ≠ [] ∧
      network.isComplete = true ∧
      (∀ id device pin, network.device? id = some device → device.hasInput pin →
        ∃ driver, device.driver? pin = some driver ∧ network.HasOutput driver) ∧
      (network.devices.map Device.name).Nodup ∧
      (∀ device ∈ network.devices, IsIdentifier device.name) ∧
      points.length ≤ 16 ∧ points.Nodup ∧
      ∀ name ∈ points, ∃ device ∈ network.devices,
        device.name = name.device ∧ device.hasOutput name.pin := by
  intro network points
  have herrors : (ofSource source).errors = [] := by
    by_contra hne
    rw [(hasErrors_iff_errors_ne_nil _).2 hne] at h
    cases h
  obtain ⟨items, last, hspelled, helaborates, hnetwork, hrecorder, hrejected, hbound⟩ :=
    exists_elaborates_of_no_errors herrors
  have hpoints : points = last.recorder.points := congrArg Recorder.points hrecorder
  have hwired : network.WellWired := (built_ofSource source).wellWired
  have hmonitored : last.Monitored :=
    helaborates.monitored ⟨.nil, Nat.zero_le 16, fun _ hname => by cases hname⟩
  obtain ⟨declared, hdeclared⟩ := Item.exists_device_of_sectionsSpelledBy hspelled
  have hsome := helaborates.devices_ne_nil hdeclared hrejected
  rw [show network = last.network from hnetwork] at hwired ⊢
  rw [hpoints]
  refine ⟨hsome, isComplete_of_not_hasUnbound hwired hsome hbound, ?_, hwired.names, ?_,
    hmonitored.room, hmonitored.nodup, hmonitored.outputs⟩
  · intro id device pin hdevice hpin
    exact driven_of_not_hasUnbound hwired hdevice (hbound id device hdevice) hpin
  · intro device hdevice
    exact helaborates.isIdentifier (Item.wellFormed_of_sectionsSpelledBy hspelled) hdevice

theorem acceptance_sound_inverter :
    let definition := ofSource "DEVICES s:SWITCH 1, n:NOT; CONNECT s > n; MONITOR n; END"
    definition.hasErrors = false ∧ definition.network.isComplete = true := by
  intro definition
  have h : definition.hasErrors = false := by decide +kernel
  exact ⟨h, (acceptance_sound h).2.1⟩

end Definition

end LogicBench
