import LogicBench.Proofs.Definition.Meaning
import Mathlib.Data.List.Perm.Subperm

/-!
# Elaboration

What is built from items taken one after another: when an item is accepted, what it then adds, and
that one that is not accepted adds nothing.
-/

namespace LogicBench

structure Elaboration where
  network : Network := {}
  recorder : Recorder := {}
  declared : List DeviceDeclaration := []
  rejected : List Item := []

namespace Elaboration

inductive Accepts (before : Elaboration) : Item → Elaboration → Prop
  | device {declared : DeviceDeclaration} {type : DeviceType} {kind : DeviceKind}
      (hkind : declared.kind = .known type)
      (hqualifier : kind.DescribedBy type (declared.qualifier.map (·.digits)))
      (hnew : declared.name ∉ before.network.devices.map Device.name) :
      Accepts before (.device declared)
        { before with
          network := { before.network with
            devices := before.network.devices ++ [.ofKind declared.name kind] }
          declared := before.declared ++ [declared] }
  | connection {source destination : Reference} {driver : Driver} {id : DeviceId} {pin : InputPin}
      {device : Device} (hsource : source.NamesOutput before.network driver)
      (hdestination : destination.NamesInput before.network id pin)
      (hdevice : before.network.device? id = some device) (hunbound : device.driver? pin = none) :
      Accepts before (.connection source destination)
        { before with
          network := { before.network with
            devices := before.network.devices.set id
              { device with inputs := device.inputs.set pin (some driver) }
            wires := before.network.wires ++ [⟨driver, id, pin⟩] } }
  | signal {reference : Reference} {driver : Driver}
      (hnames : reference.NamesOutput before.network driver)
      (hnew : ⟨reference.device, driver.pin⟩ ∉ before.recorder.points)
      (hroom : before.recorder.points.length < 16) :
      Accepts before (.signal reference)
        { before with
          recorder := { before.recorder with
            entries := before.recorder.entries ++
              [(⟨reference.device, driver.pin⟩, { startCycle := before.network.cycle })] } }

/-- Whether items taken in order lead from one state to another. A rejected item adds nothing. -/
inductive Elaborates : Elaboration → List Item → Elaboration → Prop
  | nil {state : Elaboration} : Elaborates state [] state
  | accept {before after last : Elaboration} {item : Item} {items : List Item}
      (h : before.Accepts item after) (hrest : Elaborates after items last) :
      Elaborates before (item :: items) last
  | reject {before last : Elaboration} {item : Item} {items : List Item}
      (h : ∀ after, ¬ before.Accepts item after)
      (hrest : Elaborates { before with rejected := before.rejected ++ [item] } items last) :
      Elaborates before (item :: items) last

theorem exists_elaborates (before : Elaboration) (items : List Item) :
    ∃ last, Elaborates before items last := by
  induction items generalizing before with
  | nil => exact ⟨before, .nil⟩
  | cons item rest ih =>
      by_cases haccepts : ∃ after, before.Accepts item after
      · obtain ⟨after, hafter⟩ := haccepts
        obtain ⟨last, hlast⟩ := ih after
        exact ⟨last, .accept hafter hlast⟩
      · obtain ⟨last, hlast⟩ := ih { before with rejected := before.rejected ++ [item] }
        exact ⟨last, .reject (not_exists.1 haccepts) hlast⟩

/-- Whether a connection to a device of this name has been rejected. -/
def Implicates (state : Elaboration) (name : String) : Prop :=
  ∃ source destination : Reference,
    .connection source destination ∈ state.rejected ∧ destination.device = name

theorem implicates_reject {state : Elaboration} {item : Item} {name : String} :
    ({ state with rejected := state.rejected ++ [item] } : Elaboration).Implicates name ↔
      state.Implicates name ∨
        ∃ source destination,
          item = .connection source destination ∧ destination.device = name := by
  simp only [Implicates, List.mem_append, List.mem_singleton, or_and_right, exists_or,
    eq_comm (b := item)]

theorem Accepts.rejected {before after : Elaboration} {item : Item}
    (h : before.Accepts item after) : after.rejected = before.rejected := by
  cases h <;> rfl

theorem Accepts.names {before after : Elaboration} {item : Item} (h : before.Accepts item after)
    (hnames : before.declared.map (·.name) = before.network.devices.map Device.name) :
    after.declared.map (·.name) = after.network.devices.map Device.name := by
  cases h with
  | @device declared type kind hkind hqualifier hnew =>
      show (before.declared ++ [declared]).map _ = (before.network.devices ++ [_]).map _
      rw [List.map_append, List.map_append, hnames]
      rfl
  | @connection source destination driver id pin device hsource hdestination hdevice hunbound =>
      have hset :=
        Network.map_name_set { device with inputs := device.inputs.set pin (some driver) }
        hdevice rfl
      exact hnames.trans hset.symm
  | signal hsource hnew hroom => exact hnames

theorem Elaborates.names {state last : Elaboration} {items : List Item}
    (h : Elaborates state items last)
    (hnames : state.declared.map (·.name) = state.network.devices.map Device.name) :
    last.declared.map (·.name) = last.network.devices.map Device.name := by
  induction h with
  | nil => exact hnames
  | accept haccepts _ ih => exact ih (haccepts.names hnames)
  | reject _ _ ih => exact ih hnames

/-- No item is rejected twice, or rejected and declared. -/
theorem Elaborates.subperm {state last : Elaboration} {items : List Item}
    (h : Elaborates state items last) :
    (last.rejected ++ last.declared.map Item.device).Subperm
      (state.rejected ++ state.declared.map Item.device ++ items) := by
  induction h with
  | nil =>
      rw [List.append_nil]
  | @accept before after last item items haccepts _ ih =>
      cases haccepts with
      | device _ _ _ => simpa using ih
      | connection _ _ _ _ =>
          exact ih.trans (List.Sublist.append_left (List.sublist_cons_self _ _) _).subperm
      | signal _ _ _ =>
          exact ih.trans (List.Sublist.append_left (List.sublist_cons_self _ _) _).subperm
  | @reject before last item items _ _ ih =>
      have hperm : (before.rejected ++ [item] ++ before.declared.map Item.device ++ items).Perm
          (before.rejected ++ before.declared.map Item.device ++ item :: items) := by
        rw [List.append_assoc, List.append_assoc, List.append_assoc, List.singleton_append]
        exact List.perm_middle.symm.append_left before.rejected
      exact ih.trans hperm.subperm

theorem Elaborates.append_iff {state last : Elaboration} {items others : List Item} :
    Elaborates state (items ++ others) last ↔
      ∃ between, Elaborates state items between ∧ Elaborates between others last := by
  induction items generalizing state with
  | nil =>
      constructor
      · exact fun h => ⟨state, .nil, h⟩
      · rintro ⟨between, hfirst, hsecond⟩
        cases hfirst
        exact hsecond
  | cons item rest ih =>
      constructor
      · intro h
        cases h with
        | accept haccepts hrest =>
            obtain ⟨between, hfirst, hsecond⟩ := ih.1 hrest
            exact ⟨between, .accept haccepts hfirst, hsecond⟩
        | reject hreject hrest =>
            obtain ⟨between, hfirst, hsecond⟩ := ih.1 hrest
            exact ⟨between, .reject hreject hfirst, hsecond⟩
      · rintro ⟨between, hfirst, hsecond⟩
        cases hfirst with
        | accept haccepts hrest => exact .accept haccepts (ih.2 ⟨between, hrest, hsecond⟩)
        | reject hreject hrest => exact .reject hreject (ih.2 ⟨between, hrest, hsecond⟩)

theorem Accepts.unique {before after : Elaboration} {item : Item} (h : before.Accepts item after)
    (hunique : (before.network.devices.map Device.name).Nodup) :
    (after.network.devices.map Device.name).Nodup := by
  cases h with
  | @device declared type kind _ _ hnew =>
      rw [List.map_append]
      exact hunique.append (List.nodup_singleton _) (List.disjoint_singleton.2 hnew)
  | @connection source destination driver id pin device _ _ hdevice _ =>
      have hset :=
        Network.map_name_set { device with inputs := device.inputs.set pin (some driver) }
        hdevice rfl
      exact hset.symm ▸ hunique
  | signal _ _ _ => exact hunique

theorem Elaborates.unique {state last : Elaboration} {items : List Item}
    (h : Elaborates state items last) (hunique : (state.network.devices.map Device.name).Nodup) :
    (last.network.devices.map Device.name).Nodup := by
  induction h with
  | nil => exact hunique
  | accept haccepts _ ih => exact ih (haccepts.unique hunique)
  | reject _ _ ih => exact ih hunique

variable {state : Elaboration}

theorem accepts_device_iff {declared : DeviceDeclaration} {next : Network}
    (hdeclared : (Item.device declared).WellFormed) :
    (∃ type kind id, declared.kind = .known type ∧
      DeviceKind.ofDeclaration type (declared.qualifier.map (·.digits)) = .ok kind ∧
      state.network.addDevice declared.name kind = .ok (next, id)) ↔
    state.Accepts (.device declared)
      { state with network := next, declared := state.declared ++ [declared] } := by
  have hqualifier : ∀ digits ∈ declared.qualifier.map (·.digits),
      ∀ c ∈ digits.toList, c.isDigit := by
    intro digits hmem
    obtain ⟨qualifier, hqualifier, rfl⟩ := Option.map_eq_some_iff.1 hmem
    exact hdeclared.2 qualifier hqualifier
  constructor
  · rintro ⟨type, kind, id, htype, hkind, hadd⟩
    obtain ⟨hnew, -, rfl⟩ := Network.addDevice_eq_ok_iff.1 hadd
    exact .device htype ((DeviceKind.ofDeclaration_eq_ok_iff hqualifier).1 hkind)
      (Network.deviceId?_eq_none_iff.1 hnew)
  · intro h
    generalize hafter : ({ state with
      network := next, declared := state.declared ++ [declared] } : Elaboration) = after at h
    cases h with
    | device hkind hdescribed hnew =>
        obtain rfl : next = _ := congrArg Elaboration.network hafter
        exact ⟨_, _, _, hkind, (DeviceKind.ofDeclaration_eq_ok_iff hqualifier).2 hdescribed,
          Network.addDevice_eq_ok_iff.2 ⟨Network.deviceId?_eq_none_iff.2 hnew, rfl, rfl⟩⟩

theorem accepts_connection_iff (h : (state.network.devices.map Device.name).Nodup)
    {source destination : Reference} {next : Network} :
    Draft.connected state.network source destination = .ok next ↔
      state.Accepts (.connection source destination) { state with network := next } := by
  rw [Draft.connected_eq_ok_iff]
  constructor
  · rintro ⟨driver, id, pin, hdriver, htarget, hconnect⟩
    obtain ⟨-, device, hdevice, hfree, rfl⟩ := Network.connect_eq_ok_iff.1 hconnect
    exact .connection ((Reference.driver_eq_ok_iff h).1 hdriver)
      ((Reference.target_eq_ok_iff h).1 htarget) hdevice
      (Device.get?_eq_some_none_iff.1 hfree).2
  · intro haccepts
    generalize hafter : ({ state with network := next } : Elaboration) = after at haccepts
    cases haccepts with
    | @connection _ _ driver id pin device hsource hdestination hdevice hunbound =>
        obtain rfl : next = _ := congrArg Elaboration.network hafter
        have houtput := hsource.hasOutput
        have hfree : device.inputs.get? pin = some none :=
          Device.get?_eq_some_none_iff.2 ⟨hdestination.mem hdevice, hunbound⟩
        exact ⟨driver, id, pin, (Reference.driver_eq_ok_iff h).2 hsource,
          (Reference.target_eq_ok_iff h).2 hdestination,
          Network.connect_eq_ok_iff.2 ⟨houtput, device, hdevice, hfree, rfl⟩⟩

theorem accepts_signal_iff (h : (state.network.devices.map Device.name).Nodup)
    {reference : Reference} {next : Recorder} :
    Draft.monitored state.network state.recorder reference = .ok next ↔
      state.Accepts (.signal reference) { state with recorder := next } := by
  rw [Draft.monitored_eq_ok_iff]
  constructor
  · rintro ⟨driver, hdriver, hadd⟩
    obtain ⟨-, hnew, hroom, rfl⟩ := Recorder.add_eq_ok_iff.1 hadd
    exact .signal ((Reference.driver_eq_ok_iff h).1 hdriver) hnew hroom
  · intro haccepts
    generalize hafter : ({ state with recorder := next } : Elaboration) = after at haccepts
    cases haccepts with
    | @signal _ driver hnames hnew hroom =>
        obtain rfl : next = _ := congrArg Elaboration.recorder hafter
        refine ⟨driver, (Reference.driver_eq_ok_iff h).2 hnames, Recorder.add_eq_ok_iff.2 ?_⟩
        exact ⟨hnames.deviceNamed? h, hnew, hroom, rfl⟩

end Elaboration

end LogicBench
