import LogicBench.Proofs.Definition.Drafting
import LogicBench.Proofs.Definition.Items
import LogicBench.Proofs.Simulator.Listing

/-!
# Connecting in any order

What a reference means depends on the names and the pins of the devices, not on what is connected to
them, and two connections that can both be made are made at different inputs. So connections can be
made in any order: the devices are the same in the end, and the wires are listed in another order.
-/

namespace LogicBench

/-! ## Devices without their connections -/

namespace Device

def unwired (device : Device) : Device :=
  { device with inputs := device.inputs.map fun (pin, _) => (pin, none) }

@[simp] theorem name_unwired (device : Device) : device.unwired.name = device.name := rfl

@[simp] theorem outputs_unwired (device : Device) : device.unwired.outputs = device.outputs := rfl

@[simp] theorem pins_inputs_unwired (device : Device) :
    device.unwired.inputs.pins = device.inputs.pins :=
  PinMap.pins_map device.inputs fun _ => none

def plug (device : Device) (pin : InputPin) (driver : Driver) : Device :=
  { device with inputs := device.inputs.set pin (some driver) }

@[simp] theorem unwired_plug (device : Device) (pin : InputPin) (driver : Driver) :
    (device.plug pin driver).unwired = device.unwired := by
  have hset (inputs : PinMap InputPin (Option Driver)) :
      (inputs.set pin (some driver)).map (fun entry => (entry.1, (none : Option Driver))) =
        inputs.map fun entry => (entry.1, none) := by
    induction inputs with
    | nil => rfl
    | cons entry rest ih =>
        rw [PinMap.set]
        split
        · rfl
        · rw [List.map_cons, List.map_cons, ih]
  exact congrArg (fun inputs => { device with inputs }) (hset device.inputs)

theorem plug_comm (device : Device) {pin other : InputPin} (h : pin ≠ other)
    (driver second : Driver) :
    (device.plug pin driver).plug other second = (device.plug other second).plug pin driver := by
  have hset (inputs : PinMap InputPin (Option Driver)) :
      (inputs.set pin (some driver)).set other (some second) =
        (inputs.set other (some second)).set pin (some driver) := by
    induction inputs with
    | nil => rfl
    | cons entry rest ih =>
        obtain ⟨key, value⟩ := entry
        by_cases hpin : key = pin
        · have hother : key ≠ other := fun heq => h (hpin.symm.trans heq)
          simp [PinMap.set, hpin, h]
        · by_cases hother : key = other
          · simp [PinMap.set, hother, h.symm]
          · simp [PinMap.set, hpin, hother, ih]
  exact congrArg (fun inputs => { device with inputs }) (hset device.inputs)

end Device

namespace Network

variable {network next other last : Network}

def sockets (network : Network) : List Device :=
  network.devices.map Device.unwired

structure SameButOrder (network other : Network) : Prop where
  devices : network.devices = other.devices
  wires : network.wires.Perm other.wires
  cycle : network.cycle = other.cycle

namespace SameButOrder

theorem refl (network : Network) : network.SameButOrder network :=
  ⟨rfl, .refl _, rfl⟩

theorem trans (h : network.SameButOrder next) (hlast : next.SameButOrder last) :
    network.SameButOrder last :=
  ⟨h.devices.trans hlast.devices, h.wires.trans hlast.wires, h.cycle.trans hlast.cycle⟩

theorem eq_withWires (h : network.SameButOrder other) : other = network.withWires other.wires := by
  obtain ⟨devices, wires, cycle⟩ := other
  obtain ⟨hdevices, -, hcycle⟩ := h
  simp only at hdevices hcycle
  rw [withWires, hdevices, hcycle]

end SameButOrder

theorem connect_eq_ok_iff_plug {source : Driver} {id : DeviceId} {pin : InputPin} :
    network.connect source id pin = .ok next ↔ network.HasOutput source ∧
      ∃ driven, network.device? id = some driven ∧ driven.inputs.get? pin = some none ∧
        next = { network with
          devices := network.devices.set id (driven.plug pin source)
          wires := network.wires ++ [⟨source, id, pin⟩] } :=
  connect_eq_ok_iff

theorem sockets_of_connect {source : Driver} {id : DeviceId} {pin : InputPin}
    (h : network.connect source id pin = .ok next) : next.sockets = network.sockets := by
  obtain ⟨-, driven, hdriven, -, rfl⟩ := connect_eq_ok_iff_plug.1 h
  have hsocket : network.sockets[id]? = some driven.unwired := by
    rw [sockets, List.getElem?_map, show network.devices[id]? = some driven from hdriven,
      Option.map_some]
  obtain ⟨hlt, hget⟩ := List.getElem?_eq_some_iff.1 hsocket
  calc (network.devices.set id (driven.plug pin source)).map Device.unwired
    _ = network.sockets.set id driven.unwired := by rw [List.map_set, Device.unwired_plug, sockets]
    _ = network.sockets := by rw [← hget, List.set_getElem_self]

theorem device?_of_sockets_eq (h : network.sockets = other.sockets) {id : DeviceId}
    {device : Device} (hdevice : network.device? id = some device) :
    ∃ same, other.device? id = some same ∧ same.unwired = device.unwired := by
  have hsocket : other.sockets[id]? = some device.unwired := by
    rw [← h, sockets, List.getElem?_map, show network.devices[id]? = some device from hdevice,
      Option.map_some]
  rw [sockets, List.getElem?_map] at hsocket
  exact Option.map_eq_some_iff.1 hsocket

theorem names_of_sockets_eq (h : network.sockets = other.sockets) :
    network.devices.map Device.name = other.devices.map Device.name := by
  have hnames := congrArg (List.map Device.name) h
  rw [sockets, sockets, List.map_map, List.map_map] at hnames
  exact hnames

theorem HasOutput.of_sockets_eq (h : network.sockets = other.sockets) {driver : Driver}
    (hdriver : network.HasOutput driver) : other.HasOutput driver := by
  obtain ⟨device, hdevice, hpin⟩ := hdriver
  obtain ⟨same, hsame, hunwired⟩ := device?_of_sockets_eq h hdevice
  refine ⟨same, hsame, ?_⟩
  rw [Device.hasOutput, ← same.outputs_unwired, hunwired, Device.outputs_unwired]
  exact hpin

theorem connect_comm {source second : Driver} {id place : DeviceId} {pin input : InputPin}
    (hfirst : network.connect source id pin = .ok next)
    (hsecond : next.connect second place input = .ok last) :
    ∃ swapped final, network.connect second place input = .ok swapped ∧
      swapped.connect source id pin = .ok final ∧ last.SameButOrder final := by
  have hsockets := sockets_of_connect hfirst
  obtain ⟨hsource, driven, hdriven, hfree, hnext⟩ := connect_eq_ok_iff_plug.1 hfirst
  obtain ⟨houtput, target, htarget, hopen, hlast⟩ := connect_eq_ok_iff_plug.1 hsecond
  have hsecondOutput : network.HasOutput second := houtput.of_sockets_eq hsockets
  have hplugged : next.device? place =
      if place = id then some (driven.plug pin source) else network.device? place := by
    rw [hnext]
    exact device?_set _ hdriven place
  have hwires : last.wires.Perm
      (network.wires ++ [⟨second, place, input⟩] ++ [⟨source, id, pin⟩]) := by
    rw [hlast, hnext, List.append_assoc, List.append_assoc]
    exact (List.Perm.swap _ _ []).append_left network.wires
  rw [hplugged] at htarget
  by_cases hplace : place = id
  · -- At one device the two inputs differ, since the second is free behind the first.
    rw [if_pos hplace] at htarget
    obtain rfl := Option.some.inj htarget
    subst hplace
    have hne : pin ≠ input := by
      rintro rfl
      have hhas : driven.inputs.has pin := by rw [PinMap.has, hfree]; rfl
      have hset := PinMap.get?_set_self hhas (some source)
      rw [show driven.inputs.set pin (some source) = (driven.plug pin source).inputs from rfl,
        hopen] at hset
      cases hset
    have hsecondFree : driven.inputs.get? input = some none := by
      rw [← hopen]
      exact (PinMap.get?_set_of_ne driven.inputs hne.symm (some source)).symm
    have hswapped := connect_eq_ok_iff_plug.2 ⟨hsecondOutput, driven, hdriven, hsecondFree, rfl⟩
    have hfirstOutput := hsource.of_sockets_eq (sockets_of_connect hswapped).symm
    have hdevice := device?_set (driven.plug input second) hdriven place
    rw [if_pos rfl] at hdevice
    have hfirstFree : (driven.plug input second).inputs.get? pin = some none := by
      rw [← hfree]
      exact PinMap.get?_set_of_ne driven.inputs hne (some second)
    refine ⟨_, _, hswapped, connect_eq_ok_iff_plug.2 ⟨hfirstOutput, _, hdevice, hfirstFree, rfl⟩,
      ?_, hwires, ?_⟩
    · rw [hlast, hnext]
      simp only [List.set_set, driven.plug_comm hne]
    · rw [hlast, hnext]
  · rw [if_neg hplace] at htarget
    have hswapped := connect_eq_ok_iff_plug.2 ⟨hsecondOutput, target, htarget, hopen, rfl⟩
    have hfirstOutput := hsource.of_sockets_eq (sockets_of_connect hswapped).symm
    have hdevice := device?_set (target.plug input second) htarget id
    rw [if_neg (Ne.symm hplace)] at hdevice
    refine ⟨_, _, hswapped, connect_eq_ok_iff_plug.2 ⟨hfirstOutput, driven, hdevice.trans hdriven,
      hfree, rfl⟩, ?_, hwires, ?_⟩
    · rw [hlast, hnext]
      exact List.set_comm _ _ (Ne.symm hplace)
    · rw [hlast, hnext]

end Network

/-! ## References -/

namespace Reference

variable {network other : Network} {reference : Reference}

theorem Names.of_sockets_eq {κ : Type} {pins : Device → List κ} {ofPin : κ → Pin}
    (hpins : ∀ device, pins device.unwired = pins device)
    (h : network.sockets = other.sockets) {id : DeviceId} {pin : κ}
    (hnames : reference.Names network pins ofPin id pin) :
    reference.Names other pins ofPin id pin := by
  obtain ⟨device, hdevice, hname, hpin⟩ := hnames
  obtain ⟨same, hsame, hunwired⟩ := Network.device?_of_sockets_eq h hdevice
  have hsamePins : pins same = pins device := by rw [← hpins, hunwired, hpins]
  refine ⟨same, hsame, ?_, ?_⟩
  · rw [← same.name_unwired, hunwired, Device.name_unwired, hname]
  · rw [hsamePins]
    exact hpin

theorem driver_of_sockets_eq (hunique : (network.devices.map Device.name).Nodup)
    (h : network.sockets = other.sockets) {driver : Driver}
    (hdriver : reference.driver network = .ok driver) : reference.driver other = .ok driver := by
  have hsame := Network.names_of_sockets_eq h
  apply (driver_eq_ok_iff (hsame ▸ hunique)).2
  exact Names.of_sockets_eq (fun _ => rfl) h ((driver_eq_ok_iff hunique).1 hdriver)

theorem target_of_sockets_eq (hunique : (network.devices.map Device.name).Nodup)
    (h : network.sockets = other.sockets) {id : DeviceId} {pin : InputPin}
    (htarget : reference.target network = .ok (id, pin)) :
    reference.target other = .ok (id, pin) := by
  have hsame := Network.names_of_sockets_eq h
  apply (target_eq_ok_iff (hsame ▸ hunique)).2
  exact Names.of_sockets_eq Device.pins_inputs_unwired h ((target_eq_ok_iff hunique).1 htarget)

end Reference

namespace Draft

variable {network next last : Network} {source destination : Reference}

theorem sockets_of_connected (h : connected network source destination = .ok next) :
    next.sockets = network.sockets := by
  obtain ⟨driver, id, pin, -, -, hconnect⟩ := connected_eq_ok_iff.1 h
  exact Network.sockets_of_connect hconnect

/-- The order in which the wires are listed does not matter for a further connection. -/
theorem connected_of_sameButOrder {other : Network} (h : network.SameButOrder other)
    (hconnected : connected network source destination = .ok next) :
    ∃ grown, connected other source destination = .ok grown ∧ next.SameButOrder grown := by
  obtain ⟨driver, id, pin, hdriver, htarget, hconnect⟩ := connected_eq_ok_iff.1 hconnected
  obtain ⟨houtput, driven, hdriven, hfree, rfl⟩ := Network.connect_eq_ok_iff_plug.1 hconnect
  have hother := h.eq_withWires
  have hdriverOther : source.driver other = .ok driver := by
    rw [hother]
    exact hdriver
  have htargetOther : destination.target other = .ok (id, pin) := by
    rw [hother]
    exact htarget
  have houtputOther : other.HasOutput driver := by
    rw [hother]
    exact houtput
  have hdrivenOther : other.device? id = some driven := by
    rw [hother]
    exact hdriven
  refine ⟨_, connected_eq_ok_iff.2 ⟨driver, id, pin, hdriverOther, htargetOther,
    Network.connect_eq_ok_iff_plug.2 ⟨houtputOther, driven, hdrivenOther, hfree, rfl⟩⟩, ?_, ?_, ?_⟩
  · exact congrArg (List.set · id (driven.plug pin driver)) h.devices
  · exact h.wires.append_right _
  · exact h.cycle

theorem connected_comm (hunique : (network.devices.map Device.name).Nodup)
    {second target : Reference} (hfirst : connected network source destination = .ok next)
    (hsecond : connected next second target = .ok last) :
    ∃ swapped final, connected network second target = .ok swapped ∧
      connected swapped source destination = .ok final ∧ last.SameButOrder final := by
  have hsockets := sockets_of_connected hfirst
  have huniqueNext : (next.devices.map Device.name).Nodup :=
    (Network.names_of_sockets_eq hsockets).symm ▸ hunique
  obtain ⟨driver, id, pin, hdriver, htarget, hconnect⟩ := connected_eq_ok_iff.1 hfirst
  obtain ⟨other, place, input, hother, hplace, hlast⟩ := connected_eq_ok_iff.1 hsecond
  obtain ⟨swapped, final, hswapped, hfinal, hsame⟩ := Network.connect_comm hconnect hlast
  have hback := (Network.sockets_of_connect hswapped).symm
  refine ⟨swapped, final, connected_eq_ok_iff.2 ⟨other, place, input, ?_, ?_, hswapped⟩,
    connected_eq_ok_iff.2 ⟨driver, id, pin, ?_, ?_, hfinal⟩, hsame⟩
  · exact Reference.driver_of_sockets_eq huniqueNext hsockets hother
  · exact Reference.target_of_sockets_eq huniqueNext hsockets hplace
  · exact Reference.driver_of_sockets_eq hunique hback hdriver
  · exact Reference.target_of_sockets_eq hunique hback htarget

end Draft

/-! ## Lists of items -/

inductive Extends : Network → Recorder → List Item → Network → Recorder → Prop
  | nil {network : Network} {recorder : Recorder} : Extends network recorder [] network recorder
  | connection {network next last : Network} {recorder final : Recorder}
      {source destination : Reference} {items : List Item}
      (h : Draft.connected network source destination = .ok next)
      (hrest : Extends next recorder items last final) :
      Extends network recorder (.connection source destination :: items) last final
  | signal {network last : Network} {recorder next final : Recorder} {reference : Reference}
      {items : List Item} (h : Draft.monitored network recorder reference = .ok next)
      (hrest : Extends network next items last final) :
      Extends network recorder (.signal reference :: items) last final

namespace Extends

variable {network last other : Network} {recorder final : Recorder} {items others : List Item}

theorem append_iff : Extends network recorder (items ++ others) last final ↔
    ∃ between kept, Extends network recorder items between kept ∧
      Extends between kept others last final := by
  induction items generalizing network recorder with
  | nil =>
      constructor
      · exact fun h => ⟨network, recorder, .nil, h⟩
      · rintro ⟨between, kept, hfirst, hsecond⟩
        cases hfirst
        exact hsecond
  | cons item rest ih =>
      constructor
      · intro h
        cases h with
        | connection h hrest =>
            obtain ⟨between, kept, hfirst, hsecond⟩ := ih.1 hrest
            exact ⟨between, kept, .connection h hfirst, hsecond⟩
        | signal h hrest =>
            obtain ⟨between, kept, hfirst, hsecond⟩ := ih.1 hrest
            exact ⟨between, kept, .signal h hfirst, hsecond⟩
      · rintro ⟨between, kept, hfirst, hsecond⟩
        cases hfirst with
        | connection h hrest => exact .connection h (ih.2 ⟨between, kept, hrest, hsecond⟩)
        | signal h hrest => exact .signal h (ih.2 ⟨between, kept, hrest, hsecond⟩)

theorem of_sameButOrder (h : Extends network recorder items last final)
    (hsame : network.SameButOrder other) :
    ∃ grown, Extends other recorder items grown final ∧ last.SameButOrder grown := by
  induction h generalizing other with
  | nil => exact ⟨other, .nil, hsame⟩
  | connection hconnected _ ih =>
      obtain ⟨next, hnext, hsameNext⟩ := Draft.connected_of_sameButOrder hsame hconnected
      obtain ⟨grown, hgrown, hlast⟩ := ih hsameNext
      exact ⟨grown, .connection hnext hgrown, hlast⟩
  | signal hmonitored _ ih =>
      obtain ⟨grown, hgrown, hlast⟩ := ih hsame
      refine ⟨grown, .signal ?_ hgrown, hlast⟩
      rw [hsame.eq_withWires]
      exact hmonitored

theorem cons_iff_of_connect {item : Item} (hitem : item.inSection = .connect) :
    Extends network recorder (item :: items) last final ↔
      ∃ source destination next, item = .connection source destination ∧
        Draft.connected network source destination = .ok next ∧
        Extends next recorder items last final := by
  constructor
  · intro h
    cases h with
    | connection h hrest => exact ⟨_, _, _, rfl, h, hrest⟩
    | signal h hrest => cases hitem
  · rintro ⟨source, destination, next, rfl, h, hrest⟩
    exact .connection h hrest

/-- Connections can be made in any order. -/
theorem of_perm (hperm : items.Perm others) (hitems : ∀ item ∈ items, item.inSection = .connect)
    (hunique : (network.devices.map Device.name).Nodup)
    (h : Extends network recorder items last final) :
    ∃ grown, Extends network recorder others grown final ∧ last.SameButOrder grown := by
  induction hperm generalizing network last with
  | nil => exact ⟨last, h, .refl last⟩
  | cons item _ ih =>
      obtain ⟨hitem, hrest⟩ := List.forall_mem_cons.1 hitems
      obtain ⟨source, destination, next, rfl, hnext, hbehind⟩ := (cons_iff_of_connect hitem).1 h
      have hsame := Network.names_of_sockets_eq (Draft.sockets_of_connected hnext)
      obtain ⟨grown, hgrown, hlast⟩ := ih hrest (hsame.symm ▸ hunique) hbehind
      exact ⟨grown, .connection hnext hgrown, hlast⟩
  | swap first second rest =>
      obtain ⟨hsecond, hrest⟩ := List.forall_mem_cons.1 hitems
      obtain ⟨hfirst, -⟩ := List.forall_mem_cons.1 hrest
      obtain ⟨_, _, next, rfl, hnext, hbehind⟩ := (cons_iff_of_connect hsecond).1 h
      obtain ⟨_, _, both, rfl, hboth, hbehind⟩ := (cons_iff_of_connect hfirst).1 hbehind
      obtain ⟨swapped, final, hswapped, hfinal, hsame⟩ :=
        Draft.connected_comm hunique hnext hboth
      obtain ⟨grown, hgrown, hlast⟩ := hbehind.of_sameButOrder hsame
      exact ⟨grown, .connection hswapped (.connection hfinal hgrown), hlast⟩
  | trans hperm _ ihfirst ihsecond =>
      obtain ⟨middle, hmiddle, hlast⟩ := ihfirst hitems hunique h
      have hothers := fun item hitem => hitems item (hperm.mem_iff.2 hitem)
      obtain ⟨grown, hgrown, hmore⟩ := ihsecond hothers hunique hmiddle
      exact ⟨grown, hgrown, hlast.trans hmore⟩

end Extends

end LogicBench
