import LogicBench.Device.Declaration
import LogicBench.Proofs.Network.Bare
import Mathlib.Tactic.Set

/-!
# Networks built by declarations

What holds of every network that is built by adding devices and making connections: names are
distinct, devices have the pins of their kind, drivers are existing outputs, the list of wires and
the inputs of the devices tell the same. All of it is about the bare network, so that it lasts while
the network runs.
-/

namespace LogicBench

/-- What the parameters of a device are promised to be: a clock has a half-period, a generator a
waveform. -/
def DeviceKind.Valid : DeviceKind → Prop
  | .clock c => 0 < c.halfPeriod
  | .generator g => g.waveform ≠ []
  | _ => True

structure Device.Shaped (device : Device) : Prop where
  inputs : device.inputs.pins = device.kind.inputPins
  outputs : device.outputs.pins = device.kind.outputPins

def Device.HasUnbound (device : Device) : Prop :=
  ∃ pin, device.hasInput pin ∧ device.driver? pin = none

namespace Network

def HasOutput (network : Network) (driver : Driver) : Prop :=
  ∃ device, network.device? driver.device = some device ∧ device.hasOutput driver.pin

/-- The structure that building keeps, whatever the parameters of the devices are. -/
structure Wired (network : Network) : Prop where
  names : (network.devices.map Device.name).Nodup
  shaped : ∀ {id device}, network.device? id = some device → device.Shaped
  drivers : ∀ {id device pin driver}, network.device? id = some device →
    device.driver? pin = some driver → network.HasOutput driver
  wires : ∀ source id pin, ⟨source, id, pin⟩ ∈ network.wires ↔
    ∃ device, network.device? id = some device ∧ device.driver? pin = some source

structure WellWired (network : Network) : Prop extends network.Wired where
  valid : ∀ {id device}, network.device? id = some device → device.kind.Valid

inductive Built : Network → Prop
  | empty : Built {}
  | addDevice {network next : Network} {name : String} {kind : DeviceKind} {id : DeviceId}
      (built : Built network) (valid : kind.Valid)
      (added : network.addDevice name kind = .ok (next, id)) : Built next
  | connect {network next : Network} {source : Driver} {id : DeviceId} {pin : InputPin}
      (built : Built network) (connected : network.connect source id pin = .ok next) : Built next

end Network

theorem Generator.waveform_ne_nil_of_ofBits? {bits : String} {generator : Generator}
    (h : ofBits? bits = some generator) : generator.waveform ≠ [] := by
  unfold ofBits? at h
  split at h
  · cases h
  · next hempty =>
    obtain ⟨waveform, hwaveform, rfl⟩ := Option.map_eq_some_iff.1 h
    rintro rfl
    cases hchars : bits.toList with
    | nil => exact hempty (by simpa using hchars)
    | cons c rest => simp [hchars, List.mapM_cons, Option.bind_eq_some_iff] at hwaveform

namespace DeviceKind

@[simp] theorem valid_bare (kind : DeviceKind) : kind.bare.Valid ↔ kind.Valid := by
  cases kind <;> rfl

@[simp] theorem valid_reset (kind : DeviceKind) : kind.reset.Valid ↔ kind.Valid := by
  cases kind <;> rfl

@[simp] theorem reset_reset (kind : DeviceKind) : kind.reset.reset = kind.reset := by
  cases kind <;> rfl

@[simp] theorem startLevel_reset (kind : DeviceKind) : kind.reset.startLevel = kind.startLevel := by
  cases kind <;> rfl

theorem valid_of_ofDeclaration {type : DeviceType} {qualifier : Option String} {kind : DeviceKind}
    (h : ofDeclaration type qualifier = .ok kind) : kind.Valid := by
  unfold ofDeclaration at h
  split at h
  · unfold gateOfArity at h
    split at h <;> cases h
    trivial
  · unfold switchOfBit at h
    split at h
    · cases h; trivial
    · split at h <;> cases h
      trivial
  · unfold clockOfHalfPeriod at h
    split at h <;> cases h
    simp only [Valid, Clock.ofHalfPeriod]
    omega
  · unfold generatorOfBits at h
    split at h
    · next generator hbits =>
      cases h
      exact Generator.waveform_ne_nil_of_ofBits? hbits
    · cases h
  all_goals cases h
  all_goals trivial

theorem nodup_inputPins (kind : DeviceKind) : kind.inputPins.Nodup := by
  cases kind with
  | gate op arity =>
      show ((List.range' 1 arity).map InputPin.numbered).Nodup
      have hindices : (List.range' 1 arity).Nodup := List.nodup_range'
      apply List.pairwise_map.2
      apply hindices.imp
      intro first second hne heq
      cases heq
      exact hne rfl
  | switch _ | clock _ | generator _ => exact List.nodup_nil
  | xor | not => decide
  | flipFlop cell =>
      show [InputPin.data, .clock, .set, .clear].Nodup
      decide

end DeviceKind

theorem PinMap.mem_iff_get? {κ α : Type} [DecidableEq κ] {map : PinMap κ α} (h : map.pins.Nodup)
    {pin : κ} {value : α} : (pin, value) ∈ map ↔ map.get? pin = some value := by
  induction map with
  | nil => simp [get?]
  | cons entry rest ih =>
      obtain ⟨key, old⟩ := entry
      obtain ⟨hkey, hrest⟩ := List.nodup_cons.1 h
      rw [List.mem_cons, ih hrest, get?, Prod.mk.injEq]
      by_cases hsame : key = pin
      · have hnone : get? rest pin = none := by
          rw [← Option.not_isSome_iff_eq_none]
          intro hsome
          exact hkey (hsame ▸ (has_iff_mem_pins rest pin).1 hsome)
        rw [hnone, if_pos hsame, Option.some.injEq]
        simp [hsame, eq_comm]
      · rw [if_neg hsame]
        simp [Ne.symm hsame]

namespace Device

theorem hasUnbound_iff {device : Device} (h : device.Shaped) :
    device.HasUnbound ↔ device.unbound ≠ [] := by
  have hnodup : device.inputs.pins.Nodup := by
    rw [h.inputs]
    exact device.kind.nodup_inputPins
  have hlisted (pin : InputPin) : pin ∈ device.unbound ↔ device.inputs.get? pin = some none := by
    rw [← PinMap.mem_iff_get? hnodup]
    simp [unbound]
  constructor
  · intro ⟨pin, hinput, hdriver⟩
    have hget : device.inputs.get? pin = some none := by
      obtain ⟨value, hvalue⟩ := Option.isSome_iff_exists.1 hinput
      have hjoin : (some value).join = none := by rw [← hvalue]; exact hdriver
      rw [hvalue, show value = none from hjoin]
    exact List.ne_nil_of_mem ((hlisted pin).2 hget)
  · intro hne
    obtain ⟨pin, hpin⟩ := List.exists_mem_of_ne_nil _ hne
    have hget := (hlisted pin).1 hpin
    refine ⟨pin, ?_, ?_⟩
    · show (device.inputs.get? pin).isSome
      rw [hget]
      rfl
    · show (device.inputs.get? pin).join = none
      rw [hget]
      rfl

theorem shaped_bare (device : Device) : device.bare.Shaped ↔ device.Shaped := by
  constructor
  · intro h
    exact ⟨by simpa using h.inputs, by simpa using h.outputs⟩
  · intro h
    exact ⟨by simpa using h.inputs, by simpa using h.outputs⟩

@[simp] theorem hasOutput_bare (device : Device) (pin : OutputPin) :
    device.bare.hasOutput pin = device.hasOutput pin := by
  rw [Bool.eq_iff_iff, hasOutput_iff_mem, hasOutput_iff_mem, pins_outputs_bare]

theorem mem_inputs_of_driver? {device : Device} {pin : InputPin} {driver : Driver}
    (h : device.driver? pin = some driver) : pin ∈ device.inputs.pins := by
  rw [← PinMap.get?_isSome]
  unfold driver? at h
  cases hget : device.inputs.get? pin with
  | none => simp [hget] at h
  | some value => rfl

theorem shaped_ofKind (name : String) (kind : DeviceKind) : (ofKind name kind).Shaped := by
  constructor
  · simp [ofKind, coldStart, PinMap.pins, Function.comp_def]
  · simp [ofKind, coldStart, PinMap.pins, Function.comp_def]

theorem driver?_ofKind (name : String) (kind : DeviceKind) (pin : InputPin) :
    (ofKind name kind).driver? pin = none := by
  have hget (pins : List InputPin) :
      (PinMap.get? (pins.map fun pin => (pin, (none : Option Driver))) pin).join = none := by
    induction pins with
    | nil => rfl
    | cons first rest ih =>
        by_cases h : first = pin
        · simp [PinMap.get?, h]
        · simpa [PinMap.get?, h] using ih
  exact hget kind.inputPins

theorem coldStart_coldStart (device : Device) : device.coldStart.coldStart = device.coldStart := by
  simp [coldStart, Function.comp_def]

theorem bind_eq_ok_iff {device bound : Device} {pin : InputPin} {driver : Driver} :
    device.bind pin driver = .ok bound ↔
      device.inputs.get? pin = some none ∧
        bound = { device with inputs := device.inputs.set pin (some driver) } := by
  unfold bind
  cases hget : device.inputs.get? pin with
  | none => simp
  | some value => cases value <;> simp [eq_comm]

theorem driver?_set {device : Device} {pin : InputPin} (h : device.inputs.get? pin = some none)
    (source : Driver) (other : InputPin) :
    driver? { device with inputs := device.inputs.set pin (some source) } other =
      if other = pin then some source else device.driver? other := by
  unfold driver?
  by_cases hpin : other = pin
  · rw [if_pos hpin, hpin, PinMap.get?_set_self (by simp [PinMap.has, h])]
    rfl
  · rw [if_neg hpin, PinMap.get?_set_of_ne _ hpin]

end Device

namespace Network

theorem addDevice_eq_ok_iff {network next : Network} {name : String} {kind : DeviceKind}
    {id : DeviceId} :
    network.addDevice name kind = .ok (next, id) ↔
      network.deviceId? name = none ∧ id = network.devices.length ∧
        next = { network with devices := network.devices ++ [Device.ofKind name kind] } := by
  unfold addDevice
  cases hid : network.deviceId? name with
  | none => simp [eq_comm, and_comm]
  | some found => simp

theorem connect_eq_ok_iff {network next : Network} {source : Driver} {id : DeviceId}
    {pin : InputPin} :
    network.connect source id pin = .ok next ↔
      network.HasOutput source ∧ ∃ driven, network.device? id = some driven ∧
        driven.inputs.get? pin = some none ∧
        next = { network with
          devices := network.devices.set id
            { driven with inputs := driven.inputs.set pin (some source) }
          wires := network.wires ++ [⟨source, id, pin⟩] } := by
  unfold connect HasOutput
  cases hdriving : network.device? source.device with
  | none => simp
  | some driving =>
      cases hdriven : network.device? id with
      | none => simp
      | some driven =>
          by_cases hpin : driving.hasOutput source.pin
          · cases hbind : driven.bind pin source with
            | error cause =>
                have hget : driven.inputs.get? pin ≠ some none := by
                  intro hget
                  simp [Device.bind, hget] at hbind
                simp [hpin, hget, hbind]
            | ok bound =>
                obtain ⟨hget, rfl⟩ := Device.bind_eq_ok_iff.1 hbind
                simp only [hpin, if_true, hbind, Except.ok.injEq, Option.some.injEq,
                  exists_eq_left', true_and, hget]
                exact eq_comm
          · simp [hpin]

theorem deviceId?_eq_none_iff {network : Network} {name : String} :
    network.deviceId? name = none ↔ name ∉ network.devices.map Device.name := by
  simp [deviceId?, List.findIdx?_eq_none_iff]

theorem device?_append (network : Network) (device : Device) (id : DeviceId) :
    device? { network with devices := network.devices ++ [device] } id =
      if id = network.devices.length then some device else network.device? id := by
  unfold device?
  split
  · next h => simp [h]
  · next h =>
    rcases Nat.lt_or_gt_of_ne h with hlt | hgt
    · exact List.getElem?_append_left hlt
    · rw [List.getElem?_eq_none (by simp; omega), List.getElem?_eq_none (by omega)]

theorem device?_set {devices : List Device} {id : DeviceId} {old : Device} (new : Device)
    (hold : devices[id]? = some old) (other : DeviceId) :
    (devices.set id new)[other]? = if other = id then some new else devices[other]? := by
  obtain ⟨hlt, -⟩ := List.getElem?_eq_some_iff.1 hold
  by_cases h : other = id
  · rw [if_pos h, h, List.getElem?_set_self hlt]
  · rw [if_neg h, List.getElem?_set_ne (Ne.symm h)]

theorem name_device?_of_connect {network next : Network} {source : Driver} {id : DeviceId}
    {pin : InputPin} (h : network.connect source id pin = .ok next) (other : DeviceId) :
    (next.device? other).map Device.name = (network.device? other).map Device.name := by
  obtain ⟨-, driven, hdriven, -, rfl⟩ := connect_eq_ok_iff.1 h
  rw [device?, device?_set _ hdriven]
  by_cases hother : other = id
  · rw [if_pos hother, hother, hdriven]
    rfl
  · rw [if_neg hother]
    rfl

theorem HasOutput.append {network : Network} {driver : Driver} (h : network.HasOutput driver)
    (device : Device) :
    HasOutput { network with devices := network.devices ++ [device] } driver := by
  obtain ⟨source, hsource, hpin⟩ := h
  have hlt : driver.device < network.devices.length :=
    (List.getElem?_eq_some_iff.1 hsource).1
  refine ⟨source, ?_, hpin⟩
  rw [device?_append, if_neg (Nat.ne_of_lt hlt), hsource]

theorem map_name_set {devices : List Device} {id : DeviceId} {old : Device} (new : Device)
    (hold : devices[id]? = some old) (hname : new.name = old.name) :
    (devices.set id new).map Device.name = devices.map Device.name := by
  obtain ⟨hlt, hget⟩ := List.getElem?_eq_some_iff.1 hold
  have hbound : id < (devices.map Device.name).length := by simpa using hlt
  have hsame : old.name = (devices.map Device.name)[id] := by simp [hget]
  rw [List.map_set, hname, hsame, List.set_getElem_self]

theorem HasOutput.set {network next : Network} {id : DeviceId} {old : Device} (new : Device)
    (hold : network.device? id = some old) (houtputs : new.outputs = old.outputs)
    (hnext : next.devices = network.devices.set id new) {driver : Driver}
    (h : network.HasOutput driver) : next.HasOutput driver := by
  obtain ⟨device, hdevice, hpin⟩ := h
  have hlookup := device?_set new hold driver.device
  by_cases hid : driver.device = id
  · rw [hid, hold] at hdevice
    cases hdevice
    refine ⟨new, ?_, ?_⟩
    · rw [device?, hnext, hlookup, if_pos hid]
    · rw [Device.hasOutput, houtputs]
      exact hpin
  · refine ⟨device, ?_, hpin⟩
    rw [device?, hnext, hlookup, if_neg hid]
    exact hdevice

theorem device?_of_addDevice {network next : Network} {name : String} {kind : DeviceKind}
    {id : DeviceId} (hadd : network.addDevice name kind = .ok (next, id)) {other : DeviceId}
    {device : Device} (hdevice : next.device? other = some device) :
    device = Device.ofKind name kind ∨ network.device? other = some device := by
  obtain ⟨-, -, rfl⟩ := addDevice_eq_ok_iff.1 hadd
  rw [device?_append] at hdevice
  split at hdevice
  · exact .inl (Option.some.inj hdevice).symm
  · exact .inr hdevice

theorem Wired.addDevice {network next : Network} {name : String} {kind : DeviceKind}
    {id : DeviceId} (h : network.Wired) (hadd : network.addDevice name kind = .ok (next, id)) :
    next.Wired := by
  have hnew {other : DeviceId} {device : Device} (hdevice : next.device? other = some device) :=
    device?_of_addDevice hadd hdevice
  obtain ⟨hname, rfl, rfl⟩ := addDevice_eq_ok_iff.1 hadd
  constructor
  · rw [deviceId?_eq_none_iff] at hname
    simp only [List.map_append, List.map_cons, List.map_nil, Device.name_ofKind]
    exact List.nodup_append.2 ⟨h.names, by simp, fun a ha b hb => by
      rw [List.mem_singleton.1 hb]
      rintro rfl
      exact hname ha⟩
  · intro other device hdevice
    rcases hnew hdevice with rfl | hold
    · exact Device.shaped_ofKind name kind
    · exact h.shaped hold
  · intro other device pin driver hdevice hdriver
    rcases hnew hdevice with rfl | hold
    · rw [Device.driver?_ofKind] at hdriver
      cases hdriver
    · exact (h.drivers hold hdriver).append _
  · intro source other pin
    rw [show ({ network with devices := network.devices ++ [Device.ofKind name kind] } :
      Network).wires = network.wires from rfl, h.wires]
    constructor
    · rintro ⟨device, hdevice, hdriver⟩
      have hlt := (List.getElem?_eq_some_iff.1 hdevice).1
      refine ⟨device, ?_, hdriver⟩
      rw [device?_append, if_neg (Nat.ne_of_lt hlt), hdevice]
    · rintro ⟨device, hdevice, hdriver⟩
      rcases hnew hdevice with rfl | hold
      · rw [Device.driver?_ofKind] at hdriver
        cases hdriver
      · exact ⟨device, hold, hdriver⟩

theorem WellWired.addDevice {network next : Network} {name : String} {kind : DeviceKind}
    {id : DeviceId} (h : network.WellWired) (hkind : kind.Valid)
    (hadd : network.addDevice name kind = .ok (next, id)) : next.WellWired := by
  refine ⟨h.toWired.addDevice hadd, ?_⟩
  intro other device hdevice
  rcases device?_of_addDevice hadd hdevice with rfl | hold
  · exact (DeviceKind.valid_reset kind).2 hkind
  · exact h.valid hold

theorem Wired.connect {network next : Network} {source : Driver} {id : DeviceId}
    {pin : InputPin} (h : network.Wired) (hconnect : network.connect source id pin = .ok next) :
    next.Wired := by
  obtain ⟨hsource, driven, hdriven, hfree, rfl⟩ := connect_eq_ok_iff.1 hconnect
  set bound : Device := { driven with inputs := driven.inputs.set pin (some source) } with hbound
  have hlookup := device?_set bound hdriven
  have houtput {driver : Driver} (hdriver : network.HasOutput driver) : HasOutput { network with
      devices := network.devices.set id bound
      wires := network.wires ++ [⟨source, id, pin⟩] } driver :=
    hdriver.set bound hdriven rfl rfl
  have hdriver (other : InputPin) :
      bound.driver? other = if other = pin then some source else driven.driver? other :=
    Device.driver?_set hfree source other
  constructor
  · have hnames : (network.devices.set id bound).map Device.name =
        network.devices.map Device.name := map_name_set bound hdriven rfl
    simpa only [hnames] using h.names
  · intro other device hdevice
    rw [device?, hlookup] at hdevice
    split at hdevice
    · cases hdevice
      exact ⟨by simpa [hbound] using (h.shaped hdriven).inputs, (h.shaped hdriven).outputs⟩
    · exact h.shaped hdevice
  · intro other device input driver hdevice hwired
    rw [device?, hlookup] at hdevice
    split at hdevice
    · cases hdevice
      rw [hdriver] at hwired
      split at hwired
      · cases hwired
        exact houtput hsource
      · exact houtput (h.drivers hdriven hwired)
    · exact houtput (h.drivers hdevice hwired)
  · intro driver other input
    rw [List.mem_append, h.wires, List.mem_singleton]
    simp only [device?, hlookup]
    by_cases hid : other = id
    · subst hid
      simp only [if_pos, Option.some.injEq, exists_eq_left', hdriver]
      have hdriven' : network.devices[other]? = some driven := hdriven
      simp only [hdriven', Option.some.injEq, exists_eq_left', Wire.mk.injEq, true_and]
      by_cases hpin : input = pin
      · subst hpin
        simp [Device.driver?, hfree, eq_comm]
      · simp [hpin]
    · simp [hid]

theorem WellWired.connect {network next : Network} {source : Driver} {id : DeviceId}
    {pin : InputPin} (h : network.WellWired) (hconnect : network.connect source id pin = .ok next) :
    next.WellWired := by
  refine ⟨h.toWired.connect hconnect, ?_⟩
  obtain ⟨-, driven, hdriven, -, rfl⟩ := connect_eq_ok_iff.1 hconnect
  intro other device hdevice
  rw [device?, device?_set _ hdriven] at hdevice
  split at hdevice
  · obtain rfl := Option.some.inj hdevice
    show driven.kind.Valid
    exact h.valid hdriven
  · exact h.valid hdevice

theorem HasOutput.of_bare_eq {network other : Network} (hbare : other.bare = network.bare)
    {driver : Driver} (h : network.HasOutput driver) : other.HasOutput driver := by
  obtain ⟨device, hdevice, hpin⟩ := h
  obtain ⟨same, hsame, hsameBare⟩ := device?_of_bare_eq hbare.symm hdevice
  refine ⟨same, hsame, ?_⟩
  rw [← Device.hasOutput_bare, hsameBare, Device.hasOutput_bare]
  exact hpin

theorem wires_of_bare_eq {network other : Network} (hbare : other.bare = network.bare) :
    other.wires = network.wires := by
  show other.bare.wires = network.bare.wires
  rw [hbare]

theorem names_of_bare_eq {network other : Network} (hbare : other.bare = network.bare) :
    other.devices.map Device.name = network.devices.map Device.name := by
  have hnames := congrArg (fun bare => bare.devices.map Device.name) hbare
  simpa [bare, Function.comp_def] using hnames

theorem Wired.of_bare_eq {network other : Network} (h : network.Wired)
    (hbare : other.bare = network.bare) : other.Wired := by
  have hwires := wires_of_bare_eq hbare
  constructor
  · rw [names_of_bare_eq hbare]
    exact h.names
  · intro id device hdevice
    obtain ⟨same, hsame, hsameBare⟩ := device?_of_bare_eq hbare hdevice
    rw [← Device.shaped_bare, ← hsameBare, Device.shaped_bare]
    exact h.shaped hsame
  · intro id device pin driver hdevice hdriver
    obtain ⟨same, hsame, hsameBare⟩ := device?_of_bare_eq hbare hdevice
    rw [← Device.driver?_of_bare_eq hsameBare] at hdriver
    exact (h.drivers hsame hdriver).of_bare_eq hbare
  · intro source id pin
    rw [hwires, h.wires]
    constructor
    · rintro ⟨device, hdevice, hdriver⟩
      obtain ⟨same, hsame, hsameBare⟩ := device?_of_bare_eq hbare.symm hdevice
      exact ⟨same, hsame, by rwa [Device.driver?_of_bare_eq hsameBare]⟩
    · rintro ⟨device, hdevice, hdriver⟩
      obtain ⟨same, hsame, hsameBare⟩ := device?_of_bare_eq hbare hdevice
      exact ⟨same, hsame, by rwa [Device.driver?_of_bare_eq hsameBare]⟩

theorem WellWired.of_bare_eq {network other : Network} (h : network.WellWired)
    (hbare : other.bare = network.bare) : other.WellWired := by
  refine ⟨h.toWired.of_bare_eq hbare, ?_⟩
  intro id device hdevice
  obtain ⟨same, hsame, hsameBare⟩ := device?_of_bare_eq hbare hdevice
  rw [← DeviceKind.valid_bare, ← Device.kind_of_bare_eq hsameBare, DeviceKind.valid_bare]
  exact h.valid hsame

theorem wired_empty : Wired {} :=
  ⟨.nil, by simp [device?], by simp [device?], by simp [device?]⟩

theorem Built.wellWired {network : Network} (h : network.Built) : network.WellWired := by
  induction h with
  | empty => exact ⟨wired_empty, by simp [device?]⟩
  | addDevice _ valid added ih => exact ih.addDevice valid added
  | connect _ connected ih => exact ih.connect connected

theorem Wired.isComplete_iff {network : Network} (h : network.Wired) :
    network.isComplete ↔ network.devices ≠ [] ∧
      ∀ id device, network.device? id = some device → ¬ device.HasUnbound := by
  have hunbound : network.unbound = [] ↔
      ∀ id device, network.device? id = some device → ¬ device.HasUnbound := by
    rw [unbound, List.flatMap_eq_nil_iff]
    constructor
    · intro hnone id device hdevice
      rw [Device.hasUnbound_iff (h.shaped hdevice), Classical.not_not]
      exact List.map_eq_nil_iff.1 (hnone (device, id) (List.mem_zipIdx_iff_getElem?.2 hdevice))
    · intro hbound (device, id) hpair
      have hdevice : network.device? id = some device := List.mem_zipIdx_iff_getElem?.1 hpair
      have hnone := hbound id device hdevice
      rw [Device.hasUnbound_iff (h.shaped hdevice), Classical.not_not] at hnone
      exact List.map_eq_nil_iff.2 hnone
  rw [isComplete, ← hunbound]
  simp

theorem Built.device_coldStart {network : Network} (h : network.Built) :
    ∀ device ∈ network.devices, device.coldStart = device := by
  induction h with
  | empty => simp
  | addDevice _ _ added ih =>
      obtain ⟨-, -, rfl⟩ := addDevice_eq_ok_iff.1 added
      intro device hdevice
      rcases List.mem_append.1 hdevice with hold | hnew
      · exact ih device hold
      · rw [List.mem_singleton.1 hnew, Device.ofKind, Device.coldStart_coldStart]
  | connect _ connected ih =>
      obtain ⟨-, driven, hdriven, -, rfl⟩ := connect_eq_ok_iff.1 connected
      intro device hdevice
      rcases List.mem_or_eq_of_mem_set hdevice with hold | rfl
      · exact ih device hold
      · have hcold := ih driven (List.mem_of_getElem? hdriven)
        have hkind : driven.kind.reset = driven.kind := congrArg Device.kind hcold
        have houtputs := congrArg Device.outputs hcold
        simp only [Device.coldStart] at houtputs ⊢
        rw [hkind, houtputs]

theorem Built.cycle_eq_zero {network : Network} (h : network.Built) : network.cycle = 0 := by
  induction h with
  | empty => rfl
  | addDevice _ _ added ih =>
      obtain ⟨-, -, rfl⟩ := addDevice_eq_ok_iff.1 added
      exact ih
  | connect _ connected ih =>
      obtain ⟨-, driven, -, -, rfl⟩ := connect_eq_ok_iff.1 connected
      exact ih

theorem Built.coldStart_eq {network : Network} (h : network.Built) :
    network.coldStart = network := by
  have hdevices : network.devices.map Device.coldStart = network.devices := by
    have hmap := List.map_congr_left h.device_coldStart
    rwa [List.map_id'] at hmap
  rw [coldStart, hdevices, ← h.cycle_eq_zero]

end Network

end LogicBench
