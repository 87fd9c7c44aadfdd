import LogicBench.Proofs.Definition.Handles
import LogicBench.Proofs.Device.PinNames
import LogicBench.Proofs.Simulator.Points

/-!
# Signal names as addresses

As no device has a dot in its name, the first dot of a signal name tells the device from the pin.
Writing the name of an output and finding the output of a name are then inverse to each other, and a
simulator finds by a name what the network finds.
-/

namespace LogicBench

/-! ## Texts with a dot -/

namespace SignalName

theorem split_of_not_mem {text : String} (h : '.' ∉ text.toList) : split text = (text, none) := by
  have hnone : text.toList.dropWhile (· ≠ '.') = [] :=
    List.dropWhile_eq_nil_iff.2 fun c hc => by simpa using fun heq : c = '.' => h (heq ▸ hc)
  rw [split, hnone]

theorem split_append {owner : String} (h : '.' ∉ owner.toList) (behind : String) :
    split (owner ++ "." ++ behind) = (owner, some behind) := by
  have htext : (owner ++ "." ++ behind).toList = owner.toList ++ '.' :: behind.toList := by simp
  have hinside : ∀ c ∈ owner.toList, decide (c ≠ '.') = true := by
    intro c hc
    simpa using fun heq : c = '.' => h (heq ▸ hc)
  rw [split, htext, List.dropWhile_append_of_pos hinside, List.takeWhile_append_of_pos hinside]
  simp

/-- A text without a dot is one part, and one with a dot is the parts before and behind it. -/
theorem split_cases (text : String) :
    ('.' ∉ text.toList ∧ split text = (text, none)) ∨
      ∃ owner behind, '.' ∉ owner.toList ∧ text = owner ++ "." ++ behind ∧
        split text = (owner, some behind) := by
  by_cases h : '.' ∈ text.toList
  · obtain ⟨before, behind, htext, hbefore⟩ := List.eq_append_cons_of_mem h
    have hwhole : text = String.ofList before ++ "." ++ String.ofList behind := by
      rw [← String.toList_inj, htext]
      simp
    have howner : '.' ∉ (String.ofList before).toList := by rwa [String.toList_ofList]
    exact .inr ⟨_, _, howner, hwhole, by rw [hwhole, split_append howner]⟩
  · exact .inl ⟨h, split_of_not_mem h⟩

end SignalName

/-! ## Names of outputs -/

theorem Pin.ofName?_eq_output_iff {text : String} {pin : OutputPin} :
    ofName? text = some (.output pin) ↔ pin.suffix? = some text := by
  rw [ofName?_eq_some_iff]
  constructor
  · rintro (⟨hname, -⟩ | ⟨index, hinput, -⟩)
    · exact hname
    · cases hinput
  · intro h
    exact .inl ⟨h, fun index hinput => by cases hinput⟩

namespace Device

variable {device : Device} {asked : Option Pin} {pin : OutputPin}

/-- A reference without a pin means the sole output, one with a pin an output of this name. -/
theorem Shaped.resolveOutput_eq_ok_iff (h : device.Shaped) :
    device.resolveOutput asked = .ok pin ↔
      device.hasOutput pin ∧ (asked = some (.output pin) ∨ (asked = none ∧ pin = .out)) := by
  rw [Device.resolveOutput_eq_ok_iff, hasOutput_iff_mem, h.outputs]
  cases device.kind <;> cases pin <;> simp [DeviceKind.outputPins, or_comm]

end Device

namespace SignalName

variable {network : Network} {text : String} {name : SignalName}

theorem text_eq_append {suffix : String} (h : name.pin.suffix? = some suffix) :
    name.text = name.device ++ "." ++ suffix := by
  rw [SignalName.text, h]

theorem text_of_out (h : name.pin = .out) : name.text = name.device := by
  rw [SignalName.text, h]
  rfl

theorem isAlphanum_or_dot_of_mem_text (h : ∀ c ∈ name.device.toList, c.isAlphanum) {c : Char}
    (hc : c ∈ name.text.toList) : c.isAlphanum ∨ c = '.' := by
  cases hpin : name.pin.suffix? with
  | none =>
      rw [SignalName.text, hpin] at hc
      exact .inl (h c hc)
  | some suffix =>
      have hsuffix : ∀ c ∈ suffix.toList, c.isAlphanum := by
        cases hname : name.pin with
        | out =>
            rw [hname] at hpin
            cases hpin
        | q | qBar =>
            rw [hname] at hpin
            cases hpin
            exact List.all_eq_true.1 (by decide)
      rw [text_eq_append hpin, String.toList_append, String.toList_append] at hc
      rcases List.mem_append.1 hc with hfront | hbehind
      · rcases List.mem_append.1 hfront with hdevice | hdot
        · exact .inl (h c hdevice)
        · exact .inr (List.mem_singleton.1 hdot)
      · exact .inl (hsuffix c hbehind)

theorem ofText?_of_split {owner : String} {pinText : Option String}
    (h : split text = (owner, pinText)) :
    ofText? network text = some name ↔ ∃ device asked, network.deviceNamed? owner = some device ∧
      asked.map some = pinText.map Pin.ofName? ∧ device.resolveOutput asked = .ok name.pin ∧
      owner = name.device := by
  have hoption {result : Except NetworkError OutputPin} {pin : OutputPin} :
      result.toOption = some pin ↔ result = .ok pin := by
    cases result <;> simp [Except.toOption]
  obtain ⟨device, pin⟩ := name
  unfold ofText?
  rw [h]
  cases pinText with
  | none => simp [Option.bind_eq_some_iff, hoption]
  | some behind => cases hpin : Pin.ofName? behind <;> simp [hpin, Option.bind_eq_some_iff, hoption]

theorem ofText?_eq_some_iff (hwired : network.Wired)
    (hdots : ∀ device ∈ network.devices, '.' ∉ device.name.toList) :
    ofText? network text = some name ↔ network.HasSignal name ∧ text = name.text := by
  have hfound {owner : String} {device : Device} (h : network.deviceNamed? owner = some device) :
      device.Shaped ∧ device.name = owner ∧ '.' ∉ owner.toList := by
    obtain ⟨⟨id, hid⟩, rfl⟩ := (Network.deviceNamed?_eq_some_iff hwired.names).1 h
    exact ⟨hwired.shaped hid, rfl, hdots device (List.mem_of_getElem? hid)⟩
  constructor
  · intro h
    rcases split_cases text with ⟨-, hsplit⟩ | ⟨owner, behind, -, htext, hsplit⟩
    · obtain ⟨device, asked, hdevice, hasked, hpin, rfl⟩ := (ofText?_of_split hsplit).1 h
      obtain ⟨hshaped, -, -⟩ := hfound hdevice
      obtain rfl : asked = none := by simpa using hasked
      obtain ⟨houtput, hnone | ⟨-, hout⟩⟩ := hshaped.resolveOutput_eq_ok_iff.1 hpin
      · cases hnone
      · exact ⟨⟨device, hdevice, houtput⟩, (text_of_out hout).symm⟩
    · obtain ⟨device, asked, hdevice, hasked, hpin, rfl⟩ := (ofText?_of_split hsplit).1 h
      obtain ⟨hshaped, -, -⟩ := hfound hdevice
      obtain ⟨houtput, hsome | ⟨hnone, -⟩⟩ := hshaped.resolveOutput_eq_ok_iff.1 hpin
      · rw [hsome] at hasked
        have hsuffix := Pin.ofName?_eq_output_iff.1 (Option.some.inj hasked.symm)
        exact ⟨⟨device, hdevice, houtput⟩, by rw [htext, text_eq_append hsuffix]⟩
      · rw [hnone] at hasked
        cases hasked
  · rintro ⟨⟨device, hdevice, houtput⟩, rfl⟩
    obtain ⟨hshaped, -, hdot⟩ := hfound hdevice
    cases hsuffix : name.pin.suffix? with
    | none =>
        have hout : name.pin = .out := by
          cases hpin : name.pin <;> simp [hpin, OutputPin.suffix?] at hsuffix ⊢
        rw [text_of_out hout]
        exact (ofText?_of_split (split_of_not_mem hdot)).2 ⟨device, none, hdevice, rfl,
          hshaped.resolveOutput_eq_ok_iff.2 ⟨houtput, .inr ⟨rfl, hout⟩⟩, rfl⟩
    | some suffix =>
        have hpin : Pin.ofName? suffix = some (.output name.pin) :=
          Pin.ofName?_eq_output_iff.2 hsuffix
        rw [text_eq_append hsuffix]
        exact (ofText?_of_split (split_append hdot suffix)).2 ⟨device, some (.output name.pin),
          hdevice, (congrArg some hpin).symm,
          hshaped.resolveOutput_eq_ok_iff.2 ⟨houtput, .inl rfl⟩, rfl⟩

end SignalName

namespace Network

variable {network other : Network}

theorem mem_signalNames {name : SignalName} : name ∈ network.signalNames ↔
    ∃ device ∈ network.devices, device.name = name.device ∧ device.hasOutput name.pin := by
  obtain ⟨owner, pin⟩ := name
  simp only [signalNames, List.mem_flatMap, List.mem_map, SignalName.mk.injEq,
    Device.hasOutput_iff_mem]
  constructor
  · rintro ⟨device, hdevice, same, hpin, hname, rfl⟩
    exact ⟨device, hdevice, hname, hpin⟩
  · rintro ⟨device, hdevice, hname, hpin⟩
    exact ⟨device, hdevice, pin, hpin, hname, rfl⟩

theorem Wired.hasSignal_iff (h : network.Wired) {name : SignalName} :
    network.HasSignal name ↔
      ∃ device ∈ network.devices, device.name = name.device ∧ device.hasOutput name.pin := by
  constructor
  · rintro ⟨device, hdevice, hpin⟩
    obtain ⟨⟨id, hid⟩, hname⟩ := (deviceNamed?_eq_some_iff h.names).1 hdevice
    exact ⟨device, List.mem_of_getElem? hid, hname, hpin⟩
  · rintro ⟨device, hdevice, hname, hpin⟩
    obtain ⟨id, hid⟩ := List.getElem?_of_mem hdevice
    exact ⟨device, (deviceNamed?_eq_some_iff h.names).2 ⟨⟨id, hid⟩, hname⟩, hpin⟩

theorem Wired.nodup_signalNames (h : network.Wired) : network.signalNames.Nodup := by
  refine List.nodup_flatMap.2 ⟨fun device hdevice => ?_, ?_⟩
  · obtain ⟨id, hid⟩ := List.getElem?_of_mem hdevice
    have hpins : device.outputs.pins.Nodup := by
      rw [(h.shaped hid).outputs]
      cases device.kind <;> simp [DeviceKind.outputPins]
    exact hpins.map fun _ _ heq => (SignalName.mk.inj heq).2
  · refine (List.pairwise_map.1 h.names).imp fun hne => ?_
    rintro name hleft hright
    obtain ⟨_, -, rfl⟩ := List.mem_map.1 hleft
    obtain ⟨_, -, heq⟩ := List.mem_map.1 hright
    exact hne (SignalName.mk.inj heq).1.symm

theorem Wired.nodup_texts (h : network.Wired)
    (hdots : ∀ device ∈ network.devices, '.' ∉ device.name.toList) :
    (network.signalNames.map SignalName.text).Nodup := by
  refine h.nodup_signalNames.map_on fun name hname other hother heq => ?_
  have hsome := (SignalName.ofText?_eq_some_iff h hdots).2
    ⟨h.hasSignal_iff.2 (mem_signalNames.1 hname), rfl⟩
  have hother := (SignalName.ofText?_eq_some_iff h hdots).2
    ⟨h.hasSignal_iff.2 (mem_signalNames.1 hother), heq⟩
  exact Option.some.inj (hsome.symm.trans hother)

theorem Wired.ofText?_of_bare_eq (h : network.Wired) (hbare : other.bare = network.bare)
    (hdots : ∀ device ∈ network.devices, '.' ∉ device.name.toList) (text : String) :
    SignalName.ofText? other text = SignalName.ofText? network text := by
  have hotherDots : ∀ device ∈ other.devices, '.' ∉ device.name.toList := by
    intro device hdevice
    have hname : device.name ∈ network.devices.map Device.name := by
      rw [← names_of_bare_eq hbare]
      exact List.mem_map_of_mem hdevice
    obtain ⟨same, hsame, heq⟩ := List.mem_map.1 hname
    rw [← heq]
    exact hdots same hsame
  refine Option.ext fun name => ?_
  rw [SignalName.ofText?_eq_some_iff h hdots,
    SignalName.ofText?_eq_some_iff (h.of_bare_eq hbare) hotherDots]
  exact and_congr_left fun _ => ⟨fun hold => hold.of_bare_eq hbare.symm,
    fun hnew => hnew.of_bare_eq hbare⟩

end Network

namespace Simulator

/-- A simulator and its network resolve the same texts, to the same outputs. -/
theorem resolveSignal_eq_ok_iff (simulator : Simulator) {text : String} {name : SignalName} :
    simulator.resolveSignal text = .ok name ↔
      SignalName.ofText? simulator.network text = some name := by
  unfold resolveSignal SignalName.ofText?
  obtain ⟨owner, pinText⟩ := SignalName.split text
  cases hdevice : simulator.network.deviceNamed? owner with
  | none => simp [hdevice]
  | some device =>
      cases pinText with
      | none => cases hpin : device.resolveOutput none <;> simp [hdevice, hpin, Except.toOption]
      | some behind =>
          cases hasked : Pin.ofName? behind with
          | none => simp [hdevice, hasked]
          | some pin =>
              cases hpin : device.resolveOutput (some pin) <;>
                simp [hdevice, hasked, hpin, Except.toOption]

end Simulator

namespace Names

/-- Nothing is lost by asking the table first, if the table knows all the devices. -/
theorem query_bind_deviceNamed? {names : Names} {network : Network}
    (h : ∀ device ∈ network.devices, ∃ handle, names.query device.name = some handle)
    (text : String) :
    ((names.query text).bind names.text?).bind network.deviceNamed? =
      network.deviceNamed? text := by
  cases hquery : names.query text with
  | some handle => rw [Option.bind_some, text?_of_query hquery, Option.bind_some]
  | none =>
      have habsent : network.deviceNamed? text = none := by
        refine List.find?_eq_none.2 fun device hdevice hname => ?_
        obtain ⟨handle, hhandle⟩ := h device hdevice
        rw [of_decide_eq_true hname, hquery] at hhandle
        cases hhandle
      rw [habsent]
      rfl

end Names

namespace Definition

theorem isAlphanum_of_hasSignal {source : String} {network : Network}
    (hbare : network.bare = (ofSource source).network.bare) {name : SignalName}
    (h : network.HasSignal name) {c : Char} (hc : c ∈ name.device.toList) : c.isAlphanum := by
  obtain ⟨device, hdevice, -⟩ := h.of_bare_eq hbare.symm
  have hunique := (built_ofSource source).wellWired.names
  obtain ⟨⟨id, hid⟩, hsame⟩ := (Network.deviceNamed?_eq_some_iff hunique).1 hdevice
  rw [← hsame] at hc
  exact isAlphanum_of_mem_name (List.mem_of_getElem? hid) hc

theorem not_dot_mem_of_mem_devices {source : String} {device : Device}
    (h : device ∈ (ofSource source).network.devices) : '.' ∉ device.name.toList := by
  intro hdot
  have halphanum := isAlphanum_of_mem_name h hdot
  revert halphanum
  decide

open Simulator in
/-- Signal names are addresses: a text is resolved exactly if it is the name of an output of a
device, and to that output. No two outputs have the same name. The table of names knows every
device, so that asking it first makes no difference, and a simulator, whatever has been done with
it, resolves the texts that the network resolves. -/
theorem signal_names_are_addresses (source : String) :
    let definition := ofSource source
    let network := definition.network
    (∀ device ∈ network.devices, '.' ∉ device.name.toList) ∧
    (∀ text name, SignalName.ofText? network text = some name ↔
      (∃ device ∈ network.devices, device.name = name.device ∧ device.hasOutput name.pin) ∧
        text = name.text) ∧
    (network.signalNames.map SignalName.text).Nodup ∧
    (∀ text, ((definition.names.query text).bind definition.names.text?).bind
      network.deviceNamed? = network.deviceNamed? text) ∧
    ∀ (maxPasses : Nat) (operations : List Operation) (text : String) (name : SignalName),
      let start := ofNetwork definition.names network definition.recorder maxPasses
      let simulator := (start.performAll operations).1
      (simulator.resolveSignal text = .ok name ↔
        SignalName.ofText? simulator.network text = some name) ∧
      SignalName.ofText? simulator.network text = SignalName.ofText? network text := by
  intro definition network
  have hwired : network.Wired := (built_ofSource source).wellWired.toWired
  have hdots : ∀ device ∈ network.devices, '.' ∉ device.name.toList :=
    fun _ => not_dot_mem_of_mem_devices
  refine ⟨hdots, fun text name => ?_, hwired.nodup_texts hdots, fun text => ?_, ?_⟩
  · rw [SignalName.ofText?_eq_some_iff hwired hdots, hwired.hasSignal_iff]
  · exact Names.query_bind_deviceNamed? (fun _ => exists_handle_of_mem_devices) text
  · intro maxPasses operations text name start simulator
    have hbare := (sameCircuit_performAll start operations).bare
    exact ⟨simulator.resolveSignal_eq_ok_iff, hwired.ofText?_of_bare_eq hbare hdots text⟩

end Definition

end LogicBench
