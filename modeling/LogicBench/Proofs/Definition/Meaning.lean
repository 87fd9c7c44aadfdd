import LogicBench.Proofs.Definition.Drafting
import LogicBench.Proofs.Definition.Items
import LogicBench.Proofs.Network.Wiring
import LogicBench.Proofs.Text.Decimal

/-!
# What items mean

Which device a declaration describes and which output or input a reference names, said without the
order of the checks and without the causes of refusal.
-/

namespace LogicBench

inductive DeviceKind.DescribedBy : DeviceKind → DeviceType → Option String → Prop
  | gate {op : GateOp} {digits : String} (hlow : 1 ≤ Decimal.value digits)
      (hhigh : Decimal.value digits ≤ 16) :
      DescribedBy (.gate op (Decimal.value digits)) (.gate op) (some digits)
  | low : DescribedBy (.switch ⟨false⟩) .switch (some "0")
  | high : DescribedBy (.switch ⟨true⟩) .switch (some "1")
  | clock {digits : String} (h : 1 ≤ Decimal.value digits) :
      DescribedBy (.clock (.ofHalfPeriod (min (Decimal.value digits) Clock.maxHalfPeriod))) .clock
        (some digits)
  | generator {digits : String} (hsome : digits ≠ "")
      (hbits : ∀ c ∈ digits.toList, c = '0' ∨ c = '1') :
      DescribedBy (.generator (.ofWaveform (digits.toList.map (· == '1')))) .generator (some digits)
  | xor : DescribedBy .xor .xor none
  | not : DescribedBy .not .not none
  | flipFlop : DescribedBy (.flipFlop {}) .flipFlop none

theorem Generator.mapM_bit?_eq_some_iff {digits : List Char} {waveform : List Bool} :
    digits.mapM bit? = some waveform ↔
      (∀ c ∈ digits, c = '0' ∨ c = '1') ∧ waveform = digits.map (· == '1') := by
  have hbit (c : Char) (b : Bool) : bit? c = some b ↔ (c = '0' ∨ c = '1') ∧ b = (c == '1') := by
    unfold bit?
    split
    · simp [eq_comm]
    · simp [eq_comm]
    · next hzero hone =>
      constructor
      · intro h
        cases h
      · intro ⟨h, _⟩
        rcases h with h | h
        · exact absurd h hzero
        · exact absurd h hone
  induction digits generalizing waveform with
  | nil => simp [eq_comm]
  | cons c rest ih =>
      rw [List.mapM_cons, List.map_cons, List.forall_mem_cons]
      constructor
      · intro h
        obtain ⟨b, hb, h⟩ := Option.bind_eq_some_iff.1 h
        obtain ⟨behind, hbehind, h⟩ := Option.bind_eq_some_iff.1 h
        obtain ⟨hc, rfl⟩ := (hbit c b).1 hb
        obtain ⟨hrest, rfl⟩ := ih.1 hbehind
        exact ⟨⟨hc, hrest⟩, (Option.some.inj h).symm⟩
      · rintro ⟨⟨hc, hrest⟩, rfl⟩
        have hfirst := (hbit c _).2 ⟨hc, rfl⟩
        have hbehind := ih.2 ⟨hrest, rfl⟩
        rw [hfirst, hbehind]
        rfl

theorem Generator.ofBits?_eq_some_iff {digits : String} {generator : Generator} :
    ofBits? digits = some generator ↔ digits ≠ "" ∧ (∀ c ∈ digits.toList, c = '0' ∨ c = '1') ∧
      generator = .ofWaveform (digits.toList.map (· == '1')) := by
  unfold ofBits?
  by_cases hempty : digits = ""
  · simp [hempty]
  · have hsome : digits.isEmpty = false := by simpa using hempty
    rw [hsome, if_neg (by decide), Option.map_eq_some_iff]
    constructor
    · rintro ⟨waveform, hwaveform, rfl⟩
      obtain ⟨hbits, rfl⟩ := mapM_bit?_eq_some_iff.1 hwaveform
      exact ⟨hempty, hbits, rfl⟩
    · rintro ⟨-, hbits, rfl⟩
      exact ⟨_, mapM_bit?_eq_some_iff.2 ⟨hbits, rfl⟩, rfl⟩

namespace DeviceKind

open Decimal in
theorem gateOfArity_eq_ok_iff {op : GateOp} {digits : String} {kind : DeviceKind}
    (h : ∀ c ∈ digits.toList, c.isDigit) : gateOfArity op (count digits) = .ok kind ↔
      kind.DescribedBy (.gate op) (some digits) := by
  have hcount := count_eq_min_value h
  have hbound : 16 < maxCount := by decide
  have hmax : maxGateInputs = 16 := rfl
  unfold gateOfArity
  rw [hmax]
  by_cases hrange : 1 ≤ value digits ∧ value digits ≤ 16
  · have hsame : count digits = value digits := by omega
    rw [hsame, if_pos hrange]
    constructor
    · intro heq
      cases heq
      exact .gate hrange.1 hrange.2
    · intro hdescribed
      cases hdescribed
      rfl
  · rw [if_neg (by omega)]
    constructor
    · intro heq
      cases heq
    · intro hdescribed
      cases hdescribed with
      | gate hlow hhigh => exact absurd ⟨hlow, hhigh⟩ hrange

theorem switchOfBit_eq_ok_iff {digits : String} {kind : DeviceKind} :
    switchOfBit digits = .ok kind ↔ kind.DescribedBy .switch (some digits) := by
  unfold switchOfBit
  constructor
  · intro heq
    split at heq
    · next hzero =>
      cases heq
      rw [hzero]
      exact .low
    · split at heq
      · next hone =>
        cases heq
        rw [hone]
        exact .high
      · cases heq
  · intro hdescribed
    cases hdescribed with
    | low => rfl
    | high => rfl

open Decimal in
theorem clockOfHalfPeriod_eq_ok_iff {digits : String} {kind : DeviceKind}
    (h : ∀ c ∈ digits.toList, c.isDigit) : clockOfHalfPeriod (count digits) = .ok kind ↔
      kind.DescribedBy .clock (some digits) := by
  have hcount := count_eq_min_value h
  have hcut : min (count digits) Clock.maxHalfPeriod = min (value digits) Clock.maxHalfPeriod := by
    have hbound : Clock.maxHalfPeriod ≤ maxCount := by decide
    omega
  have hbound : 1 ≤ maxCount := by decide
  unfold clockOfHalfPeriod
  rw [hcut]
  by_cases hzero : value digits = 0
  · rw [if_pos (by omega)]
    constructor
    · intro heq
      cases heq
    · intro hdescribed
      cases hdescribed with
      | clock hlow => omega
  · rw [if_neg (by omega)]
    constructor
    · intro heq
      cases heq
      exact .clock (by omega)
    · intro hdescribed
      cases hdescribed
      rfl

theorem generatorOfBits_eq_ok_iff {digits : String} {kind : DeviceKind} :
    generatorOfBits digits = .ok kind ↔ kind.DescribedBy .generator (some digits) := by
  unfold generatorOfBits
  constructor
  · intro heq
    split at heq
    · next generator hread =>
      cases heq
      obtain ⟨hsome, hbits, rfl⟩ := Generator.ofBits?_eq_some_iff.1 hread
      exact .generator hsome hbits
    · cases heq
  · intro hdescribed
    cases hdescribed with
    | generator hsome hbits => rw [Generator.ofBits?_eq_some_iff.2 ⟨hsome, hbits, rfl⟩]

theorem ofDeclaration_eq_ok_iff {type : DeviceType} {qualifier : Option String} {kind : DeviceKind}
    (h : ∀ digits ∈ qualifier, ∀ c ∈ digits.toList, c.isDigit) :
    ofDeclaration type qualifier = .ok kind ↔ kind.DescribedBy type qualifier := by
  cases qualifier with
  | some digits =>
      have hdigits := h digits rfl
      cases type with
      | gate op => exact gateOfArity_eq_ok_iff hdigits
      | switch => exact switchOfBit_eq_ok_iff
      | clock => exact clockOfHalfPeriod_eq_ok_iff hdigits
      | generator => exact generatorOfBits_eq_ok_iff
      | xor | not | flipFlop =>
          constructor
          · intro heq
            cases heq
          · intro hdescribed
            cases hdescribed
  | none =>
      cases type with
      | xor | not | flipFlop =>
          constructor
          · intro heq
            cases heq
            constructor
          · intro hdescribed
            cases hdescribed
            rfl
      | _ =>
          constructor
          · intro heq
            cases heq
          · intro hdescribed
            cases hdescribed

end DeviceKind

namespace PinMap

theorem sole?_eq_some_iff {κ α : Type} {map : PinMap κ α} {pin : κ} :
    map.sole? = some pin ↔ map.pins = [pin] := by
  cases map with
  | nil => simp [sole?, pins]
  | cons entry rest =>
      cases rest with
      | nil => simp [sole?, pins]
      | cons second rest => simp [sole?, pins]

end PinMap

namespace Device

theorem resolveOutput_eq_ok_iff {device : Device} {asked : Option Pin} {pin : OutputPin} :
    device.resolveOutput asked = .ok pin ↔ (asked = none ∧ device.outputs.pins = [pin]) ∨
      (asked = some (.output pin) ∧ pin ∈ device.outputs.pins) := by
  unfold resolveOutput
  split
  · rw [← PinMap.sole?_eq_some_iff]
    split
    · next sole hsole => simp [hsole]
    · next hsole => simp [hsole]
  · next named =>
    have hmem := device.hasOutput_iff_mem named
    by_cases hpin : device.hasOutput named
    · have hnamed := hmem.1 hpin
      simp only [hpin, if_true, Except.ok.injEq, Option.some.injEq, Pin.output.injEq, reduceCtorEq,
        false_and, false_or]
      constructor
      · rintro rfl
        exact ⟨rfl, hnamed⟩
      · intro h
        exact h.1
    · simp only [hpin, Option.some.injEq, Pin.output.injEq, reduceCtorEq, false_and, false_or]
      constructor
      · intro h
        cases h
      · rintro ⟨rfl, hnamed⟩
        exact absurd (hmem.2 hnamed) hpin
  · split <;> simp

theorem resolveInput_eq_ok_iff {device : Device} {asked : Option Pin} {pin : InputPin} :
    device.resolveInput asked = .ok pin ↔ (asked = none ∧ device.inputs.pins = [pin]) ∨
      (asked = some (.input pin) ∧ pin ∈ device.inputs.pins) := by
  unfold resolveInput
  split
  · next hempty =>
    have hpins : device.inputs.pins = [] := by
      rw [List.isEmpty_iff.1 hempty]
      rfl
    simp [hpins]
  · split
    · rw [← PinMap.sole?_eq_some_iff]
      split
      · next sole hsole => simp [hsole]
      · next hsole => simp [hsole]
    · next named =>
      have hmem := device.hasInput_iff_mem named
      by_cases hpin : device.hasInput named
      · have hnamed := hmem.1 hpin
        simp only [hpin, if_true, Except.ok.injEq, Option.some.injEq, Pin.input.injEq, reduceCtorEq,
          false_and, false_or]
        constructor
        · rintro rfl
          exact ⟨rfl, hnamed⟩
        · intro h
          exact h.1
      · simp only [hpin, Option.some.injEq, Pin.input.injEq, reduceCtorEq, false_and, false_or]
        constructor
        · intro h
          cases h
        · rintro ⟨rfl, hnamed⟩
          exact absurd (hmem.2 hnamed) hpin
    · split <;> simp

theorem get?_eq_some_none_iff {device : Device} {pin : InputPin} :
    device.inputs.get? pin = some none ↔ pin ∈ device.inputs.pins ∧ device.driver? pin = none := by
  rw [← PinMap.get?_isSome, driver?]
  cases device.inputs.get? pin with
  | none => simp
  | some value => simp

end Device

namespace Network

theorem deviceId?_eq_some_iff {network : Network} (h : (network.devices.map Device.name).Nodup)
    {name : String} {id : DeviceId} : network.deviceId? name = some id ↔
      ∃ device, network.device? id = some device ∧ device.name = name := by
  constructor
  · intro hid
    obtain ⟨hlt, hname, -⟩ := List.findIdx?_eq_some_iff_getElem.1 hid
    exact ⟨_, List.getElem?_eq_getElem hlt, by simpa using hname⟩
  · rintro ⟨device, hdevice, rfl⟩
    obtain ⟨hlt, rfl⟩ := List.getElem?_eq_some_iff.1 hdevice
    refine List.findIdx?_eq_some_iff_getElem.2 ⟨hlt, by simp, ?_⟩
    intro other hother hname
    -- An earlier device of this name would be the same one.
    have hotherLt : other < network.devices.length := Nat.lt_trans hother hlt
    have hne := List.pairwise_iff_getElem.1 h other id (by simpa using hotherLt)
      (by simpa using hlt) hother
    exact hne (by simpa using hname)

theorem findDevice?_eq_some_iff {network : Network} (h : (network.devices.map Device.name).Nodup)
    {name : String} {id : DeviceId} {device : Device} :
    network.findDevice? name = some (id, device) ↔
      network.device? id = some device ∧ device.name = name := by
  unfold findDevice?
  rw [Option.bind_eq_some_iff]
  constructor
  · rintro ⟨found, hfound, hpair⟩
    obtain ⟨same, hsame, heq⟩ := Option.map_eq_some_iff.1 hpair
    cases heq
    obtain ⟨named, hnamed, hname⟩ := (deviceId?_eq_some_iff h).1 hfound
    cases hsame.symm.trans hnamed
    exact ⟨hsame, hname⟩
  · rintro ⟨hdevice, hname⟩
    exact ⟨id, (deviceId?_eq_some_iff h).2 ⟨device, hdevice, hname⟩, by rw [hdevice]; rfl⟩

theorem deviceNamed?_eq_bind (network : Network) (name : String) :
    network.deviceNamed? name = (network.deviceId? name).bind network.device? := by
  unfold deviceNamed? deviceId? device?
  rw [List.find?_eq_bind_findIdx?_getElem?]

theorem deviceNamed?_eq_some_iff {network : Network} (h : (network.devices.map Device.name).Nodup)
    {name : String} {device : Device} : network.deviceNamed? name = some device ↔
      (∃ id, network.device? id = some device) ∧ device.name = name := by
  rw [deviceNamed?_eq_bind, Option.bind_eq_some_iff]
  constructor
  · rintro ⟨id, hid, hdevice⟩
    obtain ⟨same, hsame, hname⟩ := (deviceId?_eq_some_iff h).1 hid
    cases hdevice.symm.trans hsame
    exact ⟨⟨id, hdevice⟩, hname⟩
  · rintro ⟨⟨id, hdevice⟩, hname⟩
    exact ⟨id, (deviceId?_eq_some_iff h).2 ⟨device, hdevice, hname⟩, hdevice⟩

end Network

namespace Reference

variable {network : Network} {reference : Reference} {id : DeviceId}

/-- Whether a reference names a pin among some of the pins of a device. A reference without a pin
names the only one there is. -/
def Names {κ : Type} (network : Network) (pins : Device → List κ) (ofPin : κ → Pin)
    (reference : Reference) (id : DeviceId) (pin : κ) : Prop :=
  ∃ device, network.device? id = some device ∧ device.name = reference.device ∧
    match reference.pin with
    | none => pins device = [pin]
    | some text => Pin.ofName? text = some (ofPin pin) ∧ pin ∈ pins device

def NamesOutput (network : Network) (reference : Reference) (driver : Driver) : Prop :=
  reference.Names network (·.outputs.pins) .output driver.device driver.pin

def NamesInput (network : Network) (reference : Reference) (id : DeviceId) (pin : InputPin) :
    Prop :=
  reference.Names network (·.inputs.pins) .input id pin

theorem locate_eq_ok_iff (h : (network.devices.map Device.name).Nodup) {device : Device}
    {asked : Option Pin} : reference.locate network = .ok (id, device, asked) ↔
      network.device? id = some device ∧ device.name = reference.device ∧
        reference.pin.map Pin.ofName? = asked.map some := by
  rw [← and_assoc, ← Network.findDevice?_eq_some_iff h]
  unfold locate
  cases hfind : network.findDevice? reference.device with
  | none => simp
  | some found =>
      obtain ⟨place, same⟩ := found
      cases hpin : reference.pin with
      | none => cases asked <;> simp
      | some text =>
          cases hname : Pin.ofName? text with
          | none => cases asked <;> simp [hname]
          | some named => cases asked <;> simp [hname, and_assoc]

theorem locate_resolve_iff {κ : Type} {pins : Device → List κ} {ofPin : κ → Pin}
    {resolve : Device → Option Pin → Except NetworkError κ}
    (hresolve : ∀ device asked pin, resolve device asked = .ok pin ↔
      (asked = none ∧ pins device = [pin]) ∨ (asked = some (ofPin pin) ∧ pin ∈ pins device))
    (h : (network.devices.map Device.name).Nodup) {pin : κ} :
    (∃ device asked, reference.locate network = .ok (id, device, asked) ∧
      resolve device asked = .ok pin) ↔ reference.Names network pins ofPin id pin := by
  constructor
  · rintro ⟨device, asked, hlocate, hfound⟩
    obtain ⟨hdevice, hname, hasked⟩ := (locate_eq_ok_iff h).1 hlocate
    refine ⟨device, hdevice, hname, ?_⟩
    rcases (hresolve _ _ _).1 hfound with ⟨rfl, hsole⟩ | ⟨rfl, hmem⟩
    · rw [show reference.pin = none by simpa using hasked]
      exact hsole
    · obtain ⟨text, htext, hnamed⟩ := Option.map_eq_some_iff.1 hasked
      rw [htext]
      exact ⟨hnamed, hmem⟩
  · rintro ⟨device, hdevice, hname, hpin⟩
    cases htext : reference.pin with
    | none =>
        rw [htext] at hpin
        exact ⟨device, none, (locate_eq_ok_iff h).2 ⟨hdevice, hname, by rw [htext]; rfl⟩,
          (hresolve _ _ _).2 (.inl ⟨rfl, hpin⟩)⟩
    | some text =>
        rw [htext] at hpin
        have hasked : reference.pin.map Pin.ofName? = (some (ofPin pin)).map some := by
          rw [htext, Option.map_some, hpin.1]
          rfl
        exact ⟨device, some (ofPin pin), (locate_eq_ok_iff h).2 ⟨hdevice, hname, hasked⟩,
          (hresolve _ _ _).2 (.inr ⟨rfl, hpin.2⟩)⟩

theorem driver_eq_ok_iff (h : (network.devices.map Device.name).Nodup) {output : Driver} :
    reference.driver network = .ok output ↔ reference.NamesOutput network output := by
  have hresolve : ∀ device asked pin, Device.resolveOutput device asked = .ok pin ↔ _ :=
    fun _ _ _ => Device.resolveOutput_eq_ok_iff
  refine .trans ?_ (locate_resolve_iff hresolve h)
  unfold Reference.driver
  rw [except_bind_eq_ok_iff]
  constructor
  · rintro ⟨⟨id, device, asked⟩, hlocate, hrest⟩
    obtain ⟨pin, hpin, heq⟩ := except_bind_eq_ok_iff.1 hrest
    cases heq
    exact ⟨device, asked, hlocate, hpin⟩
  · rintro ⟨device, asked, hlocate, hpin⟩
    exact ⟨_, hlocate, except_bind_eq_ok_iff.2 ⟨_, hpin, rfl⟩⟩

theorem target_eq_ok_iff (h : (network.devices.map Device.name).Nodup) {pin : InputPin} :
    reference.target network = .ok (id, pin) ↔ reference.NamesInput network id pin := by
  have hresolve : ∀ device asked pin, Device.resolveInput device asked = .ok pin ↔ _ :=
    fun _ _ _ => Device.resolveInput_eq_ok_iff
  refine .trans ?_ (locate_resolve_iff hresolve h)
  unfold target
  rw [except_bind_eq_ok_iff]
  constructor
  · rintro ⟨⟨place, device, asked⟩, hlocate, hrest⟩
    obtain ⟨found, hfound, heq⟩ := except_bind_eq_ok_iff.1 hrest
    cases heq
    exact ⟨device, asked, hlocate, hfound⟩
  · rintro ⟨device, asked, hlocate, hpin⟩
    exact ⟨_, hlocate, except_bind_eq_ok_iff.2 ⟨_, hpin, rfl⟩⟩

theorem NamesOutput.hasOutput {output : Driver} (h : reference.NamesOutput network output) :
    network.HasOutput output := by
  obtain ⟨device, hdevice, -, hpin⟩ := h
  refine ⟨device, hdevice, (device.hasOutput_iff_mem _).2 ?_⟩
  split at hpin
  · rw [show device.outputs.pins = [output.pin] from hpin]
    exact List.mem_singleton_self _
  · exact hpin.2

theorem NamesInput.mem {pin : InputPin} {device : Device} (h : reference.NamesInput network id pin)
    (hdevice : network.device? id = some device) : pin ∈ device.inputs.pins := by
  obtain ⟨same, hsame, -, hpin⟩ := h
  cases hdevice.symm.trans hsame
  split at hpin
  · rw [show device.inputs.pins = [pin] from hpin]
    exact List.mem_singleton_self _
  · exact hpin.2

theorem NamesOutput.deviceNamed? {output : Driver} (h : reference.NamesOutput network output)
    (hnames : (network.devices.map Device.name).Nodup) :
    ∃ device, network.deviceNamed? reference.device = some device ∧
      device.hasOutput output.pin := by
  obtain ⟨device, hdevice, hpin⟩ := h.hasOutput
  obtain ⟨same, hsame, hname, -⟩ := h
  cases hdevice.symm.trans hsame
  exact ⟨device, (Network.deviceNamed?_eq_some_iff hnames).2 ⟨⟨_, hdevice⟩, hname⟩, hpin⟩

end Reference

theorem Recorder.add_eq_ok_iff {recorder next : Recorder} {network : Network} {name : SignalName} :
    recorder.add network name = .ok next ↔
      (∃ device, network.deviceNamed? name.device = some device ∧ device.hasOutput name.pin) ∧
        name ∉ recorder.points ∧ recorder.points.length < 16 ∧
        next = { recorder with
          entries := recorder.entries ++ [(name, { startCycle := network.cycle })] } := by
  have hsize : recorder.points.length = recorder.size := by simp [points, size]
  have hcontains : recorder.contains name = true ↔ name ∈ recorder.points := List.contains_iff_mem
  rw [hsize]
  unfold add
  cases hdevice : network.deviceNamed? name.device with
  | none => simp
  | some device =>
      by_cases hpin : device.hasOutput name.pin
      · by_cases hnew : name ∈ recorder.points
        · simp [hpin, hcontains.2 hnew, hnew]
        · have hfresh : recorder.contains name = false :=
            Bool.eq_false_iff.2 fun h => hnew (hcontains.1 h)
          by_cases hroom : recorder.size < 16
          · have hmax : ¬ maxMonitors ≤ recorder.size := Nat.not_le_of_lt hroom
            simp [hpin, hfresh, hnew, hroom, hmax]
            exact eq_comm
          · have hmax : maxMonitors ≤ recorder.size := Nat.le_of_not_lt hroom
            simp [hpin, hfresh, hroom, hmax]
      · simp [hpin]

end LogicBench
