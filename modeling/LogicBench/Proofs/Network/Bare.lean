import LogicBench.Network.Order
import LogicBench.Network.Settle

/-!
# What a run does not touch

The bare form of a network keeps names, parameters and wiring and forgets everything that changes
while the network runs: outputs, inner states, the positions of switches, the number of cycles.
Every phase of a cycle leaves the bare form alone, and so does setting a switch; two networks of the
same bare form have the same evaluation order.
-/

namespace LogicBench

namespace PinMap

variable {κ α β : Type}

@[simp] theorem pins_map (map : PinMap κ α) (f : κ → β) :
    PinMap.pins (map.map fun entry => (entry.1, f entry.1)) = map.pins := by
  simp [pins]

variable [DecidableEq κ]

theorem get?_isSome (map : PinMap κ α) (pin : κ) : (map.get? pin).isSome ↔ pin ∈ map.pins :=
  has_iff_mem_pins map pin

theorem map_set (map : PinMap κ α) (f : κ → β) (pin : κ) (value : α) :
    (map.set pin value).map (fun entry => (entry.1, f entry.1)) =
      map.map fun entry => (entry.1, f entry.1) := by
  induction map with
  | nil => rfl
  | cons entry rest ih =>
      simp only [set]
      split
      · rfl
      · simp [ih]

end PinMap

/-- The kind without its inner state, a switch being off. -/
def DeviceKind.bare : DeviceKind → DeviceKind
  | switch _ => switch ⟨false⟩
  | kind => kind.reset

def Device.bare (device : Device) : Device :=
  { device with
    kind := device.kind.bare
    outputs := device.outputs.map fun entry => (entry.1, .low) }

/-- The network without anything that changes while it runs. -/
def Network.bare (network : Network) : Network :=
  { network with devices := network.devices.map Device.bare, cycle := 0 }

namespace DeviceKind

@[simp] theorem bare_reset (kind : DeviceKind) : kind.reset.bare = kind.bare := by
  cases kind <;> rfl

@[simp] theorem type_bare (kind : DeviceKind) : kind.bare.type = kind.type := by
  cases kind <;> rfl

@[simp] theorem inputPins_bare (kind : DeviceKind) : kind.bare.inputPins = kind.inputPins := by
  cases kind <;> rfl

@[simp] theorem outputPins_bare (kind : DeviceKind) : kind.bare.outputPins = kind.outputPins := by
  cases kind <;> rfl

end DeviceKind

namespace Device

@[simp] theorem name_bare (device : Device) : device.bare.name = device.name := rfl

@[simp] theorem inputs_bare (device : Device) : device.bare.inputs = device.inputs := rfl

@[simp] theorem kind_bare (device : Device) : device.bare.kind = device.kind.bare := rfl

@[simp] theorem pins_outputs_bare (device : Device) :
    device.bare.outputs.pins = device.outputs.pins :=
  PinMap.pins_map device.outputs fun _ => Signal.low

@[simp] theorem isCombinational_bare (device : Device) :
    device.bare.isCombinational = device.isCombinational := by
  simp [isCombinational, type]

@[simp] theorem driver?_bare (device : Device) : device.bare.driver? = device.driver? := rfl

theorem kind_of_bare_eq {device other : Device} (h : device.bare = other.bare) :
    device.kind.bare = other.kind.bare := by
  rw [← kind_bare, h, kind_bare]

theorem inputs_of_bare_eq {device other : Device} (h : device.bare = other.bare) :
    device.inputs = other.inputs := by
  rw [← inputs_bare, h, inputs_bare]

theorem driver?_of_bare_eq {device other : Device} (h : device.bare = other.bare) :
    device.driver? = other.driver? := by
  rw [← driver?_bare, h, driver?_bare]

theorem type_of_bare_eq {device other : Device} (h : device.bare = other.bare) :
    device.type = other.type := by
  rw [type, type, ← DeviceKind.type_bare, kind_of_bare_eq h, DeviceKind.type_bare]

theorem hasOutput_iff_mem (device : Device) (pin : OutputPin) :
    device.hasOutput pin ↔ pin ∈ device.outputs.pins :=
  PinMap.has_iff_mem_pins _ _

theorem hasInput_iff_mem (device : Device) (pin : InputPin) :
    device.hasInput pin ↔ pin ∈ device.inputs.pins :=
  PinMap.has_iff_mem_pins _ _

@[simp] theorem bare_coldStart (device : Device) : device.coldStart.bare = device.bare := by
  simp [bare, coldStart]

@[simp] theorem bare_setOutput (device : Device) (pin : OutputPin) (signal : Signal) :
    (device.setOutput pin signal).bare = device.bare := by
  have := PinMap.map_set device.outputs (fun _ => Signal.low) pin signal
  simp only [bare, setOutput, this]

@[simp] theorem bare_drive (device : Device) (pin : OutputPin) (isHigh : Bool) :
    (device.drive pin isHigh).bare = device.bare :=
  bare_setOutput _ _ _

theorem bare_withKind (device : Device) {kind : DeviceKind} (h : kind.bare = device.kind.bare) :
    ({ device with kind } : Device).bare = device.bare := by
  simp [bare, h]

@[simp] theorem bare_advance (device : Device) : device.advance.bare = device.bare := by
  unfold advance
  split
  · exact bare_drive _ _ _
  · next clock hkind =>
    rw [bare_drive]
    exact bare_withKind device (by simp [hkind, DeviceKind.bare, DeviceKind.reset, Clock.reset])
  · next generator hkind =>
    rw [bare_drive]
    exact bare_withKind device (by simp [hkind, DeviceKind.bare, DeviceKind.reset, Generator.reset])
  · rw [bare_drive, bare_drive]
  all_goals rfl

@[simp] theorem bare_latch (device : Device) (read : InputPin → Signal) :
    (device.latch read).bare = device.bare := by
  unfold latch
  split
  · next cell hkind => exact bare_withKind device (by rw [hkind]; rfl)
  · rfl

end Device

namespace Network

theorem device?_bare (network : Network) (id : DeviceId) :
    network.bare.device? id = (network.device? id).map Device.bare := by
  simp [device?, bare]

theorem device?_of_bare_eq {network other : Network} (h : network.bare = other.bare)
    {id : DeviceId} {device : Device} (hdevice : network.device? id = some device) :
    ∃ same, other.device? id = some same ∧ same.bare = device.bare := by
  have heq := congrArg (fun bare => bare.device? id) h
  simp only [device?_bare, hdevice, Option.map_some] at heq
  exact Option.map_eq_some_iff.1 heq.symm

theorem bare_setDevice {network : Network} {id : DeviceId} {old new : Device}
    (hold : network.device? id = some old) (h : new.bare = old.bare) :
    (network.setDevice id new).bare = network.bare := by
  obtain ⟨hlt, rfl⟩ := List.getElem?_eq_some_iff.1 hold
  have hbare : id < (network.devices.map Device.bare).length := by simpa using hlt
  have hset : (network.devices.map Device.bare).set id (network.devices.map Device.bare)[id] =
      network.devices.map Device.bare := List.set_getElem_self hbare
  rw [List.getElem_map] at hset
  simp [bare, setDevice, List.map_set, h, hset]

@[simp] theorem bare_coldStart (network : Network) : network.coldStart.bare = network.bare := by
  simp [bare, coldStart, Function.comp_def]

@[simp] theorem bare_advance (network : Network) : network.advance.bare = network.bare := by
  simp [bare, advance, Function.comp_def]

@[simp] theorem bare_finishCycle (network : Network) : network.finishCycle.bare = network.bare :=
  rfl

@[simp] theorem bare_update (network : Network) (id : DeviceId) :
    (network.update id).1.bare = network.bare := by
  unfold update
  split
  · rfl
  · next device hdevice =>
    split
    · rfl
    · split
      · exact bare_setDevice hdevice (Device.bare_setOutput _ _ _)
      · rfl

@[simp] theorem bare_pass (network : Network) (order : List DeviceId) :
    (network.pass order).1.bare = network.bare := by
  unfold pass
  generalize false = changed
  induction order generalizing network changed with
  | nil => rfl
  | cons id rest ih => rw [List.foldl_cons, ih, bare_update]

@[simp] theorem bare_settleFrom (order : List DeviceId) (fuel done : Nat) (network : Network) :
    (settleFrom order fuel done network).1.bare = network.bare := by
  induction fuel generalizing done network with
  | zero => rfl
  | succ fuel ih =>
      rw [settleFrom]
      split
      · next next hpass => simpa [hpass] using bare_pass network order
      · next next hpass =>
        rw [ih]
        simpa [hpass] using bare_pass network order

@[simp] theorem bare_settle (network : Network) (order : List DeviceId) (maxPasses : Nat) :
    (network.settle order maxPasses).1.bare = network.bare :=
  bare_settleFrom order maxPasses 0 network

@[simp] theorem bare_latchAt (network : Network) (id : DeviceId) :
    (network.latchAt id).bare = network.bare := by
  unfold latchAt
  split
  · rfl
  · next device hdevice => exact bare_setDevice hdevice (Device.bare_latch _ _)

@[simp] theorem bare_latches (network : Network) (ids : List DeviceId) :
    (ids.foldl latchAt network).bare = network.bare := by
  induction ids generalizing network with
  | nil => rfl
  | cons id rest ih => rw [List.foldl_cons, ih, bare_latchAt]

@[simp] theorem bare_latch (network : Network) : network.latch.bare = network.bare :=
  network.bare_latches _

theorem bare_of_setSwitch {network set : Network} {id : DeviceId} {state : Bool}
    (h : network.setSwitch id state = .ok set) : set.bare = network.bare := by
  unfold setSwitch at h
  split at h
  · next device hdevice =>
    split at h
    · next switch hkind =>
      cases h
      exact bare_setDevice hdevice (Device.bare_withKind device (by rw [hkind]; rfl))
    · cases h
  · cases h

theorem isCombinationalAt_bare (network : Network) :
    network.bare.isCombinationalAt = network.isCombinationalAt := by
  ext id
  rw [isCombinationalAt, isCombinationalAt, device?_bare]
  cases network.device? id <;> simp

theorem combinational_bare (network : Network) :
    network.bare.combinational = network.combinational := by
  have h := network.isCombinationalAt_bare
  unfold isCombinationalAt at h
  simp only [combinational, idsWhere, ids, funext_iff] at h ⊢
  simp only [h]
  simp [bare]

theorem feedersAt_bare (network : Network) : network.bare.feedersAt = network.feedersAt := by
  ext id
  rw [feedersAt, feedersAt, device?_bare]
  cases network.device? id with
  | none => rfl
  | some device => simp [feeders, isCombinationalAt_bare]

theorem evaluationPlan_bare (network : Network) :
    network.bare.evaluationPlan = network.evaluationPlan := by
  have hids : network.bare.ids = network.ids := by simp [ids, bare]
  have hdependents : network.bare.dependents = network.dependents := by
    ext id
    simp only [dependents, combinational_bare, feedersAt_bare]
  simp only [evaluationPlan, startWork, combinational_bare, feedersAt_bare, hids, hdependents]

theorem evaluationOrder_of_bare_eq {network other : Network} (h : network.bare = other.bare) :
    network.evaluationOrder = other.evaluationOrder := by
  rw [evaluationOrder, evaluationOrder, ← evaluationPlan_bare network, h, evaluationPlan_bare]

end Network

end LogicBench
