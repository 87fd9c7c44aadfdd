import LogicBench.Proofs.Network.Settling

/-!
# The phases of a cycle, device by device

A pass changes outputs of combinational devices only. The flip-flops latch one after another, but
as latching changes no output, each of them sees what it would see if it were the first.
-/

namespace LogicBench

namespace Device

theorem outputs_latch (device : Device) (read : InputPin → Signal) :
    (device.latch read).outputs = device.outputs := by
  unfold latch
  split <;> rfl

theorem latch_of_type_ne {device : Device} (h : device.type ≠ .flipFlop)
    (read : InputPin → Signal) : device.latch read = device := by
  unfold latch
  split
  · next cell hkind => exact absurd (by rw [type, hkind]; rfl) h
  · rfl

end Device

namespace Network

@[simp] theorem cycle_advance (network : Network) : network.advance.cycle = network.cycle := rfl

@[simp] theorem cycle_update (network : Network) (id : DeviceId) :
    (network.update id).1.cycle = network.cycle := by
  unfold update
  split
  · rfl
  · split
    · rfl
    · split <;> rfl

@[simp] theorem cycle_pass (network : Network) (order : List DeviceId) :
    (network.pass order).1.cycle = network.cycle := by
  induction order generalizing network with
  | nil => rfl
  | cons id rest ih => rw [pass_cons, ih, cycle_update]

@[simp] theorem cycle_latchAt (network : Network) (id : DeviceId) :
    (network.latchAt id).cycle = network.cycle := by
  unfold latchAt
  split <;> rfl

@[simp] theorem cycle_latches (network : Network) (ids : List DeviceId) :
    (ids.foldl latchAt network).cycle = network.cycle := by
  induction ids generalizing network with
  | nil => rfl
  | cons id rest ih => rw [List.foldl_cons, ih, cycle_latchAt]

@[simp] theorem cycle_latch (network : Network) : network.latch.cycle = network.cycle :=
  network.cycle_latches _

theorem setSwitch_eq_ok_iff {network set : Network} {id : DeviceId} {state : Bool} :
    network.setSwitch id state = .ok set ↔
      ∃ device switch, network.device? id = some device ∧ device.kind = .switch switch ∧
        set = network.setDevice id { device with kind := .switch (switch.set state) } := by
  unfold setSwitch
  cases hdevice : network.device? id with
  | none => simp
  | some device => cases hkind : device.kind <;> simp [hkind, eq_comm]

theorem cycle_of_setSwitch {network set : Network} {id : DeviceId} {state : Bool}
    (h : network.setSwitch id state = .ok set) : set.cycle = network.cycle := by
  obtain ⟨device, switch, -, -, rfl⟩ := setSwitch_eq_ok_iff.1 h
  rfl

theorem device?_coldStart (network : Network) (id : DeviceId) :
    network.coldStart.device? id = (network.device? id).map Device.coldStart :=
  List.getElem?_map

theorem device?_advance (network : Network) (id : DeviceId) :
    network.advance.device? id = (network.device? id).map Device.advance := by
  simp [device?, advance]

theorem isCombinationalAt_of_bare_eq {network other : Network} (h : network.bare = other.bare) :
    network.isCombinationalAt = other.isCombinationalAt := by
  rw [← isCombinationalAt_bare, h, isCombinationalAt_bare]

theorem device?_update {network : Network} {id other : DeviceId} {updated : Device}
    (h : (network.update id).1.device? other = some updated) :
    ∃ old, network.device? other = some old ∧ updated.kind = old.kind ∧
      (¬ network.isCombinationalAt other → updated = old) := by
  unfold update at h
  split at h
  · exact ⟨updated, h, rfl, fun _ => rfl⟩
  · next device hdevice =>
    split at h
    · exact ⟨updated, h, rfl, fun _ => rfl⟩
    · next signal hsignal =>
      split at h
      · rw [device?_setDevice _ hdevice] at h
        split at h
        · next hother =>
          cases h
          subst hother
          refine ⟨device, hdevice, rfl, fun hsequential => absurd ?_ hsequential⟩
          exact isCombinationalAt_iff.2
            ⟨device, hdevice, Device.isCombinational_of_evaluate hsignal⟩
        · exact ⟨updated, h, rfl, fun _ => rfl⟩
      · exact ⟨updated, h, rfl, fun _ => rfl⟩

theorem device?_pass {network : Network} {order : List DeviceId} {other : DeviceId}
    {passed : Device} (h : (network.pass order).1.device? other = some passed) :
    ∃ old, network.device? other = some old ∧ passed.kind = old.kind ∧
      (¬ network.isCombinationalAt other → passed = old) := by
  induction order generalizing network with
  | nil => exact ⟨passed, h, rfl, fun _ => rfl⟩
  | cons id rest ih =>
      rw [pass_cons] at h
      obtain ⟨updated, hupdated, hkind, hsame⟩ := ih h
      obtain ⟨old, hold, holdKind, holdSame⟩ := device?_update hupdated
      rw [isCombinationalAt_of_bare_eq (network.bare_update id)] at hsame
      exact ⟨old, hold, hkind.trans holdKind, fun hsequential =>
        (hsame hsequential).trans (holdSame hsequential)⟩

theorem signal?_latchAt (network : Network) (id : DeviceId) :
    (network.latchAt id).signal? = network.signal? := by
  unfold latchAt
  split
  · rfl
  · next device hdevice =>
    ext driver
    unfold signal?
    rw [device?_setDevice _ hdevice]
    split
    · next hdriver =>
      rw [hdriver, hdevice]
      simp [Device.output?, Device.outputs_latch]
    · rfl

theorem reads_latchAt (network : Network) (id : DeviceId) :
    (network.latchAt id).reads = network.reads := by
  ext device pin
  rw [reads, reads, signal?_latchAt]

theorem device?_latchAt (network : Network) (id other : DeviceId) :
    (network.latchAt id).device? other = (network.device? other).map fun device =>
      if other = id then device.latch (network.reads device) else device := by
  unfold latchAt
  split
  · next hnone =>
    cases hdevice : network.device? other with
    | none => rfl
    | some device =>
        have hne : other ≠ id := by
          rintro rfl
          rw [hdevice] at hnone
          cases hnone
        simp [hne]
  · next device hdevice =>
    rw [device?_setDevice _ hdevice]
    by_cases hother : other = id
    · subst hother
      simp [hdevice]
    · simp [hother]

/-- Latching one after another is latching all at once, in whatever order. -/
theorem device?_latches (network : Network) {ids : List DeviceId} (hids : ids.Nodup)
    (other : DeviceId) :
    (ids.foldl latchAt network).device? other = (network.device? other).map fun device =>
      if other ∈ ids then device.latch (network.reads device) else device := by
  induction ids generalizing network with
  | nil => simp
  | cons id rest ih =>
      obtain ⟨hid, hrest⟩ := List.nodup_cons.1 hids
      rw [List.foldl_cons, ih _ hrest, reads_latchAt, device?_latchAt, Option.map_map]
      congr 1
      ext device
      by_cases hother : other = id
      · subst hother
        simp [hid]
      · simp [hother]

theorem device?_latch (network : Network) (other : DeviceId) :
    network.latch.device? other = (network.device? other).map fun device =>
      device.latch (network.reads device) := by
  have hnodup : (network.devicesOfType .flipFlop).Nodup := List.nodup_range.filter _
  rw [latch, device?_latches network hnodup]
  cases hdevice : network.device? other with
  | none => rfl
  | some device =>
      have hlt : other < network.devices.length := (List.getElem?_eq_some_iff.1 hdevice).1
      by_cases htype : device.type = .flipFlop
      · simp [devicesOfType, idsWhere, ids, hlt, hdevice, htype]
      · simp [devicesOfType, idsWhere, ids, hdevice, htype, Device.latch_of_type_ne]

theorem signal?_latch (network : Network) : network.latch.signal? = network.signal? := by
  ext driver
  rw [signal?, signal?, device?_latch]
  cases network.device? driver.device with
  | none => rfl
  | some device => simp [Device.output?, Device.outputs_latch]

end Network

end LogicBench
