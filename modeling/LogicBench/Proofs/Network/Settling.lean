import LogicBench.Proofs.Network.EvaluationOrder

/-!
# Settled networks

A network has settled where each combinational output is the function of what the inputs read. One
pass in an order in which no device drives one before it settles the network, so that a second pass
changes nothing.
-/

namespace LogicBench

namespace Device

theorem isCombinational_of_evaluate {device : Device} {read : InputPin → Signal} {signal : Signal}
    (h : device.evaluate read = some signal) : device.isCombinational := by
  unfold evaluate at h
  cases hkind : device.kind with
  | gate _ _ | xor | not =>
      simp [isCombinational, type, hkind, DeviceKind.type, DeviceType.isCombinational]
  | _ => simp [hkind] at h

theorem Shaped.outputs_of_isCombinational {device : Device} (h : device.Shaped)
    (hcombinational : device.isCombinational) : device.outputs.pins = [.out] := by
  rw [h.outputs]
  simp only [isCombinational, type] at hcombinational
  cases hkind : device.kind with
  | flipFlop cell => simp [hkind, DeviceKind.type, DeviceType.isCombinational] at hcombinational
  | _ => rfl

theorem output?_isSome (device : Device) (pin : OutputPin) :
    (device.output? pin).isSome ↔ device.hasOutput pin := Iff.rfl

theorem output?_setOutput_self {device : Device} {pin : OutputPin} (h : device.hasOutput pin)
    (signal : Signal) : (device.setOutput pin signal).output? pin = some signal :=
  PinMap.get?_set_self h signal

end Device

namespace Network

/-- Whether the output of a device is up to date with its inputs, if it is combinational. -/
def SettledAt (network : Network) (id : DeviceId) : Prop :=
  ∀ device signal, network.device? id = some device →
    device.evaluate (network.reads device) = some signal → device.output? .out = some signal

def IsSettled (network : Network) : Prop :=
  ∀ id, network.SettledAt id

theorem device?_setDevice {network : Network} {id : DeviceId} {old : Device} (new : Device)
    (hold : network.device? id = some old) (other : DeviceId) :
    (network.setDevice id new).device? other =
      if other = id then some new else network.device? other :=
  device?_set new hold other

theorem update_of_settledAt {network : Network} {id : DeviceId} (h : network.SettledAt id) :
    network.update id = (network, false) := by
  unfold update
  split
  · rfl
  · next device hdevice =>
    split
    · rfl
    · next signal hsignal =>
      rw [h device signal hdevice hsignal]
      simp

theorem WellWired.update_cases {network : Network} (h : network.WellWired) (id : DeviceId) :
    (network.update id = (network, false) ∧ network.SettledAt id) ∨
      ∃ device signal, network.device? id = some device ∧
        device.evaluate (network.reads device) = some signal ∧
        network.update id = (network.setDevice id (device.setOutput .out signal), true) := by
  by_cases hsettled : network.SettledAt id
  · exact .inl ⟨update_of_settledAt hsettled, hsettled⟩
  · right
    simp only [SettledAt, not_forall] at hsettled
    obtain ⟨device, signal, hdevice, hsignal, hold⟩ := hsettled
    refine ⟨device, signal, hdevice, hsignal, ?_⟩
    have hout : device.hasOutput .out := by
      rw [Device.hasOutput_iff_mem, (h.shaped hdevice).outputs_of_isCombinational
        (Device.isCombinational_of_evaluate hsignal)]
      exact List.mem_singleton_self _
    obtain ⟨shown, hshown⟩ := Option.isSome_iff_exists.1 ((device.output?_isSome .out).2 hout)
    have hne : shown ≠ signal := by
      rintro rfl
      exact hold hshown
    simp [update, hdevice, hsignal, hshown, hne]

/-- What a combinational device reads is not affected by the update of a device that does not feed
it. -/
theorem WellWired.reads_update {network : Network} (h : network.WellWired) {id other : DeviceId}
    {device : Device} (hdevice : network.device? other = some device)
    (hcombinational : device.isCombinational) (hfeeds : id ∉ network.feedersAt other) :
    (network.update id).1.reads device = network.reads device := by
  rcases h.update_cases id with ⟨hsame, -⟩ | ⟨updated, signal, hupdated, hsignal, hupdate⟩
  · rw [hsame]
  · rw [hupdate]
    ext pin
    unfold reads
    cases hdriver : device.driver? pin with
    | none => rfl
    | some driver =>
        have hne : driver.device ≠ id := fun hid => hfeeds <| mem_feedersAt_iff.2
          ⟨isCombinationalAt_iff.2 ⟨updated, hupdated, Device.isCombinational_of_evaluate hsignal⟩,
            isCombinationalAt_iff.2 ⟨device, hdevice, hcombinational⟩, device, hdevice, pin, driver,
            hdriver, hid⟩
        simp only [Option.bind_some, signal?]
        rw [device?_setDevice _ hupdated, if_neg hne]

theorem WellWired.settledAt_update_self {network : Network} (h : network.WellWired)
    {id : DeviceId} (hself : id ∉ network.feedersAt id) : (network.update id).1.SettledAt id := by
  rcases h.update_cases id with ⟨hsame, hsettled⟩ | ⟨device, signal, hdevice, hsignal, hupdate⟩
  · rw [hsame]
    exact hsettled
  · intro updated shown hupdated hshown
    have hcombinational := Device.isCombinational_of_evaluate hsignal
    have hreads := h.reads_update hdevice hcombinational hself
    rw [hupdate] at hupdated hshown hreads
    rw [device?_setDevice _ hdevice, if_pos rfl] at hupdated
    cases hupdated
    have hout : device.hasOutput .out := by
      rw [Device.hasOutput_iff_mem, (h.shaped hdevice).outputs_of_isCombinational hcombinational]
      exact List.mem_singleton_self _
    have heq : device.evaluate (network.reads device) = some shown := by
      rw [← hreads]
      exact hshown
    rw [Device.output?_setOutput_self hout, ← hsignal, heq]

theorem WellWired.settledAt_update_of_not_mem {network : Network} (h : network.WellWired)
    {id other : DeviceId} (hfeeds : id ∉ network.feedersAt other)
    (hsettled : network.SettledAt other) : (network.update id).1.SettledAt other := by
  rcases h.update_cases id with ⟨hsame, -⟩ | ⟨device, signal, hdevice, hsignal, hupdate⟩
  · rw [hsame]
    exact hsettled
  · by_cases hother : other = id
    · subst hother
      rw [update_of_settledAt hsettled]
      exact hsettled
    · intro updated shown hupdated hshown
      have hsame : network.device? other = some updated := by
        rwa [hupdate, device?_setDevice _ hdevice, if_neg hother] at hupdated
      rw [h.reads_update hsame (Device.isCombinational_of_evaluate hshown) hfeeds] at hshown
      exact hsettled updated shown hsame hshown

@[simp] theorem pass_nil (network : Network) : network.pass [] = (network, false) := rfl

theorem foldl_changed {step : Network × Bool → DeviceId → Network × Bool}
    (hstep : ∀ now changed id,
      step (now, changed) id = ((now.update id).1, changed || (now.update id).2))
    (network : Network) (changed : Bool) (order : List DeviceId) :
    order.foldl step (network, changed) =
      ((order.foldl step (network, false)).1,
        changed || (order.foldl step (network, false)).2) := by
  induction order generalizing network changed with
  | nil => simp
  | cons id rest ih =>
      rw [List.foldl_cons, List.foldl_cons, hstep, hstep, ih, ih _ (false || _)]
      simp [Bool.or_assoc]

theorem pass_cons (network : Network) (id : DeviceId) (rest : List DeviceId) :
    network.pass (id :: rest) =
      (((network.update id).1.pass rest).1,
        (network.update id).2 || ((network.update id).1.pass rest).2) := by
  rw [pass, pass, List.foldl_cons, foldl_changed fun _ _ _ => rfl]
  rw [Bool.false_or]

theorem pass_of_settledAt {network : Network} {order : List DeviceId}
    (h : ∀ id ∈ order, network.SettledAt id) : network.pass order = (network, false) := by
  induction order with
  | nil => rfl
  | cons id rest ih =>
      have hupdate := update_of_settledAt (h id List.mem_cons_self)
      rw [pass_cons, hupdate, ih fun other hother => h other (List.mem_cons_of_mem _ hother)]
      rfl

theorem WellWired.settledAt_pass_of_not_mem {network : Network} (h : network.WellWired)
    {order : List DeviceId} {other : DeviceId}
    (hfeeds : ∀ id ∈ order, id ∉ network.feedersAt other) (hsettled : network.SettledAt other) :
    (network.pass order).1.SettledAt other := by
  induction order generalizing network with
  | nil => exact hsettled
  | cons id rest ih =>
      have hbare := network.bare_update id
      rw [pass_cons]
      apply ih (h.of_bare_eq hbare)
      · intro later hlater
        rw [← feedersAt_bare, hbare, feedersAt_bare]
        exact hfeeds later (List.mem_cons_of_mem _ hlater)
      · exact h.settledAt_update_of_not_mem (hfeeds id List.mem_cons_self) hsettled

/-- One pass settles every device of an order in which no device drives itself or one before it. -/
theorem WellWired.settledAt_pass {network : Network} (h : network.WellWired)
    {order : List DeviceId} (hself : ∀ id ∈ order, id ∉ network.feedersAt id)
    (horder : order.Pairwise fun earlier later => later ∉ network.feedersAt earlier) :
    ∀ id ∈ order, (network.pass order).1.SettledAt id := by
  induction order generalizing network with
  | nil => simp
  | cons first rest ih =>
      have hbare := network.bare_update first
      have hwired := h.of_bare_eq hbare
      have hfeeders : (network.update first).1.feedersAt = network.feedersAt := by
        rw [← feedersAt_bare, hbare, feedersAt_bare]
      obtain ⟨hfirst, hrest⟩ := List.pairwise_cons.1 horder
      rw [pass_cons]
      intro id hid
      rcases List.mem_cons.1 hid with rfl | hmem
      · refine hwired.settledAt_pass_of_not_mem ?_ (h.settledAt_update_self (hself _ hid))
        rwa [hfeeders]
      · refine ih hwired ?_ ?_ id hmem
        · rw [hfeeders]
          exact fun other hother => hself other (List.mem_cons_of_mem _ hother)
        · rwa [hfeeders]

end Network

end LogicBench
