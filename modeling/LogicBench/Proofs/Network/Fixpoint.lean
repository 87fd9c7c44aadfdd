import LogicBench.Proofs.Network.Phases

/-!
# Settling with feedback

With feedback there is no order to argue along. What is known of a settled network comes from its
last pass: an update that changes an output says so, hence a pass without a change has found every
device of its order up to date and has left the network as it was. Settling as a whole is a row of
updates, and keeps what one update keeps.
-/

namespace LogicBench.Network

variable {network settled : Network} {order : List DeviceId} {maxPasses passes : Nat}

/-! ## What updates keep -/

theorem pass_induction {motive : Network → Prop}
    (update : ∀ {now : Network}, ∀ id ∈ order, motive now → motive (now.update id).1)
    (h : motive network) : motive (network.pass order).1 := by
  induction order generalizing network with
  | nil => exact h
  | cons id rest ih =>
      rw [pass_cons]
      exact ih (fun other hother => update other (List.mem_cons_of_mem _ hother))
        (update id List.mem_cons_self h)

/-- What every update of a listed device keeps, settling keeps, whether it succeeds or not. -/
theorem settle_induction {motive : Network → Prop}
    (update : ∀ {now : Network}, ∀ id ∈ order, motive now → motive (now.update id).1)
    (h : motive network) (maxPasses : Nat) : motive (network.settle order maxPasses).1 := by
  unfold settle
  generalize 0 = done
  induction maxPasses generalizing network done with
  | zero => exact h
  | succ fuel ih =>
      have hpass := pass_induction update h
      rw [settleFrom]
      split
      · next next hquiet =>
        rw [hquiet] at hpass
        exact hpass
      · next next hbusy =>
        rw [hbusy] at hpass
        exact ih hpass _

@[simp] theorem cycle_settle (network : Network) (order : List DeviceId) (maxPasses : Nat) :
    (network.settle order maxPasses).1.cycle = network.cycle := by
  apply settle_induction (motive := fun now => now.cycle = network.cycle)
  · intro now id _ h
    rw [cycle_update, h]
  · rfl

/-- A network that updates may have made from another one: the inner states are the same, and
sources and flip-flops altogether. -/
structure UpdatedFrom (now network : Network) : Prop where
  bare : now.bare = network.bare
  device : ∀ {id last}, now.device? id = some last → ∃ old, network.device? id = some old ∧
    last.kind = old.kind ∧ (¬ network.isCombinationalAt id → last = old)

theorem UpdatedFrom.update {now : Network} (h : now.UpdatedFrom network) (id : DeviceId) :
    (now.update id).1.UpdatedFrom network := by
  refine ⟨(bare_update now id).trans h.bare, fun hlast => ?_⟩
  obtain ⟨middle, hmiddle, hkind, hsame⟩ := device?_update hlast
  obtain ⟨old, hold, holdKind, holdSame⟩ := h.device hmiddle
  rw [isCombinationalAt_of_bare_eq h.bare] at hsame
  exact ⟨old, hold, hkind.trans holdKind, fun hsequential =>
    (hsame hsequential).trans (holdSame hsequential)⟩

theorem updatedFrom_settle (network : Network) (order : List DeviceId) (maxPasses : Nat) :
    (network.settle order maxPasses).1.UpdatedFrom network := by
  apply settle_induction (motive := fun now => now.UpdatedFrom network)
  · exact fun id _ h => h.update id
  · exact ⟨rfl, fun hlast => ⟨_, hlast, rfl, fun _ => rfl⟩⟩

/-! ## The last pass -/

theorem WellWired.pass_unchanged (h : network.WellWired)
    (hpass : network.pass order = (settled, false)) :
    settled = network ∧ ∀ id ∈ order, network.SettledAt id := by
  induction order with
  | nil =>
      cases hpass
      exact ⟨rfl, fun id hid => nomatch hid⟩
  | cons first rest ih =>
      rw [pass_cons, Prod.mk.injEq, Bool.or_eq_false_iff] at hpass
      obtain ⟨hnext, hfirst, hrest⟩ := hpass
      rcases h.update_cases first with ⟨hsame, hsettled⟩ | ⟨device, signal, -, -, hupdate⟩
      · rw [hsame] at hnext hrest
        obtain ⟨heq, hmem⟩ := ih (Prod.ext hnext hrest)
        exact ⟨heq, List.forall_mem_cons.2 ⟨hsettled, hmem⟩⟩
      · -- A written output is a change.
        rw [hupdate] at hfirst
        cases hfirst

theorem WellWired.settledAt_of_settle (h : network.WellWired)
    (hsettle : network.settle order maxPasses = (settled, some passes)) :
    ∀ id ∈ order, settled.SettledAt id := by
  unfold settle at hsettle
  generalize 0 = done at hsettle
  induction maxPasses generalizing network done with
  | zero => cases hsettle
  | succ fuel ih =>
      rw [settleFrom] at hsettle
      split at hsettle
      · next next hquiet =>
        cases hsettle
        obtain ⟨rfl, hmem⟩ := h.pass_unchanged hquiet
        exact hmem
      · next next hbusy =>
        have hbare : next.bare = network.bare := by
          rw [← network.bare_pass order, hbusy]
        exact ih (h.of_bare_eq hbare) _ hsettle

theorem settle_of_settledAt (h : ∀ id ∈ order, network.SettledAt id) (hpasses : 0 < maxPasses) :
    network.settle order maxPasses = (network, some 1) := by
  obtain ⟨fuel, rfl⟩ := Nat.exists_eq_add_of_le' hpasses
  rw [settle, settleFrom, pass_of_settledAt h]

theorem settle_of_isSettled_pass (h : (network.pass order).1.IsSettled) (hpasses : 2 ≤ maxPasses) :
    ∃ passes, passes ≤ 2 ∧
      network.settle order maxPasses = ((network.pass order).1, some passes) := by
  obtain ⟨more, rfl⟩ := Nat.exists_eq_add_of_le' hpasses
  have hagain : (network.pass order).1.pass order = ((network.pass order).1, false) :=
    pass_of_settledAt fun id _ => h id
  unfold settle settleFrom
  cases hpass : network.pass order with
  | mk next changed =>
      cases changed with
      | false => exact ⟨1, by decide, rfl⟩
      | true =>
          rw [hpass] at hagain
          refine ⟨2, Nat.le_refl 2, ?_⟩
          simp only [settleFrom, hagain]

theorem WellWired.isSettled_of_settle (h : network.WellWired)
    (horder : ∀ id, network.isCombinationalAt id → id ∈ order)
    (hsettle : network.settle order maxPasses = (settled, some passes)) : settled.IsSettled := by
  have hbare : settled.bare = network.bare := by
    rw [← network.bare_settle order maxPasses, hsettle]
  intro id device signal hdevice hsignal
  have hcombinational : network.isCombinationalAt id := by
    rw [← isCombinationalAt_of_bare_eq hbare]
    exact isCombinationalAt_iff.2 ⟨device, hdevice, Device.isCombinational_of_evaluate hsignal⟩
  exact h.settledAt_of_settle hsettle id (horder id hcombinational) device signal hdevice hsignal

/-! ## Latching in any order -/

theorem eq_of_device? {left right : Network} (hdevice : left.device? = right.device?)
    (hwires : left.wires = right.wires) (hcycle : left.cycle = right.cycle) : left = right := by
  obtain ⟨leftDevices, leftWires, leftCycle⟩ := left
  obtain ⟨rightDevices, rightWires, rightCycle⟩ := right
  obtain rfl : leftWires = rightWires := hwires
  obtain rfl : leftCycle = rightCycle := hcycle
  obtain rfl : leftDevices = rightDevices := List.ext_getElem? (congrFun hdevice)
  rfl

theorem latch_eq_foldl_of_perm {ids : List DeviceId}
    (h : ids.Perm (network.devicesOfType .flipFlop)) :
    ids.foldl latchAt network = network.latch := by
  have hlisted : (network.devicesOfType .flipFlop).Nodup := List.nodup_range.filter _
  apply eq_of_device?
  · ext1 id
    rw [latch, device?_latches network hlisted, device?_latches network (h.nodup_iff.2 hlisted)]
    simp only [h.mem_iff]
  · calc (ids.foldl latchAt network).wires
      _ = (ids.foldl latchAt network).bare.wires := rfl
      _ = network.latch.bare.wires := by rw [bare_latches, bare_latch]
      _ = network.latch.wires := rfl
  · rw [cycle_latches, cycle_latch]

end LogicBench.Network
