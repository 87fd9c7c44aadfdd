import LogicBench.Proofs.Circuit.Refinement
import LogicBench.Proofs.Definition.Drafting
import LogicBench.Proofs.Network.Fixpoint
import Mathlib.Data.List.Chain
import Mathlib.Data.Nat.SuccPred
import Mathlib.Order.SuccPred.Archimedean

/-!
# Settling in any order

Without feedback the order of evaluation decides only how fast a network settles. Each pass brings
one more layer of devices to its final outputs, whatever the order and whatever the outputs were
before: the feeders of a layer are final when the pass begins, and an update of a device whose
feeders are final makes it final and keeps it so. There are as many layers as devices on a longest
cascade.
-/

namespace LogicBench

namespace Device

theorem Shaped.outputs_eq_of_isCombinational {device : Device} (h : device.Shaped)
    (hcombinational : device.isCombinational) {signal : Signal}
    (hsignal : device.output? .out = some signal) : device.outputs = [(.out, signal)] := by
  have hpins := h.outputs_of_isCombinational hcombinational
  obtain ⟨⟨pin, shown⟩, hentry, hpin⟩ := List.map_eq_singleton_iff.1 hpins
  obtain rfl : pin = .out := hpin
  simp only [output?, hentry, PinMap.get?, if_true, Option.some.injEq] at hsignal
  rw [hentry, hsignal]

theorem eq_of_bare_eq {device other : Device} (hbare : device.bare = other.bare)
    (hkind : device.kind = other.kind) (houtputs : device.outputs = other.outputs) :
    device = other := by
  have hname : device.name = other.name := by rw [← name_bare, hbare, name_bare]
  have hinputs := inputs_of_bare_eq hbare
  cases device
  cases other
  simp_all

theorem evaluate_eq_of_bare_eq {device other : Device} (hbare : device.bare = other.bare)
    (hkind : device.kind = other.kind) (read : InputPin → Signal) :
    device.evaluate read = other.evaluate read := by
  simp only [evaluate, hkind, inputs_of_bare_eq hbare]

theorem evaluate_isSome {device : Device} (h : device.isCombinational)
    (read : InputPin → Signal) : ∃ signal, device.evaluate read = some signal := by
  unfold isCombinational type at h
  cases hkind : device.kind with
  | gate op arity => exact ⟨_, by rw [evaluate, hkind]⟩
  | xor => exact ⟨_, by rw [evaluate, hkind]⟩
  | not => exact ⟨_, by rw [evaluate, hkind]⟩
  | _ => simp [hkind, DeviceKind.type, DeviceType.isCombinational] at h

end Device

namespace Network

variable {circuit network now settled : Network} {order : List DeviceId} {id : DeviceId}

/-! ## Cascades -/

def IsCascade (network : Network) (ids : List DeviceId) : Prop :=
  (∀ id ∈ ids, network.isCombinationalAt id) ∧ ids.IsChain network.CombinationalWire

/-- Whether a number is that of the devices on a longest cascade. -/
def HasDepth (network : Network) (depth : Nat) : Prop :=
  IsGreatest {length | ∃ ids, network.IsCascade ids ∧ ids.length = length} depth

/-- Whether no cascade that ends with a device has more than so many devices. -/
def LiesWithin (network : Network) (layers : Nat) (id : DeviceId) : Prop :=
  ∀ ids, network.IsCascade (ids ++ [id]) → (ids ++ [id]).length ≤ layers

theorem IsCascade.nodup {ids : List DeviceId} (h : network.IsCascade ids)
    (hacyclic : network.Acyclic) : ids.Nodup := by
  have hchain : ids.IsChain (Relation.TransGen network.CombinationalWire) :=
    h.2.imp fun _ _ => .single
  refine (List.isChain_iff_pairwise.1 hchain).imp ?_
  rintro first second hway rfl
  exact hacyclic first hway

theorem IsCascade.length_le {ids : List DeviceId} (h : network.IsCascade ids)
    (hacyclic : network.Acyclic) : ids.length ≤ network.devices.length := by
  have hsubset : ids ⊆ network.ids := fun id hid =>
    List.mem_range.2 (lt_length_of_isCombinationalAt (h.1 id hid))
  have hlength := ((h.nodup hacyclic).subperm hsubset).length_le
  rwa [Network.ids, List.length_range] at hlength

/-- Without feedback no cascade is longer than the list of devices. -/
theorem Acyclic.exists_hasDepth (h : network.Acyclic) : ∃ depth, network.HasDepth depth := by
  apply BddAbove.exists_isGreatest_of_nonempty
  · refine ⟨network.devices.length, ?_⟩
    rintro _ ⟨ids, hcascade, rfl⟩
    exact hcascade.length_le h
  · exact ⟨0, [], ⟨by simp, .nil⟩, rfl⟩

theorem HasDepth.liesWithin {depth : Nat} (h : network.HasDepth depth) (id : DeviceId) :
    network.LiesWithin depth id :=
  fun ids hcascade => h.2 ⟨ids ++ [id], hcascade, rfl⟩

theorem LiesWithin.succ {layers : Nat} (h : network.LiesWithin layers id) :
    network.LiesWithin (layers + 1) id :=
  fun ids hcascade => Nat.le_succ_of_le (h ids hcascade)

theorem LiesWithin.not_isCombinationalAt (h : network.LiesWithin 0 id) :
    ¬ network.isCombinationalAt id := by
  intro hcombinational
  have hone : 1 ≤ 0 := h [] ⟨by simpa using hcombinational, .singleton id⟩
  exact absurd hone (by decide)

/-- The feeders of a device are one layer further up. -/
theorem LiesWithin.feeder {layers : Nat} {feeder : DeviceId} (hwired : network.WellWired)
    (h : network.LiesWithin (layers + 1) id) (hfeeder : feeder ∈ network.feedersAt id) :
    network.LiesWithin layers feeder := by
  intro ids hcascade
  have hwire := hwired.mem_feedersAt_iff_wire.1 hfeeder
  have hlonger : network.IsCascade (ids ++ [feeder] ++ [id]) := by
    constructor
    · intro other hother
      rcases List.mem_append.1 hother with hbefore | hlast
      · exact hcascade.1 other hbefore
      · rw [List.mem_singleton.1 hlast]
        exact hwire.2.1
    · refine hcascade.2.append (.singleton id) ?_
      simpa using hwire
  have hbound := h (ids ++ [feeder]) hlonger
  rw [List.length_append, List.length_singleton] at hbound
  exact Nat.le_of_succ_le_succ hbound

/-! ## Agreement with a settled network -/

theorem UpdatedFrom.device?_eq (h : now.UpdatedFrom network)
    (hsequential : ¬ network.isCombinationalAt id) : now.device? id = network.device? id := by
  cases hnow : now.device? id with
  | some last =>
      obtain ⟨old, hold, -, hsame⟩ := h.device hnow
      rw [hold, hsame hsequential]
  | none =>
      cases hold : network.device? id with
      | none => rfl
      | some old =>
          obtain ⟨last, hlast, -⟩ := device?_of_bare_eq h.bare.symm hold
          rw [hnow] at hlast
          cases hlast

/-- Two networks made by updates of the same one agree at a device that is up to date in both, if
they agree at its feeders. -/
theorem UpdatedFrom.agree (h : now.UpdatedFrom network) (hsettled : settled.UpdatedFrom network)
    (hwired : network.WellWired) (hhere : now.SettledAt id) (hthere : settled.SettledAt id)
    (hfeeders : ∀ feeder ∈ network.feedersAt id, now.device? feeder = settled.device? feeder) :
    now.device? id = settled.device? id := by
  by_cases hcombinational : network.isCombinationalAt id
  · obtain ⟨old, hold, holdKind⟩ := isCombinationalAt_iff.1 hcombinational
    obtain ⟨left, hleft, hleftBare⟩ := device?_of_bare_eq h.bare.symm hold
    obtain ⟨right, hright, hrightBare⟩ := device?_of_bare_eq hsettled.bare.symm hold
    have hbare : left.bare = right.bare := hleftBare.trans hrightBare.symm
    have hkind : left.kind = right.kind := by
      obtain ⟨same, hsame, hleftKind, -⟩ := h.device hleft
      obtain ⟨also, halso, hrightKind, -⟩ := hsettled.device hright
      cases hold.symm.trans hsame
      cases hold.symm.trans halso
      exact hleftKind.trans hrightKind.symm
    have hreads : now.reads left = settled.reads right := by
      ext pin
      unfold reads
      rw [Device.driver?_of_bare_eq hbare]
      cases hdriver : right.driver? pin with
      | none => rfl
      | some driver =>
          have hsource : now.device? driver.device = settled.device? driver.device := by
            by_cases hfed : network.isCombinationalAt driver.device
            · rw [Device.driver?_of_bare_eq hrightBare] at hdriver
              exact hfeeders _ (mem_feedersAt_iff.2
                ⟨hfed, hcombinational, old, hold, pin, driver, hdriver, rfl⟩)
            · rw [h.device?_eq hfed, hsettled.device?_eq hfed]
          simp only [Option.bind_some, signal?, hsource]
    have hcombinationalLeft : left.isCombinational := by
      rw [← Device.isCombinational_bare, hleftBare, Device.isCombinational_bare]
      exact holdKind
    have hcombinationalRight : right.isCombinational := by
      rw [← Device.isCombinational_bare, hrightBare, Device.isCombinational_bare]
      exact holdKind
    obtain ⟨signal, hsignal⟩ := Device.evaluate_isSome hcombinationalRight (settled.reads right)
    have hleftOut := hhere left signal hleft (by
      rw [hreads, Device.evaluate_eq_of_bare_eq hbare hkind, hsignal])
    have hrightOut := hthere right signal hright hsignal
    have hleftShaped := (hwired.of_bare_eq h.bare).shaped hleft
    have hrightShaped := (hwired.of_bare_eq hsettled.bare).shaped hright
    have houtputs : left.outputs = right.outputs := by
      rw [hleftShaped.outputs_eq_of_isCombinational hcombinationalLeft hleftOut,
        hrightShaped.outputs_eq_of_isCombinational hcombinationalRight hrightOut]
    rw [hleft, hright, Device.eq_of_bare_eq hbare hkind houtputs]
  · rw [h.device?_eq hcombinational, hsettled.device?_eq hcombinational]

theorem UpdatedFrom.eq_of_isSettled (h : now.UpdatedFrom network)
    (hsettled : settled.UpdatedFrom network) (hwired : network.WellWired)
    (hacyclic : network.Acyclic) (hhere : now.IsSettled) (hthere : settled.IsSettled)
    (hcycle : now.cycle = settled.cycle) : now = settled := by
  refine eq_of_device? ?_ (wires_of_bare_eq (h.bare.trans hsettled.bare.symm)) hcycle
  ext1 id
  induction id using hacyclic.wellFounded.induction with
  | _ id ih =>
      exact h.agree hsettled hwired (hhere id) (hthere id) fun feeder hfeeder =>
        ih feeder (hwired.mem_feedersAt_iff_wire.1 hfeeder)

theorem WellWired.device?_update_of_ne (h : now.WellWired) {other : DeviceId} (hne : other ≠ id) :
    (now.update id).1.device? other = now.device? other := by
  rcases h.update_cases id with ⟨hsame, -⟩ | ⟨device, signal, hdevice, -, hupdate⟩
  · rw [hsame]
  · rw [hupdate, device?_setDevice _ hdevice, if_neg hne]

/-! ## Layer by layer -/

def AgreesWithin (network now settled : Network) (layers : Nat) : Prop :=
  ∀ id, network.LiesWithin layers id → now.device? id = settled.device? id

structure Settles (network settled : Network) : Prop where
  wired : network.WellWired
  acyclic : network.Acyclic
  updated : settled.UpdatedFrom network
  cycle : settled.cycle = network.cycle
  settled : settled.IsSettled

variable {layers depth : Nat}

/-- An update brings a device of the next layer to its final state, or leaves it there. -/
theorem Settles.device?_update (h : network.Settles settled) (hnow : now.UpdatedFrom network)
    (hlayers : network.AgreesWithin now settled layers)
    (hid : network.LiesWithin (layers + 1) id) {updated : DeviceId}
    (hdone : id = updated ∨ now.device? id = settled.device? id) :
    (now.update updated).1.device? id = settled.device? id := by
  have hwired := h.wired.of_bare_eq hnow.bare
  by_cases hhere : id = updated
  · subst hhere
    have hself : id ∉ network.feedersAt id := fun hfeeds =>
      h.acyclic id (.single (h.wired.mem_feedersAt_iff_wire.1 hfeeds))
    have hselfNow : id ∉ now.feedersAt id := by
      rwa [← feedersAt_bare, hnow.bare, feedersAt_bare]
    refine (hnow.update id).agree h.updated h.wired (hwired.settledAt_update_self hselfNow)
      (h.settled id) fun feeder hfeeder => ?_
    have hne : feeder ≠ id := by
      rintro rfl
      exact hself hfeeder
    rw [hwired.device?_update_of_ne hne]
    exact hlayers feeder (hid.feeder h.wired hfeeder)
  · rw [hwired.device?_update_of_ne hhere]
    exact hdone.resolve_left hhere

theorem Settles.device?_pass (h : network.Settles settled) (hnow : now.UpdatedFrom network)
    (hlayers : network.AgreesWithin now settled layers)
    (hid : network.LiesWithin (layers + 1) id)
    (hdone : id ∈ order ∨ now.device? id = settled.device? id) :
    (now.pass order).1.device? id = settled.device? id := by
  induction order generalizing now with
  | nil => simpa using hdone
  | cons first rest ih =>
      rw [pass_cons]
      apply ih (hnow.update first)
      · intro other hother
        exact h.device?_update hnow hlayers hother.succ (.inr (hlayers other hother))
      · rw [List.mem_cons, or_right_comm] at hdone
        rcases hdone with hhere | hrest
        · exact .inr (h.device?_update hnow hlayers hid hhere)
        · exact .inl hrest

/-- Each pass over all combinational devices settles one more layer. -/
theorem Settles.agreesWithin_pass (h : network.Settles settled) (hnow : now.UpdatedFrom network)
    (horder : ∀ id, network.isCombinationalAt id → id ∈ order)
    (hlayers : network.AgreesWithin now settled layers) :
    network.AgreesWithin (now.pass order).1 settled (layers + 1) := by
  intro id hid
  apply h.device?_pass hnow hlayers hid
  by_cases hcombinational : network.isCombinationalAt id
  · exact .inl (horder id hcombinational)
  · right
    rw [hnow.device?_eq hcombinational, h.updated.device?_eq hcombinational]

theorem Settles.eq_of_agreesWithin (h : network.Settles settled) (hnow : now.UpdatedFrom network)
    (hcycle : now.cycle = network.cycle) (hdepth : network.HasDepth depth)
    (hlayers : network.AgreesWithin now settled depth) : now = settled := by
  refine eq_of_device? ?_ (wires_of_bare_eq (hnow.bare.trans h.updated.bare.symm))
    (hcycle.trans h.cycle.symm)
  ext1 id
  exact hlayers id (hdepth.liesWithin id)

theorem Settles.eq_of_pass_unchanged (h : network.Settles settled) (hnow : now.UpdatedFrom network)
    (hcycle : now.cycle = network.cycle)
    (horder : ∀ id, network.isCombinationalAt id → id ∈ order) {next : Network}
    (hpass : now.pass order = (next, false)) : next = settled := by
  obtain ⟨rfl, hmem⟩ := (h.wired.of_bare_eq hnow.bare).pass_unchanged hpass
  refine hnow.eq_of_isSettled h.updated h.wired h.acyclic ?_ h.settled (hcycle.trans h.cycle.symm)
  intro id device signal hdevice hsignal
  have hcombinational : network.isCombinationalAt id := by
    rw [← isCombinationalAt_of_bare_eq hnow.bare]
    exact isCombinationalAt_iff.2 ⟨device, hdevice, Device.isCombinational_of_evaluate hsignal⟩
  exact hmem id (horder id hcombinational) device signal hdevice hsignal

/-- When so many passes have settled so many layers, the remaining ones settle the rest. -/
theorem Settles.settleFrom_eq (h : network.Settles settled) (hdepth : network.HasDepth depth)
    (horder : ∀ id, network.isCombinationalAt id → id ∈ order) {fuel done : Nat}
    (hnow : now.UpdatedFrom network) (hcycle : now.cycle = network.cycle)
    (hlayers : network.AgreesWithin now settled done) (hdone : done ≤ depth)
    (hfuel : depth + 1 ≤ done + fuel) :
    ∃ passes, passes ≤ depth + 1 ∧ settleFrom order fuel done now = (settled, some passes) := by
  induction fuel generalizing now done with
  | zero => omega
  | succ fuel ih =>
      rw [settleFrom]
      cases hpass : now.pass order with
      | mk next changed =>
          cases changed with
          | false =>
              obtain rfl := h.eq_of_pass_unchanged hnow hcycle horder hpass
              exact ⟨done + 1, by omega, rfl⟩
          | true =>
              have hlast : done ≠ depth := by
                rintro rfl
                obtain rfl := h.eq_of_agreesWithin hnow hcycle hdepth hlayers
                rw [pass_of_settledAt fun id _ => h.settled id] at hpass
                cases hpass
              have hnext : next.UpdatedFrom network := by
                have hkept : (now.pass order).1.UpdatedFrom network :=
                  pass_induction (motive := fun now => now.UpdatedFrom network)
                    (fun id _ hupdated => hupdated.update id) hnow
                rwa [hpass] at hkept
              have hnextCycle : next.cycle = network.cycle := by
                rw [← hcycle, ← now.cycle_pass order, hpass]
              have hnextLayers := h.agreesWithin_pass hnow horder hlayers
              rw [hpass] at hnextLayers
              exact ih hnext hnextCycle hnextLayers (by omega) (by omega)

theorem WellWired.settles_pass_evaluationOrder (h : network.WellWired)
    (hacyclic : network.Acyclic) :
    network.Settles (network.pass network.evaluationOrder).1 := by
  refine ⟨h, hacyclic, ?_, network.cycle_pass _, isSettled_pass_evaluationOrder h hacyclic⟩
  apply pass_induction (motive := fun now => now.UpdatedFrom network)
  · exact fun id _ hupdated => hupdated.update id
  · exact ⟨rfl, fun hlast => ⟨_, hlast, rfl, fun _ => rfl⟩⟩

/-- Without feedback, and whatever the outputs are at the start: the order of evaluation settles the
network in two passes at most. Any list with all combinational devices, each as often as one likes,
settles it in one pass more than there are devices on a longest cascade, and to the same end. -/
theorem settle_in_any_order (hbuilt : circuit.Built) (hbare : network.bare = circuit.bare)
    (hacyclic : network.Acyclic) :
    ∃ depth settled, network.HasDepth depth ∧
      (∀ limit, 2 ≤ limit → ∃ passes, passes ≤ 2 ∧
        network.settle network.evaluationOrder limit = (settled, some passes)) ∧
      ∀ order : List DeviceId, (∀ id, network.isCombinationalAt id → id ∈ order) →
        ∀ limit, depth + 1 ≤ limit → ∃ passes, passes ≤ depth + 1 ∧
          network.settle order limit = (settled, some passes) := by
  have hwired : network.WellWired := hbuilt.wellWired.of_bare_eq hbare
  have hsettles := hwired.settles_pass_evaluationOrder hacyclic
  obtain ⟨depth, hdepth⟩ := hacyclic.exists_hasDepth
  refine ⟨depth, (network.pass network.evaluationOrder).1, hdepth, ?_, ?_⟩
  · intro limit hlimit
    exact settle_of_isSettled_pass hsettles.settled hlimit
  · intro order horder limit hlimit
    have hstart : network.UpdatedFrom network := ⟨rfl, fun hlast => ⟨_, hlast, rfl, fun _ => rfl⟩⟩
    apply hsettles.settleFrom_eq hdepth horder hstart rfl
    · -- Before the first pass only what is not combinational is final.
      intro id hid
      rw [hsettles.updated.device?_eq hid.not_isCombinationalAt]
    · exact Nat.zero_le depth
    · omega

/-- Two inverters in a row, the second of which is evaluated first. -/
theorem settle_in_any_order_inverters :
    let circuit := (Definition.ofSource
      "DEVICES s:SWITCH 1, n:NOT, m:NOT; CONNECT s > n, n > m; END").network
    circuit.Built ∧ circuit.advance.bare = circuit.bare ∧ circuit.advance.Acyclic ∧
      (∀ id, circuit.advance.isCombinationalAt id → id ∈ [2, 1, 2]) ∧
      ∃ depth passes, circuit.advance.HasDepth depth ∧ passes ≤ depth + 1 ∧
        circuit.advance.settle [2, 1, 2] (depth + 1) =
          ((circuit.advance.settle circuit.advance.evaluationOrder 2).1, some passes) := by
  intro circuit
  have hbuilt : circuit.Built := Definition.built_ofSource _
  have hwires : (circuit.advance.wires.all fun wire =>
      decide (wire.source.device < wire.device)) = true := by
    unfold circuit
    decide +kernel
  have hacyclic : circuit.advance.Acyclic := by
    refine .of_rank id fun wire hwire _ _ => ?_
    simpa using List.all_eq_true.1 hwires wire hwire
  have hlisted : circuit.advance.combinational = [1, 2] := by
    unfold circuit
    decide +kernel
  have horder (id : DeviceId) (h : circuit.advance.isCombinationalAt id) : id ∈ [2, 1, 2] := by
    rw [← mem_combinational_iff, hlisted] at h
    exact List.mem_cons_of_mem 2 h
  obtain ⟨depth, settled, hdepth, hplanned, hany⟩ :=
    settle_in_any_order hbuilt circuit.bare_advance hacyclic
  obtain ⟨_, -, hsettle⟩ := hplanned 2 (Nat.le_refl 2)
  obtain ⟨passes, hpasses, hagain⟩ := hany [2, 1, 2] horder (depth + 1) (Nat.le_refl _)
  refine ⟨hbuilt, circuit.bare_advance, hacyclic, horder, depth, passes, hdepth, hpasses, ?_⟩
  rw [hagain, hsettle]

end Network

end LogicBench
