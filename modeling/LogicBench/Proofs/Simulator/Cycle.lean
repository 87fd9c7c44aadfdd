import LogicBench.Proofs.Circuit.Refinement
import LogicBench.Proofs.Definition.Drafting
import LogicBench.Proofs.Simulator.Steps

/-!
# What a completed cycle establishes

Whether or not a network has feedback, a cycle that succeeds ends in a fixpoint: every combinational
output is the boolean function of what its inputs show, and so it is still after the flip-flops have
latched, because latching changes no output. Sources and flip-flops show what they published at the
start of the cycle, and each flip-flop has taken in the settled levels.
-/

namespace LogicBench

namespace Device

def function? (device : Device) (isHigh : InputPin → Bool) : Option Bool :=
  match device.kind with
  | .gate op _ => some (op.function (device.inputs.pins.map isHigh))
  | .xor => some (isHigh (.numbered 1) ^^ isHigh (.numbered 2))
  | .not => some (!isHigh (.numbered 1))
  | _ => none

theorem function?_isSome_iff {device : Device} {isHigh : InputPin → Bool} :
    (device.function? isHigh).isSome ↔ device.isCombinational := by
  unfold function? isCombinational type
  cases device.kind <;> simp [DeviceKind.type, DeviceType.isCombinational]

/-- Devices compute with levels only, and put out steady ones. -/
theorem evaluate_eq_function? (device : Device) (read : InputPin → Signal) :
    device.evaluate read = (device.function? fun pin => (read pin).isHigh).map .ofLevel := by
  unfold evaluate function?
  cases device.kind with
  | gate op arity =>
      simp only [GateOp.evaluate, GateOp.onLevels_eq_function, List.map_map, Option.map_some]
      rfl
  | xor => simp only [Signal.xor, Option.map_some]
  | _ => rfl

theorem kind_advance_flipFlop {device : Device} {cell : FlipFlop}
    (h : device.kind = .flipFlop cell) : device.advance.kind = .flipFlop cell := by
  simp only [advance, h]
  exact h

theorem kind_latch_flipFlop {device : Device} {cell : FlipFlop} (h : device.kind = .flipFlop cell)
    (read : InputPin → Signal) :
    (device.latch read).kind = .flipFlop (cell.latch (read .data).isHigh (read .clock).isHigh
      (read .set).isHigh (read .clear).isHigh) := by
  simp only [latch, h]

theorem latch_of_isCombinational {device : Device} (h : device.isCombinational)
    (read : InputPin → Signal) : device.latch read = device := by
  apply latch_of_type_ne
  intro htype
  rw [isCombinational, htype] at h
  cases h

end Device

namespace Network

variable {network settled : Network} {order : List DeviceId} {maxPasses passes : Nat}

theorem reads_latch (network : Network) : network.latch.reads = network.reads := by
  ext device pin
  rw [reads, reads, signal?_latch]

theorem reads_of_bare_eq (network : Network) {device other : Device}
    (h : device.bare = other.bare) : network.reads device = network.reads other := by
  ext pin
  rw [reads, reads, Device.driver?_of_bare_eq h]

theorem IsSettled.latch (h : network.IsSettled) : network.latch.IsSettled := by
  intro id latched signal hlatched hsignal
  rw [device?_latch] at hlatched
  obtain ⟨device, hdevice, rfl⟩ := Option.map_eq_some_iff.1 hlatched
  have hcombinational : device.isCombinational := by
    rw [← Device.isCombinational_bare, ← Device.bare_latch device (network.reads device),
      Device.isCombinational_bare]
    exact Device.isCombinational_of_evaluate hsignal
  rw [Device.latch_of_isCombinational hcombinational] at hsignal ⊢
  rw [reads_latch] at hsignal
  exact h id device signal hdevice hsignal

theorem device?_of_settle_advance
    (hsettle : network.advance.settle order maxPasses = (settled, some passes)) {id : DeviceId}
    {device : Device} (hdevice : network.device? id = some device) :
    ∃ last, settled.device? id = some last ∧ last.bare = device.bare ∧
      last.kind = device.advance.kind ∧ (¬ device.isCombinational → last = device.advance) := by
  have hbare : settled.bare = network.bare := by
    rw [← network.bare_advance, ← network.advance.bare_settle order maxPasses, hsettle]
  obtain ⟨last, hlast, hlastBare⟩ := device?_of_bare_eq hbare.symm hdevice
  have hupdated := network.advance.updatedFrom_settle order maxPasses
  rw [hsettle] at hupdated
  obtain ⟨published, hpublished, hkind, hsame⟩ := hupdated.device hlast
  rw [device?_advance, hdevice, Option.map_some] at hpublished
  obtain rfl := Option.some.inj hpublished
  refine ⟨last, hlast, hlastBare, hkind, fun hsequential => hsame fun hcombinational => ?_⟩
  rw [isCombinationalAt_of_bare_eq network.bare_advance] at hcombinational
  obtain ⟨same, hsameDevice, hsameKind⟩ := isCombinationalAt_iff.1 hcombinational
  rw [hdevice] at hsameDevice
  obtain rfl := Option.some.inj hsameDevice
  exact hsequential hsameKind

end Network

namespace Simulator

structure WellMade (simulator : Simulator) : Prop where
  wired : simulator.network.WellWired
  order : ∀ id, simulator.network.isCombinationalAt id → id ∈ simulator.order

variable {simulator next : Simulator} {settled : Network} {passes : Nat}

theorem wellMade_ofNetwork {circuit : Network} (h : circuit.Built) (names : Names)
    (recorder : Recorder) (maxPasses : Nat) :
    (ofNetwork names circuit recorder maxPasses).WellMade :=
  ⟨h.wellWired, fun _ hid => Network.mem_evaluationOrder hid⟩

theorem WellMade.of_sameCircuit (h : simulator.WellMade) (hsame : next.SameCircuit simulator) :
    next.WellMade := by
  refine ⟨h.wired.of_bare_eq hsame.bare, ?_⟩
  rw [hsame.order, Network.isCombinationalAt_of_bare_eq hsame.bare]
  exact h.order

theorem WellMade.isSettled (h : simulator.WellMade)
    (hsettle : simulator.network.advance.settle simulator.order simulator.maxPasses =
      (settled, some passes)) : settled.IsSettled := by
  have hbare := simulator.network.bare_advance
  refine (h.wired.of_bare_eq hbare).isSettled_of_settle ?_ hsettle
  rw [Network.isCombinationalAt_of_bare_eq hbare]
  exact h.order

/-- On any network, with feedback or without: after a cycle that succeeds, each combinational output
is steady and the function of what its inputs show, so that the network is settled; each source and
flip-flop shows what it published at the start of the cycle; each flip-flop has latched the settled
levels, which is so whatever the order in which flip-flops latch; and but for one more completed
cycle nothing else is new. -/
theorem executeCycle_establishes {circuit : Network} (hbuilt : circuit.Built) (names : Names)
    (recorder : Recorder) (maxPasses : Nat) (operations : List Operation) {passes : Nat}
    (hcycle :
      ((ofNetwork names circuit recorder maxPasses).performAll operations).1.executeCycle.2 =
        .ok passes) :
    let before := ((ofNetwork names circuit recorder maxPasses).performAll operations).1
    let after := before.executeCycle.1
    (∀ id device, after.network.device? id = some device → device.isCombinational →
      ∃ isHigh,
        device.function? (fun pin => (after.network.reads device pin).isHigh) = some isHigh ∧
          device.output? .out = some (.ofLevel isHigh)) ∧
    (∀ limit, 0 < limit → after.network.settle after.order limit = (after.network, some 1)) ∧
    (∀ id device, before.network.device? id = some device → ¬ device.isCombinational →
      (after.network.device? id).map Device.outputs = some device.advance.outputs) ∧
    (∀ id device cell, before.network.device? id = some device → device.kind = .flipFlop cell →
      let isHigh (pin : InputPin) : Bool := (after.network.reads device pin).isHigh
      (after.network.device? id).map Device.kind =
        some (.flipFlop
          (cell.latch (isHigh .data) (isHigh .clock) (isHigh .set) (isHigh .clear)))) ∧
    (∃ settled,
      before.network.advance.settle before.order before.maxPasses = (settled, some passes) ∧
        ∀ ids : List DeviceId, ids.Perm (settled.devicesOfType .flipFlop) →
          (ids.foldl Network.latchAt settled).finishCycle = after.network) ∧
    after.network.devices.map (fun device => (device.name, device.inputs)) =
      before.network.devices.map (fun device => (device.name, device.inputs)) ∧
    after.network.wires = before.network.wires ∧
    after.names = before.names ∧
    after.cycleCount = before.cycleCount + 1 := by
  intro before after
  have hmade : before.WellMade :=
    (wellMade_ofNetwork hbuilt names recorder maxPasses).of_sameCircuit
      (sameCircuit_performAll _ operations)
  have hsame : after.SameCircuit before := before.sameCircuit_executeCycle
  obtain ⟨settled, hsettle, hafter⟩ := executeCycle_eq_of_ok hcycle
  have hnetwork : after.network = settled.latch.finishCycle := congrArg Simulator.network hafter
  have hsettled : settled.latch.IsSettled := (hmade.isSettled hsettle).latch
  have hdevice (id : DeviceId) : after.network.device? id =
      (settled.device? id).map fun device => device.latch (settled.reads device) := by
    rw [hnetwork]
    exact settled.device?_latch id
  have hreads : after.network.reads = settled.reads := by
    rw [hnetwork]
    exact settled.reads_latch
  have hfixed : after.network.IsSettled := by
    rw [hnetwork]
    exact hsettled
  refine ⟨?_, ?_, ?_, ?_, ?_, ?_, ?_, hsame.names, ?_⟩
  · intro id device hat hcombinational
    have hdefined : (device.function? fun pin =>
        (after.network.reads device pin).isHigh).isSome :=
      device.function?_isSome_iff.2 hcombinational
    obtain ⟨isHigh, hfunction⟩ := Option.isSome_iff_exists.1 hdefined
    refine ⟨isHigh, hfunction, hfixed id device _ hat ?_⟩
    rw [Device.evaluate_eq_function?, hfunction, Option.map_some]
  · intro limit hlimit
    exact Network.settle_of_settledAt (fun id _ => hfixed id) hlimit
  · intro id device hat hsequential
    obtain ⟨last, hlast, -, -, hpublished⟩ := Network.device?_of_settle_advance hsettle hat
    rw [hdevice, hlast, Option.map_some, Option.map_some, Device.outputs_latch,
      hpublished hsequential]
  · intro id device cell hat hkind isHigh
    obtain ⟨last, hlast, hbare, hlastKind, -⟩ := Network.device?_of_settle_advance hsettle hat
    have hcell : last.kind = .flipFlop cell :=
      hlastKind.trans (Device.kind_advance_flipFlop hkind)
    have hlevel : isHigh = fun pin => (settled.reads last pin).isHigh := by
      ext1 pin
      show (after.network.reads device pin).isHigh = _
      rw [hreads, settled.reads_of_bare_eq hbare]
    rw [hdevice, hlast, Option.map_some, Option.map_some, Device.kind_latch_flipFlop hcell, hlevel]
  · refine ⟨settled, hsettle, fun ids hids => ?_⟩
    rw [Network.latch_eq_foldl_of_perm hids, hnetwork]
  · have hdevices := congrArg (fun bare : Network =>
      bare.devices.map fun device => (device.name, device.inputs)) hsame.bare
    simpa [Network.bare, Function.comp_def] using hdevices
  · exact Network.wires_of_bare_eq hsame.bare
  · exact cycleCount_of_ok hcycle

/-- Two crossed gates hold their levels when the one that has set them is let go. -/
theorem executeCycle_establishes_crossed :
    let circuit := (Definition.ofSource "DEVICES s:SWITCH 0, r:SWITCH 1, p:NAND 2, q:NAND 2;
      CONNECT s > p.I1, q > p.I2, r > q.I1, p > q.I2; END").network
    let before := ((ofNetwork {} circuit {} 20).performAll [.executeCycle, .setSwitch "s" true]).1
    circuit.Built ∧ before.executeCycle.2 = .ok 1 ∧
      before.executeCycle.1.cycleCount = before.cycleCount + 1 := by
  intro circuit before
  have hbuilt : circuit.Built := Definition.built_ofSource _
  have hcycle : before.executeCycle.2 = .ok 1 := by
    unfold before circuit
    decide +kernel
  obtain ⟨-, -, -, -, -, -, -, -, hcount⟩ := executeCycle_establishes hbuilt {} {} 20
    [.executeCycle, .setSwitch "s" true] hcycle
  exact ⟨hbuilt, hcycle, hcount⟩

end Simulator

end LogicBench
