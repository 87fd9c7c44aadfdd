import LogicBench.Proofs.Network.Confluence
import LogicBench.Proofs.Simulator.Cycle

/-!
# Edge marks

An output is marked as an edge in the cycle in which its level differs from the one before, and in
no other. The mark is made from the signal shown last, which may be a mark itself, one of the cold
start or one that a failed cycle has put back; only its level counts. Combinational outputs are
always steady, and the two outputs of a flip-flop are driven one by one but stay opposite, marks
included.
-/

namespace LogicBench

namespace Signal

def opposite : Signal → Signal
  | low => high
  | high => low
  | rising => falling
  | falling => rising

theorem opposite_transition (signal : Signal) (isHigh : Bool) :
    signal.opposite.transition (!isHigh) = (signal.transition isHigh).opposite := by
  cases signal <;> cases isHigh <;> rfl

structure MarksChange (old new : Signal) : Prop where
  rising : new = .rising ↔ new.isHigh = true ∧ old.isHigh = false
  falling : new = .falling ↔ new.isHigh = false ∧ old.isHigh = true
  steady : new.isHigh = old.isHigh → new = .ofLevel new.isHigh

theorem marksChange_transition (old : Signal) (isHigh : Bool) :
    old.MarksChange (old.transition isHigh) := by
  constructor <;> cases old <;> cases isHigh <;> decide

end Signal

namespace Device

structure Marked (device : Device) : Prop where
  steady : device.isCombinational → ∃ isHigh, device.outputs = [(.out, .ofLevel isHigh)]
  opposite : device.type = .flipFlop →
    ∃ signal, device.outputs = [(.q, signal), (.qBar, signal.opposite)]

variable {device : Device}

theorem outputs_coldStart (device : Device) : device.coldStart.outputs =
    device.outputs.pins.map fun pin => (pin, .ofLevel (device.kind.startLevel pin)) := by
  simp [coldStart, PinMap.pins]

theorem kind_of_type_eq_flipFlop (h : device.type = .flipFlop) :
    ∃ cell, device.kind = .flipFlop cell := by
  unfold type at h
  cases hkind : device.kind with
  | flipFlop cell => exact ⟨cell, rfl⟩
  | _ =>
      rw [hkind] at h
      cases h

theorem marked_coldStart (h : device.Shaped) : device.coldStart.Marked := by
  constructor
  · intro hcombinational
    rw [isCombinational, type_coldStart] at hcombinational
    rw [outputs_coldStart, h.outputs_of_isCombinational hcombinational]
    exact ⟨device.kind.startLevel .out, rfl⟩
  · intro htype
    rw [type_coldStart] at htype
    obtain ⟨cell, hkind⟩ := kind_of_type_eq_flipFlop htype
    rw [outputs_coldStart, h.outputs, hkind]
    exact ⟨.low, rfl⟩

/-! ## Publishing -/

theorem output?_drive_self {pin : OutputPin} {old : Signal} (h : device.output? pin = some old)
    (isHigh : Bool) : (device.drive pin isHigh).output? pin = some (old.transition isHigh) := by
  have hout : device.hasOutput pin := by
    rw [← device.output?_isSome, h]
    rfl
  rw [drive, output?_setOutput_self hout, h, Option.getD_some]

/-- Both outputs of a flip-flop change together, in opposite ways. -/
theorem Marked.opposite_advance (h : device.Marked) (htype : device.type = .flipFlop) :
    ∃ signal, device.advance.outputs = [(.q, signal), (.qBar, signal.opposite)] := by
  obtain ⟨cell, hkind⟩ := kind_of_type_eq_flipFlop htype
  obtain ⟨signal, houtputs⟩ := h.opposite htype
  refine ⟨signal.transition cell.stored, ?_⟩
  simp [advance, hkind, drive, setOutput, output?, houtputs, PinMap.get?, PinMap.set,
    Signal.opposite_transition]

theorem Shaped.marksChange_advance (h : device.Shaped) (hsequential : ¬ device.isCombinational)
    {pin : OutputPin} (hpin : pin ∈ device.kind.outputPins) :
    ∃ old new, device.output? pin = some old ∧ device.advance.output? pin = some new ∧
      old.MarksChange new := by
  have hout : device.hasOutput pin := by
    rw [hasOutput_iff_mem, h.outputs]
    exact hpin
  obtain ⟨old, hold⟩ := Option.isSome_iff_exists.1 ((device.output?_isSome pin).2 hout)
  suffices ∃ isHigh, device.advance.output? pin = some (old.transition isHigh) by
    obtain ⟨isHigh, hnew⟩ := this
    exact ⟨old, _, hold, hnew, old.marksChange_transition isHigh⟩
  simp only [isCombinational, type] at hsequential
  cases hkind : device.kind with
  | switch switch =>
      rw [hkind] at hpin
      obtain rfl := List.mem_singleton.1 hpin
      simp only [advance, hkind]
      exact ⟨_, output?_drive_self hold _⟩
  | clock clock =>
      rw [hkind] at hpin
      obtain rfl := List.mem_singleton.1 hpin
      simp only [advance, hkind]
      exact ⟨_, output?_drive_self hold _⟩
  | generator generator =>
      rw [hkind] at hpin
      obtain rfl := List.mem_singleton.1 hpin
      simp only [advance, hkind]
      exact ⟨_, output?_drive_self hold _⟩
  | flipFlop cell =>
      rw [hkind] at hpin
      simp only [advance, hkind]
      rcases List.mem_cons.1 hpin with rfl | hlast
      · rw [output?_drive_of_ne _ (by decide)]
        exact ⟨_, output?_drive_self hold _⟩
      · obtain rfl := List.mem_singleton.1 hlast
        rw [← output?_drive_of_ne device (by decide : OutputPin.qBar ≠ .q) cell.stored] at hold
        exact ⟨_, output?_drive_self hold _⟩
  | _ => simp [hkind, DeviceKind.type, DeviceType.isCombinational] at hsequential

end Device

namespace Network

def Marked (network : Network) : Prop :=
  ∀ {id device}, network.device? id = some device → device.Marked

variable {network settled : Network} {order : List DeviceId} {maxPasses passes : Nat}

theorem WellWired.marked_coldStart (h : network.WellWired) : network.coldStart.Marked := by
  intro id started hstarted
  rw [device?_coldStart] at hstarted
  obtain ⟨device, hdevice, rfl⟩ := Option.map_eq_some_iff.1 hstarted
  exact Device.marked_coldStart (h.shaped hdevice)

theorem IsSettled.exists_outputs (h : network.IsSettled) (hwired : network.WellWired)
    {id : DeviceId} {device : Device} (hdevice : network.device? id = some device)
    (hcombinational : device.isCombinational) :
    ∃ isHigh, device.outputs = [(.out, .ofLevel isHigh)] := by
  obtain ⟨signal, hsignal⟩ := Device.evaluate_isSome hcombinational (network.reads device)
  have hshown := h id device signal hdevice hsignal
  rw [Device.evaluate_eq_function?, Option.map_eq_some_iff] at hsignal
  obtain ⟨isHigh, -, rfl⟩ := hsignal
  exact ⟨isHigh, (hwired.shaped hdevice).outputs_eq_of_isCombinational hcombinational hshown⟩

theorem device?_of_cycle {id : DeviceId} {latched : Device}
    (hsettle : network.advance.settle order maxPasses = (settled, some passes))
    (hlatched : settled.latch.finishCycle.device? id = some latched) :
    ∃ device last, network.device? id = some device ∧ settled.device? id = some last ∧
      last.bare = device.bare ∧ latched.bare = device.bare ∧ latched.outputs = last.outputs ∧
      (¬ device.isCombinational → latched.outputs = device.advance.outputs) := by
  have hbare : settled.bare = network.bare := by
    rw [← network.bare_advance, ← network.advance.bare_settle order maxPasses, hsettle]
  rw [show settled.latch.finishCycle.device? id = settled.latch.device? id from rfl,
    device?_latch] at hlatched
  obtain ⟨last, hlast, rfl⟩ := Option.map_eq_some_iff.1 hlatched
  obtain ⟨device, hdevice, hdeviceBare⟩ := device?_of_bare_eq hbare hlast
  obtain ⟨same, hsame, -, -, hpublished⟩ := device?_of_settle_advance hsettle hdevice
  obtain rfl : last = same := Option.some.inj (hlast.symm.trans hsame)
  refine ⟨device, last, hdevice, hlast, hdeviceBare.symm, ?_, Device.outputs_latch _ _, ?_⟩
  · rw [Device.bare_latch, hdeviceBare]
  · intro hsequential
    rw [Device.outputs_latch, hpublished hsequential]

theorem Marked.cycle (h : network.Marked) (hwired : network.WellWired)
    (hsettle : network.advance.settle order maxPasses = (settled, some passes))
    (hsettled : settled.IsSettled) : settled.latch.finishCycle.Marked := by
  have hbare : settled.bare = network.bare := by
    rw [← network.bare_advance, ← network.advance.bare_settle order maxPasses, hsettle]
  intro id latched hlatched
  obtain ⟨device, last, hdevice, hlast, hlastBare, hlatchedBare, houtputs, hpublished⟩ :=
    device?_of_cycle hsettle hlatched
  constructor
  · intro hcombinational
    rw [houtputs]
    apply hsettled.exists_outputs (hwired.of_bare_eq hbare) hlast
    rwa [Device.isCombinational, Device.type_of_bare_eq (hlastBare.trans hlatchedBare.symm)]
  · intro hflipFlop
    rw [Device.type_of_bare_eq hlatchedBare] at hflipFlop
    rw [hpublished (by simp [Device.isCombinational, hflipFlop, DeviceType.isCombinational])]
    exact (h hdevice).opposite_advance hflipFlop

theorem Marked.setSwitch (h : network.Marked) {id : DeviceId} {state : Bool} {set : Network}
    (hset : network.setSwitch id state = .ok set) : set.Marked := by
  obtain ⟨device, switch, hdevice, hkind, rfl⟩ := setSwitch_eq_ok_iff.1 hset
  intro other changed hchanged
  rw [device?_setDevice _ hdevice] at hchanged
  split at hchanged
  · obtain rfl := Option.some.inj hchanged
    constructor <;> intro htype <;> cases htype
  · exact h hchanged

end Network

namespace Simulator

variable {simulator next : Simulator}

theorem Step.marked (h : simulator.Step next) (hmade : simulator.WellMade)
    (hmarked : simulator.network.Marked) : next.network.Marked := by
  cases h with
  | cycle completed =>
      obtain ⟨settled, hsettle, hcycle⟩ := executeCycle_eq_of_ok completed
      rw [hcycle]
      exact hmarked.cycle hmade.wired hsettle (hmade.isSettled hsettle)
  | coldStart => exact hmade.wired.marked_coldStart
  | setSwitch set => exact hmarked.setSwitch set
  | addMonitor _ => exact hmarked
  | removeMonitor _ => exact hmarked

theorem Reaches.marked (h : simulator.Reaches next) (hmade : simulator.WellMade)
    (hmarked : simulator.network.Marked) : next.network.Marked := by
  induction h with
  | refl => exact hmarked
  | tail hreaches hstep ih =>
      exact hstep.marked (hmade.of_sameCircuit (Reaches.sameCircuit hreaches)) ih

end Simulator

namespace Definition

open Simulator in
/-- After any operations on a simulator of a definition without errors, combinational devices show
steady levels, and the outputs of a flip-flop show opposite signals. When a further cycle succeeds,
an output of a source or flip-flop is marked as an edge exactly if its level has changed in this
cycle, and by the way in which it has. -/
theorem edges_mark_changes {source : String} (hvalid : (ofSource source).hasErrors = false)
    (maxPasses : Nat) (operations : List Operation) :
    let definition := ofSource source
    let simulator :=
      ofNetwork definition.names definition.network definition.recorder maxPasses
    let last := (simulator.performAll operations).1
    (0 < maxPasses → ofDefinition definition maxPasses = .ok simulator) ∧
    (∀ id device, last.network.device? id = some device → device.isCombinational →
      ∃ isHigh, device.outputs = [(.out, .ofLevel isHigh)]) ∧
    (∀ id device, last.network.device? id = some device → device.type = .flipFlop →
      ∃ q qBar, device.outputs = [(.q, q), (.qBar, qBar)] ∧
        (q, qBar) ∈ [(.low, .high), (.high, .low), (.rising, .falling), (.falling, .rising)]) ∧
    (∀ passes, last.executeCycle.2 = .ok passes →
      ∀ id after, last.executeCycle.1.network.device? id = some after → ¬ after.isCombinational →
        ∃ before, last.network.device? id = some before ∧
          ∀ pin ∈ after.kind.outputPins, ∃ old new, before.output? pin = some old ∧
            after.output? pin = some new ∧ old.MarksChange new) := by
  intro definition simulator last
  have hbuilt : definition.network.Built := built_ofSource source
  have hreaches : simulator.Reaches last := simulator.reaches_performAll operations
  have hmade : simulator.WellMade := wellMade_ofNetwork hbuilt _ _ maxPasses
  have hstart : simulator.network.Marked := by
    show definition.network.Marked
    rw [← hbuilt.coldStart_eq]
    exact hbuilt.wellWired.marked_coldStart
  have hmarked : last.network.Marked := hreaches.marked hmade hstart
  have hwired : last.network.WellWired := (hmade.of_sameCircuit hreaches.sameCircuit).wired
  refine ⟨fun hpasses => ofDefinition_eq_ok hpasses hvalid, ?_, ?_, ?_⟩
  · exact fun id device hdevice => (hmarked hdevice).steady
  · intro id device hdevice htype
    obtain ⟨signal, houtputs⟩ := (hmarked hdevice).opposite htype
    refine ⟨signal, signal.opposite, houtputs, ?_⟩
    cases signal <;> decide
  · intro passes hpasses id after hafter hsequential
    obtain ⟨settled, hsettle, hcycle⟩ := executeCycle_eq_of_ok hpasses
    rw [hcycle] at hafter
    obtain ⟨before, -, hbefore, -, -, hbare, -, hpublished⟩ :=
      Network.device?_of_cycle hsettle hafter
    rw [Device.isCombinational, Device.type_of_bare_eq hbare] at hsequential
    refine ⟨before, hbefore, fun pin hpin => ?_⟩
    rw [← DeviceKind.outputPins_bare, Device.kind_of_bare_eq hbare,
      DeviceKind.outputPins_bare] at hpin
    rw [show after.output? pin = before.advance.output? pin by
      rw [Device.output?, Device.output?, hpublished hsequential]]
    exact (hwired.shaped hbefore).marksChange_advance hsequential hpin

open Simulator in
/-- A flip-flop that stores its opposite at each rise of a clock, beside a loop that does not settle
while a switch is on. A cycle has failed before the one in which its outputs change. -/
theorem edges_mark_changes_divider :
    let definition := ofSource "DEVICES c:CLOCK 1, s:SWITCH 0, r:SWITCH 0, d:DTYPE, n:NAND 2;
      CONNECT c > d.CLK, d.QBAR > d.DATA, r > d.SET, r > d.CLEAR, s > n.I1, n > n.I2; MONITOR d.Q;
      END"
    let simulator := ofNetwork definition.names definition.network definition.recorder 5
    let last := (simulator.performAll
      [.run 1, .setSwitch "s" true, .executeCycle, .setSwitch "s" false, .continueRun 2]).1
    definition.hasErrors = false ∧ last.executeCycle.2 = .ok 1 ∧
      ∃ after, last.executeCycle.1.network.device? 3 = some after ∧ ¬ after.isCombinational ∧
        .qBar ∈ after.kind.outputPins ∧
        ∃ before old new, last.network.device? 3 = some before ∧ before.output? .qBar = some old ∧
          after.output? .qBar = some new ∧ old.MarksChange new := by
  intro definition simulator last
  have hvalid : definition.hasErrors = false := by
    unfold definition
    decide +kernel
  have hcycle : last.executeCycle.2 = .ok 1 := by
    unfold last simulator definition
    decide +kernel
  have hkind : (last.executeCycle.1.network.device? 3).map Device.kind =
      some (.flipFlop ⟨false, false⟩) := by
    unfold last simulator definition
    decide +kernel
  obtain ⟨-, -, -, hedges⟩ := edges_mark_changes hvalid 5
    [.run 1, .setSwitch "s" true, .executeCycle, .setSwitch "s" false, .continueRun 2]
  unfold last simulator definition at hcycle hkind ⊢
  obtain ⟨after, hafter, hflipFlop⟩ := Option.map_eq_some_iff.1 hkind
  have hsequential : ¬ after.isCombinational := by
    rw [Device.isCombinational, Device.type, hflipFlop]
    decide
  have hpin : .qBar ∈ after.kind.outputPins := by
    rw [hflipFlop]
    decide
  obtain ⟨before, hbefore, hmarks⟩ := hedges 1 hcycle 3 after hafter hsequential
  obtain ⟨old, new, hold, hnew, hchange⟩ := hmarks .qBar hpin
  exact ⟨hvalid, hcycle, after, hafter, hsequential, hpin, before, old, new, hbefore, hold, hnew,
    hchange⟩

end Definition

end LogicBench
