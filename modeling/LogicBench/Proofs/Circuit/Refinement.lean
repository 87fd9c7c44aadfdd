import LogicBench.Proofs.Circuit.Behaviour
import LogicBench.Proofs.Network.Phases

/-!
# Cycles refine the synchronous behaviour

A network follows a behaviour if its inner states and levels are those of the behaviour after as
many cycles as it has completed. One cycle of a circuit without feedback, in the order of
evaluation, keeps the network following: sources and flip-flops publish by their rules, a pass
settles the rest, and along the wires settled levels are the levels of the behaviour.
-/

namespace LogicBench

theorem GateOp.onLevels_eq_function (op : GateOp) (levels : List Bool) :
    op.onLevels levels = op.function levels := by
  have hall : levels.all id = decide (false ∉ levels) := by
    rw [Bool.eq_iff_iff, List.all_eq_true, decide_eq_true_iff]
    constructor
    · intro h hmem
      cases h false hmem
    · intro h level hlevel
      cases level with
      | false => exact absurd hlevel h
      | true => rfl
  have hany : levels.any id = decide (true ∈ levels) := by
    rw [Bool.eq_iff_iff, List.any_eq_true, decide_eq_true_iff]
    simp
  cases op <;> simp [onLevels, function, hall, hany]

def Clock.after (clock : Clock) (cycles : Nat) : Clock :=
  ⟨clock.halfPeriod, clock.halfPeriod - cycles % clock.halfPeriod,
    cycles / clock.halfPeriod % 2 = 1⟩

theorem Clock.tick_after {clock : Clock} (h : 0 < clock.halfPeriod) (cycles : Nat) :
    (clock.after cycles).tick = clock.after (cycles + 1) := by
  have hsplit := Nat.mod_add_div cycles clock.halfPeriod
  have hmod := Nat.mod_lt cycles h
  unfold tick after
  by_cases hlast : cycles % clock.halfPeriod + 1 = clock.halfPeriod
  · obtain ⟨hdivNext, hmodNext⟩ : (cycles + 1) / clock.halfPeriod =
        cycles / clock.halfPeriod + 1 ∧ (cycles + 1) % clock.halfPeriod = 0 := by
      refine (Nat.div_mod_unique h).2 ⟨?_, h⟩
      rw [Nat.mul_add, Nat.mul_one]
      omega
    have hparity : (!decide (cycles / clock.halfPeriod % 2 = 1)) =
        decide ((cycles / clock.halfPeriod + 1) % 2 = 1) := by
      rw [← decide_not, decide_eq_decide]
      omega
    rw [if_pos (by simp only; omega), hmodNext, hdivNext, Nat.sub_zero, hparity]
  · obtain ⟨hdivNext, hmodNext⟩ : (cycles + 1) / clock.halfPeriod = cycles / clock.halfPeriod ∧
        (cycles + 1) % clock.halfPeriod = cycles % clock.halfPeriod + 1 :=
      (Nat.div_mod_unique h).2 ⟨by omega, by omega⟩
    rw [if_neg (by simp only; omega), hmodNext, hdivNext]
    simp only [Clock.mk.injEq, and_true, true_and]
    omega

def DeviceKind.after (kind : DeviceKind) (cycles : Nat) (switched stored lastClock : Bool) :
    DeviceKind :=
  match kind with
  | .switch _ => .switch ⟨switched⟩
  | .clock c => .clock (c.after cycles)
  | .generator g => .generator { g with cursor := cycles % g.waveform.length }
  | .flipFlop _ => .flipFlop ⟨stored, lastClock⟩
  | kind => kind

theorem DeviceKind.after_of_type_ne {kind : DeviceKind} (h : kind.type ≠ .flipFlop) (cycles : Nat)
    (switched stored lastClock otherStored otherClock : Bool) :
    kind.after cycles switched stored lastClock =
      kind.after cycles switched otherStored otherClock := by
  cases kind with
  | flipFlop cell => exact absurd rfl h
  | _ => rfl

namespace Device

theorem type_latch (device : Device) (read : InputPin → Signal) :
    (device.latch read).type = device.type :=
  type_of_bare_eq (bare_latch device read)

theorem inputLevel_latch (device : Device) (read : InputPin → Signal) :
    (device.latch read).inputLevel = device.inputLevel :=
  inputLevel_of_bare_eq (bare_latch device read)

theorem hasOutput_setOutput (device : Device) (pin other : OutputPin) (signal : Signal) :
    (device.setOutput pin signal).hasOutput other = device.hasOutput other := by
  rw [Bool.eq_iff_iff, hasOutput_iff_mem, hasOutput_iff_mem]
  simp [setOutput]

theorem level_drive {device : Device} {pin : OutputPin} {isHigh : Bool} {signal : Signal}
    (h : (device.drive pin isHigh).output? pin = some signal) : signal.isHigh = isHigh := by
  have hout : device.hasOutput pin := by
    rw [← hasOutput_setOutput device pin pin, ← output?_isSome]
    exact Option.isSome_iff_exists.2 ⟨signal, h⟩
  rw [drive, output?_setOutput_self hout] at h
  rw [← Option.some.inj h, Signal.isHigh_transition]

theorem output?_drive_of_ne (device : Device) {pin other : OutputPin} (h : other ≠ pin)
    (isHigh : Bool) : (device.drive pin isHigh).output? other = device.output? other :=
  PinMap.get?_set_of_ne _ h _

theorem level_advance {device : Device} (hshaped : device.Shaped) (hvalid : device.kind.Valid)
    (hsequential : ¬ device.isCombinational) {cycles : Nat} {switched stored lastClock : Bool}
    (hkind : device.kind = device.kind.after cycles switched stored lastClock) {pin : OutputPin}
    {signal : Signal} (h : device.advance.output? pin = some signal) (level : Driver → Bool) :
    signal.isHigh = device.rule (cycles + 1) switched stored level pin := by
  have hpin : pin ∈ device.kind.outputPins := by
    rw [← hshaped.outputs, ← hasOutput_iff_mem, ← hasOutput_bare, ← bare_advance, hasOutput_bare,
      ← output?_isSome, h]
    rfl
  simp only [isCombinational, type] at hsequential
  cases hold : device.kind with
  | switch s =>
      rw [hold] at hkind hpin
      obtain rfl := List.mem_singleton.1 hpin
      simp only [advance, hold] at h
      simp only [rule, hold, level_drive h, DeviceKind.switch.inj hkind]
  | clock c =>
      rw [hold] at hkind hpin hvalid
      obtain rfl := List.mem_singleton.1 hpin
      simp only [advance, hold] at h
      have hclock : c = c.after cycles := DeviceKind.clock.inj hkind
      rw [level_drive h, hclock, Clock.tick_after hvalid]
      simp only [rule, hold, Clock.after]
  | generator g =>
      rw [hold] at hkind hpin
      obtain rfl := List.mem_singleton.1 hpin
      simp only [advance, hold] at h
      have hcursor : g.cursor = cycles % g.waveform.length :=
        congrArg Generator.cursor (DeviceKind.generator.inj hkind)
      rw [level_drive h, Generator.bit, hcursor]
      simp only [rule, hold, Nat.add_sub_cancel]
  | flipFlop cell =>
      rw [hold] at hkind hpin
      simp only [advance, hold] at h
      have hstored : cell.stored = stored :=
        congrArg FlipFlop.stored (DeviceKind.flipFlop.inj hkind)
      rcases List.mem_cons.1 hpin with rfl | hlast
      · rw [output?_drive_of_ne _ (by decide)] at h
        rw [level_drive h, hstored]
        rfl
      · obtain rfl := List.mem_singleton.1 hlast
        rw [level_drive h, hstored]
        rfl
  | _ => simp [hold, DeviceKind.type, DeviceType.isCombinational] at hsequential

theorem kind_cycle {device settled : Device} (hvalid : device.kind.Valid)
    (hsettled : settled.kind = device.advance.kind) {cycles : Nat}
    {switched stored lastClock : Bool}
    (hkind : device.kind = device.kind.after cycles switched stored lastClock)
    (read : InputPin → Signal) :
    (settled.latch read).kind = (settled.latch read).kind.after (cycles + 1) switched
      (FlipFlop.latch ⟨stored, lastClock⟩ (read .data).isHigh (read .clock).isHigh
        (read .set).isHigh (read .clear).isHigh).stored (read .clock).isHigh := by
  cases hold : device.kind with
  | clock c =>
      rw [hold] at hkind hvalid
      have hclock : c = c.after cycles := DeviceKind.clock.inj hkind
      have hnext : settled.kind = .clock (c.after (cycles + 1)) := by
        rw [hsettled, ← Clock.tick_after hvalid, ← hclock]
        simp only [advance, hold]
        rfl
      simp only [latch, hnext]
      rfl
  | generator g =>
      rw [hold] at hkind
      have hcursor : g.cursor = cycles % g.waveform.length :=
        congrArg Generator.cursor (DeviceKind.generator.inj hkind)
      have hnext : settled.kind = .generator g.tick := by
        rw [hsettled]
        simp only [advance, hold]
        rfl
      simp only [latch, hnext, DeviceKind.after, Generator.tick, hcursor, Nat.mod_add_mod]
  | flipFlop cell =>
      rw [hold] at hkind
      have hnext : settled.kind = .flipFlop cell := by
        rw [hsettled]
        simp only [advance, hold]
        exact hold
      simp only [latch, hnext, DeviceKind.flipFlop.inj hkind]
      rfl
  | switch s =>
      rw [hold] at hkind
      have hnext : settled.kind = .switch s := by
        rw [hsettled]
        simp only [advance, hold]
        exact hold
      simp only [latch, hnext, DeviceKind.switch.inj hkind]
      rfl
  | _ =>
      have hnext : settled.kind = device.kind := by
        rw [hsettled]
        simp only [advance, hold]
      simp only [latch, hnext, hold]
      rfl

theorem evaluate_eq_rule {device : Device} (hcombinational : device.isCombinational)
    {read : InputPin → Signal} {level : Driver → Bool}
    (h : ∀ pin, (read pin).isHigh = device.inputLevel level pin) (cycle : Nat)
    (switched stored : Bool) :
    device.evaluate read = some (.ofLevel (device.rule cycle switched stored level .out)) := by
  simp only [isCombinational, type] at hcombinational
  cases hkind : device.kind with
  | gate op arity =>
      have hmap : (device.inputs.pins.map read).map Signal.isHigh =
          device.inputs.pins.map (device.inputLevel level) := by
        rw [List.map_map]
        exact List.map_congr_left fun pin _ => h pin
      simp [evaluate, rule, hkind, GateOp.evaluate, hmap, GateOp.onLevels_eq_function]
  | xor => simp [evaluate, rule, hkind, Signal.xor, h]
  | not => simp [evaluate, rule, hkind, Signal.not, h]
  | _ => simp [hkind, DeviceKind.type, DeviceType.isCombinational] at hcombinational

end Device

namespace Network

variable {circuit network : Network} {past : List (DeviceId → Bool)} {now : DeviceId → Bool}
  {b : Behaviour}

theorem Acyclic.of_bare_eq (h : circuit.Acyclic) (hbare : network.bare = circuit.bare) :
    network.Acyclic := by
  have hwires : network.wires = circuit.wires := wires_of_bare_eq hbare
  have hwire : network.CombinationalWire = circuit.CombinationalWire := by
    ext source target
    rw [CombinationalWire, CombinationalWire, isCombinationalAt_of_bare_eq hbare, hwires]
  unfold Acyclic
  rw [hwire]
  exact h

theorem WellWired.isHigh_reads (h : network.WellWired) {id : DeviceId} {device : Device}
    (hdevice : network.device? id = some device) {level : Driver → Bool}
    (hlevel : ∀ pin driver signal, device.driver? pin = some driver →
      network.signal? driver = some signal → signal.isHigh = level driver) (pin : InputPin) :
    (network.reads device pin).isHigh = device.inputLevel level pin := by
  unfold reads Device.inputLevel
  cases hdriver : device.driver? pin with
  | none => rfl
  | some driver =>
      obtain ⟨source, hsource, hpin⟩ := h.drivers hdevice hdriver
      obtain ⟨signal, hsignal⟩ :=
        Option.isSome_iff_exists.1 ((source.output?_isSome driver.pin).2 hpin)
      have hshown : network.signal? driver = some signal := by
        simp [signal?, hsource, hsignal]
      simp only [Option.bind_some, Option.any_some, hshown, Option.getD_some]
      exact hlevel pin driver signal hdriver hshown

/-- Levels that are those of the sources and flip-flops and satisfy the rules of the others are the
levels of the settled network. -/
theorem IsSettled.level_eq (h : network.IsSettled) (hwired : network.WellWired)
    (hacyclic : network.Acyclic) {level : Driver → Bool}
    (hsequential : ∀ {id device pin signal}, network.device? id = some device →
      ¬ device.isCombinational → device.output? pin = some signal →
        signal.isHigh = level ⟨id, pin⟩)
    (hcombinational : ∀ {id device}, network.device? id = some device → device.isCombinational →
      ∃ cycle switched stored,
        level ⟨id, .out⟩ = device.rule cycle switched stored level .out)
    {driver : Driver} {signal : Signal} (hsignal : network.signal? driver = some signal) :
    signal.isHigh = level driver := by
  obtain ⟨id, pin⟩ := driver
  induction id using hacyclic.wellFounded.induction generalizing pin signal with
  | _ id ih =>
      obtain ⟨device, hdevice, hout⟩ := Option.bind_eq_some_iff.1 hsignal
      by_cases hkind : device.isCombinational
      · obtain rfl : pin = .out := by
          have hmem : pin ∈ device.outputs.pins := by
            rw [← Device.hasOutput_iff_mem, ← Device.output?_isSome, hout]
            rfl
          rw [(hwired.shaped hdevice).outputs_of_isCombinational hkind] at hmem
          exact List.mem_singleton.1 hmem
        -- The inputs are driven by settled outputs, which are further up the wires or sequential.
        have hread (input : InputPin) :
            (network.reads device input).isHigh = device.inputLevel level input := by
          refine hwired.isHigh_reads hdevice (fun input driver shown hdriver hshown => ?_) input
          obtain ⟨source, hsource, hsourceOut⟩ := Option.bind_eq_some_iff.1 hshown
          by_cases hsourceKind : source.isCombinational
          · exact ih driver.device ⟨isCombinationalAt_iff.2 ⟨source, hsource, hsourceKind⟩,
              isCombinationalAt_iff.2 ⟨device, hdevice, hkind⟩, ⟨driver, id, input⟩,
              (hwired.wires driver id input).2 ⟨device, hdevice, hdriver⟩, rfl, rfl⟩ driver.pin
              hshown
          · exact hsequential hsource hsourceKind hsourceOut
        obtain ⟨cycle, switched, stored, hrule⟩ := hcombinational hdevice hkind
        have hvalue := h id device _ hdevice
          (Device.evaluate_eq_rule hkind hread cycle switched stored)
        have hout : device.output? .out = some signal := hout
        rw [hvalue] at hout
        rw [← Option.some.inj hout, Signal.isHigh_ofLevel, hrule]
      · exact hsequential hdevice hkind hout

/-- A network of the wiring of a circuit that is where a behaviour is after some cycles; `now` are
the states of the switches. -/
structure Follows (network circuit : Network) (past : List (DeviceId → Bool))
    (now : DeviceId → Bool) (b : Behaviour) : Prop where
  bare : network.bare = circuit.bare
  cycle : network.cycle = past.length
  kind : ∀ {id device}, network.device? id = some device →
    device.kind = device.kind.after past.length (now id) (b.stored past.length id)
      (device.inputLevel (b.level past.length) .clock)
  level : past ≠ [] → ∀ {driver signal}, network.signal? driver = some signal →
    signal.isHigh = b.level past.length driver

/-- The network after one cycle in a given order, when one pass settles it. -/
def cycleOnce (network : Network) (order : List DeviceId) : Network :=
  (network.advance.pass order).1.latch.finishCycle

theorem isSettled_pass_evaluationOrder (hwired : network.WellWired) (hacyclic : network.Acyclic) :
    (network.pass network.evaluationOrder).1.IsSettled := by
  obtain ⟨hmem, -, hpairwise⟩ := hwired.evaluationOrder_of_acyclic hacyclic
  have hself (id : DeviceId) : id ∉ network.feedersAt id := fun hfeeds =>
    hacyclic id (.single (hwired.mem_feedersAt_iff_wire.1 hfeeds))
  intro id device signal hdevice hsignal
  have hcombinational : network.isCombinationalAt id := by
    rw [← isCombinationalAt_of_bare_eq (network.bare_pass _)]
    exact isCombinationalAt_iff.2
      ⟨device, hdevice, Device.isCombinational_of_evaluate hsignal⟩
  exact hwired.settledAt_pass (fun id _ => hself id) hpairwise id ((hmem id).2 hcombinational)
    device signal hdevice hsignal

theorem device?_pass_advance {order : List DeviceId} {id : DeviceId} {passed : Device}
    (h : (network.advance.pass order).1.device? id = some passed) :
    ∃ device, network.device? id = some device ∧ device.bare = passed.bare ∧
      passed.kind = device.advance.kind ∧ (¬ passed.isCombinational → passed = device.advance) := by
  obtain ⟨published, hpublished, hkind, hsame⟩ := device?_pass h
  obtain ⟨same, hsamePublished, hbare⟩ := device?_of_bare_eq (network.advance.bare_pass order) h
  cases hsamePublished.symm.trans hpublished
  rw [device?_advance] at hpublished
  obtain ⟨device, hdevice, rfl⟩ := Option.map_eq_some_iff.1 hpublished
  rw [Device.bare_advance] at hbare
  refine ⟨device, hdevice, hbare, hkind, fun hsequential => hsame fun hcombinational => ?_⟩
  rw [← isCombinationalAt_of_bare_eq (network.advance.bare_pass order)] at hcombinational
  obtain ⟨same, hsame, hsameKind⟩ := isCombinationalAt_iff.1 hcombinational
  cases h.symm.trans hsame
  exact hsequential hsameKind

theorem Follows.level_pass (h : network.Follows circuit past now b) (hwired : circuit.WellWired)
    (hacyclic : circuit.Acyclic) (hb : circuit.Obeys (past ++ [now]) b) {driver : Driver}
    {signal : Signal}
    (hsignal : (network.advance.pass circuit.evaluationOrder).1.signal? driver = some signal) :
    signal.isHigh = b.level (past.length + 1) driver := by
  have hpublished : network.advance.bare = circuit.bare := by rw [bare_advance, h.bare]
  have hsettled : (network.advance.pass circuit.evaluationOrder).1.IsSettled := by
    rw [← evaluationOrder_of_bare_eq hpublished]
    exact isSettled_pass_evaluationOrder (hwired.of_bare_eq hpublished)
      (hacyclic.of_bare_eq hpublished)
  have hbare : (network.advance.pass circuit.evaluationOrder).1.bare = circuit.bare := by
    rw [bare_pass, hpublished]
  have hnetwork := hwired.of_bare_eq h.bare
  have hpassedWired := hwired.of_bare_eq hbare
  have hobeys := hb.of_bare_eq hbare
  have hnow : (past ++ [now])[past.length]? = some now := List.getElem?_concat_length
  refine hsettled.level_eq hpassedWired (hacyclic.of_bare_eq hbare) ?_ ?_ hsignal
  · intro id passed pin shown hpassed hsequential hout
    obtain ⟨device, hdevice, hdeviceBare, -, hsame⟩ := device?_pass_advance hpassed
    have hpin : passed.hasOutput pin := by
      rw [← Device.output?_isSome, hout]
      rfl
    rw [hobeys.level_succ hnow hpassed hpin, ← Device.rule_of_bare_eq hdeviceBare]
    rw [hsame hsequential] at hout
    rw [← Device.isCombinational_bare, ← hdeviceBare, Device.isCombinational_bare] at hsequential
    exact Device.level_advance (hnetwork.shaped hdevice) (hnetwork.valid hdevice) hsequential
      (h.kind hdevice) hout _
  · intro id passed hpassed hcombinational
    have hpin : passed.hasOutput .out := by
      rw [Device.hasOutput_iff_mem,
        (hpassedWired.shaped hpassed).outputs_of_isCombinational hcombinational]
      exact List.mem_singleton_self _
    exact ⟨_, _, _, hobeys.level_succ hnow hpassed hpin⟩

/-- One cycle keeps a network of a circuit without feedback following its behaviour. -/
theorem Follows.cycleOnce (h : network.Follows circuit past now b) (hwired : circuit.WellWired)
    (hacyclic : circuit.Acyclic) (hb : circuit.Obeys (past ++ [now]) b) :
    (network.cycleOnce circuit.evaluationOrder).Follows circuit (past ++ [now]) now b := by
  have hbare : (network.advance.pass circuit.evaluationOrder).1.bare = circuit.bare := by
    rw [bare_pass, bare_advance, h.bare]
  have hnetwork := hwired.of_bare_eq h.bare
  have hlength : (past ++ [now]).length = past.length + 1 := by simp
  constructor
  · rw [Network.cycleOnce, bare_finishCycle, bare_latch, hbare]
  · rw [Network.cycleOnce, finishCycle, cycle_latch, cycle_pass, cycle_advance, h.cycle, hlength]
  · intro id latched hlatched
    change (network.advance.pass circuit.evaluationOrder).1.latch.device? id = some latched
      at hlatched
    rw [device?_latch] at hlatched
    obtain ⟨passed, hpassed, rfl⟩ := Option.map_eq_some_iff.1 hlatched
    obtain ⟨device, hdevice, hdeviceBare, hkind, -⟩ := device?_pass_advance hpassed
    have hread (pin : InputPin) :
        ((network.advance.pass circuit.evaluationOrder).1.reads passed pin).isHigh =
          passed.inputLevel (b.level (past.length + 1)) pin :=
      (hwired.of_bare_eq hbare).isHigh_reads hpassed
        (fun _ _ _ _ hsignal => h.level_pass hwired hacyclic hb hsignal) pin
    have hcycle := Device.kind_cycle (hnetwork.valid hdevice) hkind (h.kind hdevice)
      ((network.advance.pass circuit.evaluationOrder).1.reads passed)
    refine hcycle.trans ?_
    rw [hlength]
    by_cases htype : (passed.latch
        ((network.advance.pass circuit.evaluationOrder).1.reads passed)).type = .flipFlop
    · rw [Device.type_latch] at htype
      have hstored := (hb.of_bare_eq hbare).stored_succ
        (by rw [hlength]; exact Nat.lt_succ_self _) hpassed htype
      have hclock : device.inputLevel (b.level past.length) =
          passed.inputLevel (b.level past.length) := by
        rw [Device.inputLevel_of_bare_eq hdeviceBare]
      rw [hstored, Device.latchRule, hclock, ← hread .data, ← hread .clock, ← hread .set,
        ← hread .clear, Device.inputLevel_latch, hread .clock]
      rfl
    · exact DeviceKind.after_of_type_ne htype _ _ _ _ _ _
  · intro _ driver signal hsignal
    have hshown :
        (network.advance.pass circuit.evaluationOrder).1.signal? driver = some signal := by
      rw [← signal?_latch]
      exact hsignal
    rw [h.level_pass hwired hacyclic hb hshown, hlength]

end Network

end LogicBench
