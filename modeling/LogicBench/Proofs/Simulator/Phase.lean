import LogicBench.Proofs.Simulator.Cycle
import Mathlib.Algebra.Ring.Parity

/-!
# Clocks and generators keep their phase

A clock or a generator has no state but its place in a period, and this place is a function of the
number of completed cycles. Publishing moves the place by one, a cycle that fails puts it back with
everything else, a cold start resets it together with the count, and no other step touches it. So
the phase never drifts, whatever the operations, and a countdown never runs below one.
-/

namespace LogicBench

theorem DeviceType.isSource_of_isCombinational {type : DeviceType} (h : type.isCombinational) :
    type.isSource = false := by
  cases type with
  | gate _ | xor | not => rfl
  | _ => cases h

namespace Device

/-- The level of an output, edge marks aside. -/
def level? (device : Device) (pin : OutputPin) : Option Bool :=
  (device.output? pin).map Signal.isHigh

/-- Whether a clock or a generator is where it has to be after some cycles. Before the first cycle
the output of a generator does not show a bit of its waveform yet. -/
structure InPhase (device : Device) (cycles : Nat) : Prop where
  clock : ∀ {clock}, device.kind = .clock clock →
    clock = clock.after cycles ∧ device.level? .out = some clock.isHigh
  generator : ∀ {generator}, device.kind = .generator generator →
    generator.cursor = cycles % generator.waveform.length ∧
      (0 < cycles → device.level? .out =
        generator.waveform[(cycles - 1) % generator.waveform.length]?)

variable {device : Device} {cycles : Nat}

theorem level?_drive {pin : OutputPin} (h : device.hasOutput pin) (isHigh : Bool) :
    (device.drive pin isHigh).level? pin = some isHigh := by
  rw [level?, drive, output?_setOutput_self h, Option.map_some, Signal.isHigh_transition]

theorem Shaped.hasOutput_iff (h : device.Shaped) (pin : OutputPin) :
    device.hasOutput pin ↔ pin ∈ device.kind.outputPins := by
  rw [hasOutput_iff_mem, h.outputs]

theorem Shaped.level?_coldStart (h : device.Shaped) (hpins : device.kind.outputPins = [.out]) :
    device.coldStart.level? .out = some (device.kind.startLevel .out) := by
  have houtputs : device.outputs.map (·.1) = [.out] := h.outputs.trans hpins
  obtain ⟨⟨pin, signal⟩, hsole, rfl⟩ := List.map_eq_singleton_iff.1 houtputs
  simp [level?, output?, coldStart, hsole, PinMap.get?]

theorem inPhase_of_not_isSource (h : device.type.isSource = false) (cycles : Nat) :
    device.InPhase cycles := by
  constructor <;> intro source hkind <;> rw [type, hkind] at h <;> cases h

theorem inPhase_switch {switch : Switch} (h : device.kind = .switch switch) (cycles : Nat) :
    device.InPhase cycles := by
  constructor <;> intro source hkind <;> rw [h] at hkind <;> cases hkind

theorem inPhase_coldStart (h : device.Shaped) : device.coldStart.InPhase 0 := by
  constructor
  · intro clock hclock
    cases hkind : device.kind with
    | clock old =>
        obtain rfl : old.reset = clock := by simpa [coldStart, hkind, DeviceKind.reset] using hclock
        have hlevel := h.level?_coldStart (by rw [hkind]; rfl)
        rw [hkind] at hlevel
        refine ⟨?_, hlevel⟩
        simp [Clock.reset, Clock.after]
    | _ => simp [coldStart, hkind, DeviceKind.reset] at hclock
  · intro generator hgenerator
    cases hkind : device.kind with
    | generator old =>
        obtain rfl : old.reset = generator := by
          simpa [coldStart, hkind, DeviceKind.reset] using hgenerator
        exact ⟨(Nat.zero_mod _).symm, fun hpos => absurd hpos (Nat.lt_irrefl 0)⟩
    | _ => simp [coldStart, hkind, DeviceKind.reset] at hgenerator

namespace InPhase

/-- A clock counts down by one, or starts its next half-period; a generator shows the bit at its
place and moves on. -/
theorem advance (h : device.InPhase cycles) (hshaped : device.Shaped)
    (hvalid : device.kind.Valid) : device.advance.InPhase (cycles + 1) := by
  constructor
  · intro clock hclock
    cases hkind : device.kind with
    | clock old =>
        rw [hkind] at hvalid
        have hout : device.hasOutput .out := by
          rw [hshaped.hasOutput_iff, hkind]
          exact List.mem_singleton_self _
        obtain rfl : old.tick = clock := by
          simpa [Device.advance, hkind, drive, setOutput] using hclock
        obtain ⟨hafter, -⟩ := h.clock hkind
        constructor
        · calc old.tick
            _ = (old.after cycles).tick := congrArg Clock.tick hafter
            _ = old.after (cycles + 1) := Clock.tick_after hvalid cycles
            _ = old.tick.after (cycles + 1) := by
                rw [Clock.after, Clock.after, Clock.halfPeriod_tick]
        · simp only [Device.advance, hkind]
          exact level?_drive hout _
    | _ => simp [Device.advance, hkind, drive, setOutput] at hclock
  · intro generator hgenerator
    cases hkind : device.kind with
    | generator old =>
        rw [hkind] at hvalid
        have hout : device.hasOutput .out := by
          rw [hshaped.hasOutput_iff, hkind]
          exact List.mem_singleton_self _
        obtain rfl : old.tick = generator := by
          simpa [Device.advance, hkind, drive, setOutput] using hgenerator
        obtain ⟨hcursor, -⟩ := h.generator hkind
        have hbound : cycles % old.waveform.length < old.waveform.length :=
          Nat.mod_lt _ (List.length_pos_iff.2 hvalid)
        constructor
        · show (old.cursor + 1) % old.waveform.length = (cycles + 1) % old.waveform.length
          rw [hcursor, Nat.mod_add_mod]
        · intro _
          have hlevel : device.advance.level? .out = some old.bit := by
            simp only [Device.advance, hkind]
            exact level?_drive hout _
          rw [hlevel, Generator.bit, hcursor, Generator.waveform_tick, Nat.add_sub_cancel,
            List.getD_eq_getElem?_getD, List.getElem?_eq_getElem hbound, Option.getD_some]
    | _ => simp [Device.advance, hkind, drive, setOutput] at hgenerator

theorem latch (h : device.InPhase cycles) (read : InputPin → Signal) :
    (device.latch read).InPhase cycles := by
  by_cases htype : device.type = .flipFlop
  · apply inPhase_of_not_isSource
    rw [type_latch, htype]
    rfl
  · rw [latch_of_type_ne htype]
    exact h

theorem clock_eq (h : device.InPhase cycles) {clock : Clock} (hkind : device.kind = .clock clock)
    (hvalid : device.kind.Valid) :
    clock.countdown = clock.halfPeriod - cycles % clock.halfPeriod ∧ 1 ≤ clock.countdown ∧
      (clock.isHigh ↔ Odd (cycles / clock.halfPeriod)) := by
  obtain ⟨hclock, -⟩ := h.clock hkind
  have hcountdown : clock.countdown = clock.halfPeriod - cycles % clock.halfPeriod :=
    congrArg Clock.countdown hclock
  have hmod : cycles % clock.halfPeriod < clock.halfPeriod := by
    rw [hkind] at hvalid
    exact Nat.mod_lt _ hvalid
  refine ⟨hcountdown, by omega, ?_⟩
  rw [congrArg Clock.isHigh hclock, Nat.odd_iff]
  exact decide_eq_true_iff

theorem generator_eq (h : device.InPhase cycles) {generator : Generator}
    (hkind : device.kind = .generator generator) (hvalid : device.kind.Valid) :
    generator.cursor = cycles % generator.waveform.length ∧
      generator.cursor < generator.waveform.length ∧
      generator.waveform[cycles % generator.waveform.length]? = some generator.bit ∧
      (1 ≤ cycles → ∃ isHigh,
        generator.waveform[(cycles - 1) % generator.waveform.length]? = some isHigh ∧
          device.level? .out = some isHigh) := by
  obtain ⟨hcursor, hlevel⟩ := h.generator hkind
  have hbound (place : Nat) : place % generator.waveform.length < generator.waveform.length := by
    rw [hkind] at hvalid
    exact Nat.mod_lt _ (List.length_pos_iff.2 hvalid)
  refine ⟨hcursor, hcursor ▸ hbound cycles, ?_, ?_⟩
  · rw [Generator.bit, hcursor, List.getD_eq_getElem?_getD, List.getElem?_eq_getElem (hbound _),
      Option.getD_some]
  · intro hpositive
    refine ⟨_, List.getElem?_eq_getElem (hbound _), ?_⟩
    rw [hlevel hpositive, List.getElem?_eq_getElem (hbound _)]

end InPhase

end Device

namespace Network

/-- Whether all clocks and generators have kept step with the number of completed cycles. -/
def InPhase (network : Network) : Prop :=
  ∀ {id device}, network.device? id = some device → device.InPhase network.cycle

variable {network : Network}

theorem inPhase_coldStart (h : network.WellWired) : network.coldStart.InPhase := by
  intro id started hstarted
  rw [device?_coldStart] at hstarted
  obtain ⟨device, hdevice, rfl⟩ := Option.map_eq_some_iff.1 hstarted
  exact Device.inPhase_coldStart (h.shaped hdevice)

theorem InPhase.cycle (h : network.InPhase) (hwired : network.WellWired) {order : List DeviceId}
    {maxPasses passes : Nat} {settled : Network}
    (hsettle : network.advance.settle order maxPasses = (settled, some passes)) :
    settled.latch.finishCycle.InPhase := by
  have hcycle : settled.latch.finishCycle.cycle = network.cycle + 1 := by
    rw [finishCycle, cycle_latch, ← network.cycle_advance,
      ← network.advance.cycle_settle order maxPasses, hsettle]
  have hbare : settled.bare = network.bare := by
    rw [← network.bare_advance, ← network.advance.bare_settle order maxPasses, hsettle]
  intro id latched hlatched
  rw [show settled.latch.finishCycle.device? id = settled.latch.device? id from rfl,
    device?_latch] at hlatched
  obtain ⟨last, hlast, rfl⟩ := Option.map_eq_some_iff.1 hlatched
  obtain ⟨device, hdevice, hdeviceBare⟩ := device?_of_bare_eq hbare hlast
  obtain ⟨same, hsame, -, -, hpublished⟩ := device?_of_settle_advance hsettle hdevice
  obtain rfl : last = same := Option.some.inj (hlast.symm.trans hsame)
  apply Device.InPhase.latch
  rw [hcycle]
  by_cases hcombinational : device.isCombinational
  · apply Device.inPhase_of_not_isSource
    rw [← Device.type_of_bare_eq hdeviceBare]
    exact DeviceType.isSource_of_isCombinational hcombinational
  · rw [hpublished hcombinational]
    exact (h hdevice).advance (hwired.shaped hdevice) (hwired.valid hdevice)

/-- Sources are reset in the network that was built, however long they have run since. -/
theorem Built.kind_of_bare_eq {circuit : Network} (h : circuit.Built)
    (hbare : network.bare = circuit.bare) {id : DeviceId} {device : Device}
    (hdevice : network.device? id = some device) (hswitch : device.type ≠ .switch) :
    (circuit.device? id).map Device.kind = some device.kind.reset := by
  obtain ⟨declared, hdeclared, hdeclaredBare⟩ := device?_of_bare_eq hbare hdevice
  have hreset : declared.kind.reset = declared.kind :=
    congrArg Device.kind (h.device_coldStart declared (List.mem_of_getElem? hdeclared))
  have hbareKind {kind : DeviceKind} (hkind : kind.type ≠ .switch) : kind.bare = kind.reset := by
    cases kind with
    | switch _ => exact absurd rfl hkind
    | _ => rfl
  rw [hdeclared, Option.map_some, Option.some.injEq]
  calc declared.kind
    _ = declared.kind.bare := by
        rw [hbareKind (by rwa [← Device.type, Device.type_of_bare_eq hdeclaredBare]), hreset]
    _ = device.kind.bare := Device.kind_of_bare_eq hdeclaredBare
    _ = device.kind.reset := hbareKind hswitch

theorem InPhase.setSwitch (h : network.InPhase) {id : DeviceId} {state : Bool} {set : Network}
    (hset : network.setSwitch id state = .ok set) : set.InPhase := by
  obtain ⟨device, switch, hdevice, hkind, rfl⟩ := setSwitch_eq_ok_iff.1 hset
  intro other changed hchanged
  rw [device?_setDevice _ hdevice] at hchanged
  split at hchanged
  · obtain rfl := Option.some.inj hchanged
    exact Device.inPhase_switch rfl _
  · exact h hchanged

end Network

namespace Simulator

variable {simulator next : Simulator}

theorem Step.inPhase (h : simulator.Step next) (hwired : simulator.network.WellWired)
    (hphase : simulator.network.InPhase) : next.network.InPhase := by
  cases h with
  | cycle completed =>
      obtain ⟨settled, hsettle, hcycle⟩ := executeCycle_eq_of_ok completed
      rw [hcycle]
      exact hphase.cycle hwired hsettle
  | coldStart => exact Network.inPhase_coldStart hwired
  | setSwitch set => exact hphase.setSwitch set
  | addMonitor _ => exact hphase
  | removeMonitor _ => exact hphase

theorem Reaches.inPhase (h : simulator.Reaches next) (hwired : simulator.network.WellWired)
    (hphase : simulator.network.InPhase) : next.network.InPhase := by
  induction h with
  | refl => exact hphase
  | tail hreaches hstep ih =>
      exact hstep.inPhase (hwired.of_bare_eq (Reaches.sameCircuit hreaches).bare) ih

end Simulator

namespace Definition

open Simulator in
/-- After any operations on a simulator of a definition without errors, failed cycles included, the
number of completed cycles alone tells where the clocks and generators are: a clock has left what
this number leaves of its half-period, at least one cycle, and is high in every second half-period;
the next bit of a generator is the one at this number in its repeated waveform, and its output shows
the bit before. -/
theorem sources_keep_phase {source : String} (hvalid : (ofSource source).hasErrors = false)
    (maxPasses : Nat) (operations : List Operation) :
    let definition := ofSource source
    let simulator :=
      ofNetwork definition.names definition.network definition.recorder maxPasses
    let last := (simulator.performAll operations).1
    let cycles := last.cycleCount
    (0 < maxPasses → ofDefinition definition maxPasses = .ok simulator) ∧
    (∀ id device clock, last.network.device? id = some device → device.kind = .clock clock →
      (definition.network.device? id).map Device.kind =
          some (.clock (.ofHalfPeriod clock.halfPeriod)) ∧
        clock.countdown = clock.halfPeriod - cycles % clock.halfPeriod ∧ 1 ≤ clock.countdown ∧
        (clock.isHigh ↔ Odd (cycles / clock.halfPeriod)) ∧
        device.level? .out = some clock.isHigh) ∧
    (∀ id device generator, last.network.device? id = some device →
      device.kind = .generator generator →
      (definition.network.device? id).map Device.kind =
          some (.generator (.ofWaveform generator.waveform)) ∧
        generator.cursor = cycles % generator.waveform.length ∧
        generator.cursor < generator.waveform.length ∧
        generator.waveform[cycles % generator.waveform.length]? = some generator.bit ∧
        (1 ≤ cycles → ∃ isHigh,
          generator.waveform[(cycles - 1) % generator.waveform.length]? = some isHigh ∧
            device.level? .out = some isHigh)) := by
  intro definition simulator last cycles
  have hbuilt : definition.network.Built := built_ofSource source
  have hreaches : simulator.Reaches last := simulator.reaches_performAll operations
  have hbare : last.network.bare = definition.network.bare := hreaches.sameCircuit.bare
  have hwired : last.network.WellWired := hbuilt.wellWired.of_bare_eq hbare
  have hstart : definition.network.InPhase := by
    rw [← hbuilt.coldStart_eq]
    exact Network.inPhase_coldStart hbuilt.wellWired
  have hphase : last.network.InPhase := hreaches.inPhase hbuilt.wellWired hstart
  refine ⟨fun hpasses => ofDefinition_eq_ok hpasses hvalid, ?_, ?_⟩
  · intro id device clock hdevice hkind
    have hvalid := hwired.valid hdevice
    obtain ⟨hcountdown, hpositive, hhigh⟩ := (hphase hdevice).clock_eq hkind hvalid
    obtain ⟨-, hlevel⟩ := (hphase hdevice).clock hkind
    refine ⟨?_, hcountdown, hpositive, hhigh, hlevel⟩
    have hreset := hbuilt.kind_of_bare_eq hbare hdevice
      (by simp [Device.type, hkind, DeviceKind.type])
    rw [hkind] at hvalid hreset
    rw [hreset, Clock.ofHalfPeriod, Nat.max_eq_left hvalid]
    rfl
  · intro id device generator hdevice hkind
    have hreset := hbuilt.kind_of_bare_eq hbare hdevice
      (by simp [Device.type, hkind, DeviceKind.type])
    refine ⟨?_, (hphase hdevice).generator_eq hkind (hwired.valid hdevice)⟩
    rw [hreset, hkind]
    rfl

open Simulator in
/-- A clock and a generator beside a loop that does not settle in one of the cycles. -/
theorem sources_keep_phase_loop :
    let definition := ofSource "DEVICES s:SWITCH 0, c:CLOCK 2, g:SIGGEN 011, n:NAND 2;
      CONNECT s > n.I1, n > n.I2; MONITOR c, g; END"
    let simulator :=
      ofNetwork definition.names definition.network definition.recorder 20
    let last := (simulator.performAll
      [.run 3, .setSwitch "s" true, .continueRun 4, .setSwitch "s" false, .continueRun 2]).1
    definition.hasErrors = false ∧ last.cycleCount = 5 ∧
      ∃ device clock, last.network.device? 1 = some device ∧ device.kind = .clock clock ∧
        clock.countdown = clock.halfPeriod - 5 % clock.halfPeriod ∧
        device.level? .out = some clock.isHigh := by
  intro definition simulator last
  have hvalid : definition.hasErrors = false := by
    unfold definition
    decide +kernel
  have hcount : last.cycleCount = 5 := by
    unfold last simulator definition
    decide +kernel
  have hkind : (last.network.device? 1).map Device.kind = some (.clock ⟨2, 1, false⟩) := by
    unfold last simulator definition
    decide +kernel
  obtain ⟨-, hclocks, -⟩ := sources_keep_phase hvalid 20
    [.run 3, .setSwitch "s" true, .continueRun 4, .setSwitch "s" false, .continueRun 2]
  unfold last simulator definition at hkind hcount ⊢
  obtain ⟨device, hdevice, hclock⟩ := Option.map_eq_some_iff.1 hkind
  obtain ⟨-, hcountdown, -, -, hlevel⟩ := hclocks 1 device _ hdevice hclock
  rw [hcount] at hcountdown
  exact ⟨hvalid, hcount, device, _, hdevice, hclock, hcountdown, hlevel⟩

end Definition

end LogicBench
