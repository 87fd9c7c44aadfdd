import LogicBench.Proofs.Device.Latching
import LogicBench.Proofs.Simulator.Cycle
import LogicBench.Proofs.Simulator.History

/-!
# Flip-flops in a simulation

In each completed cycle a flip-flop of a network takes in the levels that its inputs then show, and
in no other way does it change but by a cold start. Its stored bit is therefore left by the levels
that it has read since the start, and a failed cycle counts for nothing.
-/

namespace LogicBench

def FlipFlop.Levels.ofReads (read : InputPin → Signal) : FlipFlop.Levels where
  data := (read .data).isHigh
  clock := (read .clock).isHigh
  set := (read .set).isHigh
  clear := (read .clear).isHigh

namespace Device

variable {device : Device} {cell : FlipFlop}

theorem exists_cell_of_type (h : device.type = .flipFlop) :
    ∃ cell, device.kind = .flipFlop cell := by
  unfold type at h
  cases hkind : device.kind with
  | flipFlop cell => exact ⟨cell, rfl⟩
  | _ =>
      rw [hkind] at h
      cases h

theorem exists_cell_of_coldStart (h : device.coldStart.kind = .flipFlop cell) : cell = {} := by
  have htype : device.type = .flipFlop := by
    rw [← type_coldStart, type, h]
    rfl
  obtain ⟨old, hold⟩ := exists_cell_of_type htype
  rw [show device.coldStart.kind = device.kind.reset from rfl, hold] at h
  exact (DeviceKind.flipFlop.inj h).symm

end Device

namespace Network

variable {network settled : Network} {states : List Network}

def levelsRead (states : List Network) (device : Device) : List FlipFlop.Levels :=
  states.map fun state => .ofReads (state.reads device)

/-- Whether each flip-flop is what the levels read in some states have made of a new one. -/
def Remembers (network : Network) (states : List Network) : Prop :=
  ∀ id device cell, network.device? id = some device → device.kind = .flipFlop cell →
    cell = ({} : FlipFlop).latchAll (levelsRead states device)

theorem levelsRead_of_bare_eq (states : List Network) {device other : Device}
    (h : device.bare = other.bare) : levelsRead states device = levelsRead states other := by
  unfold levelsRead
  congr 1
  ext1 state
  rw [state.reads_of_bare_eq h]

theorem remembers_coldStart (network : Network) : network.coldStart.Remembers [] := by
  intro id started cell hstarted hkind
  rw [device?_coldStart] at hstarted
  obtain ⟨device, -, rfl⟩ := Option.map_eq_some_iff.1 hstarted
  exact Device.exists_cell_of_coldStart hkind

/-- A completed cycle shows each flip-flop the levels that its inputs have at the end of it. -/
theorem Remembers.cycle (h : network.Remembers states) {order : List DeviceId}
    {maxPasses passes : Nat}
    (hsettle : network.advance.settle order maxPasses = (settled, some passes)) :
    settled.latch.finishCycle.Remembers (states ++ [settled.latch.finishCycle]) := by
  have hbare : settled.bare = network.bare := by
    rw [← network.bare_advance, ← network.advance.bare_settle order maxPasses, hsettle]
  intro id latched cell hlatched hkind
  rw [show settled.latch.finishCycle.device? id = settled.latch.device? id from rfl,
    device?_latch] at hlatched
  obtain ⟨last, hlast, rfl⟩ := Option.map_eq_some_iff.1 hlatched
  obtain ⟨device, hdevice, hdeviceBare⟩ := device?_of_bare_eq hbare hlast
  obtain ⟨same, hsame, -, hpublished, -⟩ := device?_of_settle_advance hsettle hdevice
  obtain rfl : last = same := Option.some.inj (hlast.symm.trans hsame)
  have htype : device.type = .flipFlop := by
    rw [Device.type_of_bare_eq hdeviceBare, ← Device.type_latch last (settled.reads last),
      Device.type, hkind]
    rfl
  obtain ⟨old, hold⟩ := Device.exists_cell_of_type htype
  have hlastKind : last.kind = .flipFlop old :=
    hpublished.trans (Device.kind_advance_flipFlop hold)
  rw [Device.kind_latch_flipFlop hlastKind] at hkind
  obtain rfl := DeviceKind.flipFlop.inj hkind
  -- The device reads the same with its new state, and after the latching as before it.
  have hlatchedBare : (last.latch (settled.reads last)).bare = device.bare := by
    rw [Device.bare_latch, hdeviceBare]
  have hreads : settled.latch.finishCycle.reads (last.latch (settled.reads last)) =
      settled.reads last := by
    rw [reads_of_bare_eq _ (Device.bare_latch last (settled.reads last))]
    exact congrFun settled.reads_latch last
  have hlevels : levelsRead (states ++ [settled.latch.finishCycle])
      (last.latch (settled.reads last)) =
        levelsRead states device ++ [.ofReads (settled.reads last)] := by
    rw [levelsRead, List.map_append, List.map_singleton, hreads]
    exact congrArg (· ++ _) (levelsRead_of_bare_eq states hlatchedBare)
  rw [hlevels, FlipFlop.latchAll_concat, ← h id device old hdevice hold]
  rfl

theorem Remembers.setSwitch (h : network.Remembers states) {id : DeviceId} {state : Bool}
    {set : Network} (hset : network.setSwitch id state = .ok set) : set.Remembers states := by
  obtain ⟨device, switch, hdevice, -, rfl⟩ := setSwitch_eq_ok_iff.1 hset
  intro other changed cell hchanged hkind
  rw [device?_setDevice _ hdevice] at hchanged
  split at hchanged
  · obtain rfl := Option.some.inj hchanged
    cases hkind
  · exact h other changed cell hchanged hkind

end Network

namespace Simulator

variable {simulator : Simulator} {chronicle : Chronicle}

theorem remembers_continueRun (h : simulator.network.Remembers chronicle.states) (cycles : Nat) :
    (simulator.continueRun cycles).1.network.Remembers
      (chronicle.extend (simulator.completed cycles)).states := by
  induction cycles generalizing simulator chronicle with
  | zero =>
      rw [completed, Chronicle.extend_nil]
      exact h
  | succ cycles ih =>
      cases hcycle : simulator.executeCycle.2 with
      | ok passes =>
          rw [continueRun_succ_of_ok hcycle, completed_succ_of_ok hcycle, Chronicle.extend_cons]
          apply ih
          obtain ⟨settled, hsettle, hnext⟩ := executeCycle_eq_of_ok hcycle
          rw [hnext]
          exact h.cycle hsettle
      | error cause =>
          rw [continueRun_succ_of_error hcycle, completed_succ_of_error hcycle,
            Chronicle.extend_nil]
          exact h

theorem remembers_perform (h : simulator.network.Remembers chronicle.states)
    (operation : Operation) :
    (simulator.perform operation).1.network.Remembers
      (chronicle.perform simulator operation).states := by
  cases operation with
  | run cycles =>
      have hstart : simulator.coldStart.network.Remembers ({} : Chronicle).states :=
        simulator.network.remembers_coldStart
      exact remembers_continueRun hstart cycles
  | continueRun cycles => exact remembers_continueRun h cycles
  | executeCycle =>
      rw [perform_executeCycle_eq]
      exact remembers_continueRun h 1
  | setSwitch name state =>
      rw [perform]
      cases hset : simulator.setSwitch name state with
      | error cause => exact h
      | ok next =>
          obtain ⟨id, network, -, hnetwork, rfl⟩ := setSwitch_eq_ok_iff.1 hset
          exact h.setSwitch hnetwork
  | addMonitor signal =>
      have hmonitoring : (Operation.addMonitor signal).isMonitoring := rfl
      obtain ⟨hnetwork, hstates⟩ :=
        (SameNetwork.refl simulator).monitor (Eq.refl chronicle.states) hmonitoring
      rw [hnetwork.network, hstates]
      exact h
  | removeMonitor signal =>
      have hmonitoring : (Operation.removeMonitor signal).isMonitoring := rfl
      obtain ⟨hnetwork, hstates⟩ :=
        (SameNetwork.refl simulator).monitor (Eq.refl chronicle.states) hmonitoring
      rw [hnetwork.network, hstates]
      exact h

theorem remembers_performAll (h : simulator.network.Remembers chronicle.states)
    (operations : List Operation) :
    (simulator.performAll operations).1.network.Remembers
      (chronicle.performAll simulator operations).states := by
  induction operations generalizing simulator chronicle with
  | nil => exact h
  | cons operation rest ih => exact ih (remembers_perform h operation)

end Simulator

namespace FlipFlop

open Simulator in
/-- After a reset a flip-flop stores what its last deciding latching asks for, or zero if there is
none. A rise of the clock that set or clear hides is lost: as long as the clock stays high, the bit
is that of the last latching with set or clear high, and data is never stored. In a simulation the
latchings of a flip-flop are the cycles completed since the last start, with the levels read in
them, whatever operations are carried out in between and whether they fail or not. -/
theorem stored_is_last_decision :
    (∀ (cell : FlipFlop) (history : List Levels) (bit : Bool),
      (cell.reset.latchAll history).stored = bit ↔ Leaves history bit) ∧
    (∀ (cell : FlipFlop) (before held : List Levels) (hidden : Levels),
      hidden.clock → hidden.isForced → (∀ later ∈ held, later.clock) →
      ∃ last, ((hidden :: held).filter Levels.isForced).getLast? = some last ∧
        (cell.latchAll (before ++ hidden :: held)).stored = last.set) ∧
    ∀ (circuit : Network) (names : Names) (recorder : Recorder) (maxPasses : Nat)
      (operations : List Operation), circuit.Built →
      let simulator := ofNetwork names circuit recorder maxPasses
      let chronicle := ({} : Chronicle).performAll simulator operations
      ∀ id device cell,
        (simulator.performAll operations).1.network.device? id = some device →
        device.kind = .flipFlop cell →
        Leaves (Network.levelsRead chronicle.states device) cell.stored := by
  refine ⟨stored_eq_iff_leaves, ?_, ?_⟩
  · intro cell before held hidden hclock hhidden hheld
    have hfront : hidden ∈ (hidden :: held).filter Levels.isForced :=
      List.mem_filter.2 ⟨List.mem_cons_self, hhidden⟩
    obtain ⟨last, hlast⟩ := Option.isSome_iff_exists.1
      (List.getLast?_isSome.2 (List.ne_nil_of_mem hfront))
    refine ⟨last, hlast, ?_⟩
    rw [latchAll_append, stored_latchAll_of_hidden _ hclock hhidden hheld, hlast, Option.any_some]
  · intro circuit names recorder maxPasses operations hbuilt simulator chronicle id device cell
      hdevice hkind
    have hstart : simulator.network.Remembers ({} : Chronicle).states := by
      show circuit.Remembers []
      rw [← hbuilt.coldStart_eq]
      exact circuit.remembers_coldStart
    rw [remembers_performAll hstart operations id device cell hdevice hkind]
    exact leaves_latchAll_reset {} _

/-- Clear hides the rise of the clock in the second latching, and set the one in the second cycle of
a simulation; the clock stays high behind both. -/
theorem stored_is_last_decision_hidden :
    let circuit := (Definition.ofSource "DEVICES c:CLOCK 2, s:SWITCH 1, r:SWITCH 0, d:DTYPE;
      CONNECT r > d.DATA, c > d.CLK, s > d.SET, r > d.CLEAR; MONITOR d.Q; END").network
    let simulator := Simulator.ofNetwork {} circuit {} 20
    let operations := [.run 2, .setSwitch "s" false, .executeCycle]
    let chronicle := ({} : Chronicle).performAll simulator operations
    let before : Levels := ⟨true, false, false, false⟩
    let hidden : Levels := ⟨true, true, false, true⟩
    let later : Levels := ⟨true, true, false, false⟩
    (({} : FlipFlop).latchAll ([before] ++ [hidden, later, later])).stored = false ∧
      circuit.Built ∧ ∃ device cell,
        (simulator.performAll operations).1.network.device? 3 = some device ∧
          device.kind = .flipFlop cell ∧ cell.stored = true ∧
          Leaves (Network.levelsRead chronicle.states device) cell.stored := by
  intro circuit simulator operations chronicle before hidden later
  obtain ⟨-, hhold, hsimulation⟩ := stored_is_last_decision
  obtain ⟨last, hlast, hstored⟩ := hhold {} [before] [later, later] hidden rfl rfl (by decide)
  have hhidden : hidden = last := Option.some.inj hlast
  have hbuilt : circuit.Built := Definition.built_ofSource _
  have hkind : ((simulator.performAll operations).1.network.device? 3).map Device.kind =
      some (.flipFlop ⟨true, true⟩) := by
    unfold simulator circuit operations
    decide +kernel
  obtain ⟨device, hdevice, hcell⟩ := Option.map_eq_some_iff.1 hkind
  have hleaves := hsimulation circuit {} {} 20 operations hbuilt 3 device _ hdevice hcell
  exact ⟨hstored.trans (hhidden ▸ rfl), hbuilt, device, _, hdevice, hcell, rfl, hleaves⟩

end FlipFlop

end LogicBench
