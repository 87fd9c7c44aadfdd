import LogicBench.Proofs.Simulator.Steps
import Mathlib.Data.Set.Card

/-!
# The wiring is recorded consistently

A network tells its wiring twice, in the list of wires and in the inputs of the devices. The
warnings and `fanout` read the list, the engine reads the inputs. Whatever is done to a network, the
two stay in step, names stay distinct and wires start at outputs. Only two kinds of change touch any
of this; all others keep the bare network.
-/

namespace LogicBench

def Wire.target (wire : Wire) : DeviceId × InputPin :=
  (wire.device, wire.pin)

namespace Network

/-- What can be done to a network. A cycle may be one of any simulator. -/
inductive Change where
  | addDevice (name : String) (kind : DeviceKind)
  | connect (source : Driver) (id : DeviceId) (pin : InputPin)
  | setSwitch (id : DeviceId) (state : Bool)
  | coldStart
  | settle (order : List DeviceId) (maxPasses : Nat)
  | cycle (simulator : Simulator)
  deriving DecidableEq, Repr

/-- The network after a change, and whether the change succeeded. -/
def apply (network : Network) : Change → Network × Bool
  | .addDevice name kind =>
    let (next, result) := keepOnError network ((network.addDevice name kind).map Prod.fst)
    (next, result.toBool)
  | .connect source id pin =>
    let (next, result) := keepOnError network (network.connect source id pin)
    (next, result.toBool)
  | .setSwitch id state =>
    let (next, result) := keepOnError network (network.setSwitch id state)
    (next, result.toBool)
  | .coldStart => (network.coldStart, true)
  | .settle order maxPasses =>
    let (settled, passes) := network.settle order maxPasses
    (settled, passes.isSome)
  | .cycle simulator =>
    let (next, result) := { simulator with network }.executeCycle
    (next.network, result.toBool)

def applyAll (network : Network) (changes : List Change) : Network :=
  changes.foldl (fun network change => (network.apply change).1) network

structure Consistent (network : Network) : Prop extends network.Wired where
  once : (network.wires.map Wire.target).Nodup

variable {network next : Network}

theorem map_addDevice_eq_ok_iff {name : String} {kind : DeviceKind} :
    (network.addDevice name kind).map Prod.fst = .ok next ↔
      ∃ id, network.addDevice name kind = .ok (next, id) := by
  cases network.addDevice name kind with
  | error cause => simp [Except.map]
  | ok added => simp [Except.map, Prod.ext_iff]

/-! ## Changes keep networks consistent -/

theorem consistent_empty : Consistent {} :=
  ⟨wired_empty, List.nodup_nil⟩

namespace Consistent

theorem of_bare_eq (h : network.Consistent) (hbare : next.bare = network.bare) :
    next.Consistent := by
  refine ⟨h.toWired.of_bare_eq hbare, ?_⟩
  rw [wires_of_bare_eq hbare]
  exact h.once

theorem addDevice (h : network.Consistent) {name : String} {kind : DeviceKind} {id : DeviceId}
    (hadd : network.addDevice name kind = .ok (next, id)) : next.Consistent := by
  refine ⟨h.toWired.addDevice hadd, ?_⟩
  obtain ⟨-, -, rfl⟩ := addDevice_eq_ok_iff.1 hadd
  exact h.once

/-- The input of a new wire was free, so that no wire led to it. -/
theorem connect (h : network.Consistent) {source : Driver} {id : DeviceId} {pin : InputPin}
    (hconnect : network.connect source id pin = .ok next) : next.Consistent := by
  refine ⟨h.toWired.connect hconnect, ?_⟩
  obtain ⟨-, driven, hdriven, hfree, rfl⟩ := connect_eq_ok_iff.1 hconnect
  have hnew : (id, pin) ∉ network.wires.map Wire.target := by
    intro hmem
    obtain ⟨⟨other, wired, input⟩, hwire, htarget⟩ := List.mem_map.1 hmem
    obtain ⟨rfl, rfl⟩ := Prod.mk.inj htarget
    obtain ⟨device, hdevice, hdriver⟩ := (h.wires other _ _).1 hwire
    obtain rfl : driven = device := Option.some.inj (hdriven.symm.trans hdevice)
    rw [Device.driver?, hfree] at hdriver
    cases hdriver
  rw [List.map_append]
  exact h.once.append (List.nodup_singleton _) (List.disjoint_singleton.2 hnew)

theorem apply (h : network.Consistent) (change : Change) : (network.apply change).1.Consistent := by
  cases change with
  | addDevice name kind =>
      refine keepOnError_keeps Consistent h fun hmap => ?_
      obtain ⟨id, hadd⟩ := map_addDevice_eq_ok_iff.1 hmap
      exact h.addDevice hadd
  | connect source id pin =>
      exact keepOnError_keeps Consistent h fun hconnect => h.connect hconnect
  | setSwitch id state =>
      exact keepOnError_keeps Consistent h fun hset => h.of_bare_eq (bare_of_setSwitch hset)
  | coldStart => exact h.of_bare_eq network.bare_coldStart
  | settle order maxPasses => exact h.of_bare_eq (network.bare_settle order maxPasses)
  | cycle simulator =>
      exact h.of_bare_eq { simulator with network }.sameCircuit_executeCycle.bare

theorem applyAll (h : network.Consistent) (changes : List Change) :
    (network.applyAll changes).Consistent := by
  induction changes generalizing network with
  | nil => exact h
  | cons change rest ih => exact ih (h.apply change)

/-! ## What consistency says -/

theorem count_wires (h : network.Consistent) (wire : Wire) :
    network.wires.count wire = 1 ↔ wire ∈ network.wires := by
  have honce : network.wires.Nodup := List.Nodup.of_map _ h.once
  constructor
  · intro hcount
    exact List.count_pos_iff.1 (by omega)
  · exact List.count_eq_one_of_mem honce

theorem fanout_eq (h : network.Consistent) (id : DeviceId) :
    network.fanout id = Set.ncard {target : DeviceId × InputPin | ∃ device source,
      network.device? target.1 = some device ∧ device.driver? target.2 = some source ∧
        source.device = id} := by
  set leaving := network.wires.filter fun wire => wire.source.device = id with hleaving
  have honce : (leaving.map Wire.target).Nodup := h.once.sublist (List.filter_sublist.map _)
  have htargets : {target : DeviceId × InputPin | ∃ device source,
      network.device? target.1 = some device ∧ device.driver? target.2 = some source ∧
        source.device = id} = ((leaving.map Wire.target).toFinset : Set (DeviceId × InputPin)) := by
    ext ⟨wired, pin⟩
    simp only [Set.mem_ofPred_eq, List.coe_toFinset, List.mem_map]
    constructor
    · rintro ⟨device, source, hdevice, hdriver, hsource⟩
      have hwire := (h.wires source wired pin).2 ⟨device, hdevice, hdriver⟩
      exact ⟨⟨source, wired, pin⟩, List.mem_filter.2 ⟨hwire, decide_eq_true hsource⟩, rfl⟩
    · rintro ⟨⟨source, _, _⟩, hwire, htarget⟩
      obtain ⟨rfl, rfl⟩ := Prod.mk.inj htarget
      obtain ⟨hmem, hsource⟩ := List.mem_filter.1 hwire
      obtain ⟨device, hdevice, hdriver⟩ := (h.wires source _ _).1 hmem
      exact ⟨device, source, hdevice, hdriver, of_decide_eq_true hsource⟩
  rw [htargets, Set.ncard_coe_finset, List.toFinset_card_of_nodup honce, List.length_map, fanout,
    List.countP_eq_length_filter]

theorem isComplete_iff (h : network.Consistent) :
    network.isComplete ↔ network.devices ≠ [] ∧
      ∀ id device pin, network.device? id = some device → device.hasInput pin →
        ∃ wire ∈ network.wires, wire.device = id ∧ wire.pin = pin := by
  rw [h.toWired.isComplete_iff]
  refine and_congr_right fun _ => forall₂_congr fun id device => ?_
  constructor
  · intro hbound pin hdevice hinput
    cases hdriver : device.driver? pin with
    | none => exact absurd ⟨pin, hinput, hdriver⟩ (hbound hdevice)
    | some source =>
        exact ⟨⟨source, id, pin⟩, (h.wires source id pin).2 ⟨device, hdevice, hdriver⟩, rfl, rfl⟩
  · rintro hwired hdevice ⟨pin, hinput, hdriver⟩
    obtain ⟨⟨source, _, _⟩, hwire, rfl, rfl⟩ := hwired pin hdevice hinput
    obtain ⟨same, hsame, hsource⟩ := (h.wires source _ _).1 hwire
    obtain rfl : device = same := Option.some.inj (hdevice.symm.trans hsame)
    rw [hdriver] at hsource
    cases hsource

end Consistent

/-! ## Refused changes -/

theorem apply_addDevice (network : Network) (name : String) (kind : DeviceKind) :
    ((network.apply (.addDevice name kind)).2 ↔ network.deviceId? name = none) ∧
      ((network.apply (.addDevice name kind)).2 = false →
        (network.apply (.addDevice name kind)).1 = network) := by
  rw [apply, addDevice]
  cases hid : network.deviceId? name with
  | none => simp [keepOnError, Except.map, Except.toBool]
  | some id => simp [keepOnError, Except.map, Except.toBool]

theorem apply_connect (network : Network) (source : Driver) (id : DeviceId) (pin : InputPin) :
    ((network.apply (.connect source id pin)).2 ↔ network.HasOutput source ∧
        ∃ device, network.device? id = some device ∧ device.hasInput pin ∧
          device.driver? pin = none) ∧
      ((network.apply (.connect source id pin)).2 = false →
        (network.apply (.connect source id pin)).1 = network) := by
  have hmade : (∃ next, network.connect source id pin = .ok next) ↔ network.HasOutput source ∧
      ∃ device, network.device? id = some device ∧ device.hasInput pin ∧
        device.driver? pin = none := by
    simp only [connect_eq_ok_iff, Device.get?_eq_some_none_iff, Device.hasInput_iff_mem]
    constructor
    · rintro ⟨next, hsource, device, hdevice, ⟨hinput, hfree⟩, -⟩
      exact ⟨hsource, device, hdevice, hinput, hfree⟩
    · rintro ⟨hsource, device, hdevice, hinput, hfree⟩
      exact ⟨_, hsource, device, hdevice, ⟨hinput, hfree⟩, rfl⟩
  rw [apply, ← hmade]
  cases network.connect source id pin with
  | error cause => simp [keepOnError, Except.toBool]
  | ok next => simp [keepOnError, Except.toBool]

/-- Whatever has been done to a network, successfully or not: a name leads to the one device that
carries it; the list of wires tells the same as the inputs of the devices, and no input twice; wires
start at outputs; as many inputs are driven by a device as its `fanout` says; a network is complete
if it has a device and a wire for each input; and a device or wire that is refused leaves no trace.
A device is refused exactly if its name is taken, a wire unless it leads from an output to a free
input. -/
theorem wiring_consistent (changes : List Change) :
    let network := applyAll {} changes
    (∀ name id, network.deviceId? name = some id ↔
      ∃ device, network.device? id = some device ∧ device.name = name) ∧
    (∀ source id pin, network.wires.count ⟨source, id, pin⟩ = 1 ↔
      ∃ device, network.device? id = some device ∧ device.hasInput pin ∧
        device.driver? pin = some source) ∧
    (network.wires.map fun wire => (wire.device, wire.pin)).Nodup ∧
    (∀ wire ∈ network.wires, ∃ device, network.device? wire.source.device = some device ∧
      device.hasOutput wire.source.pin) ∧
    (∀ id, network.fanout id = Set.ncard {target : DeviceId × InputPin | ∃ device source,
      network.device? target.1 = some device ∧ device.driver? target.2 = some source ∧
        source.device = id}) ∧
    (network.isComplete ↔ network.devices ≠ [] ∧
      ∀ id device pin, network.device? id = some device → device.hasInput pin →
        ∃ wire ∈ network.wires, wire.device = id ∧ wire.pin = pin) ∧
    (∀ name kind, ((network.apply (.addDevice name kind)).2 ↔ network.deviceId? name = none) ∧
      ((network.apply (.addDevice name kind)).2 = false →
        (network.apply (.addDevice name kind)).1 = network)) ∧
    (∀ source id pin, ((network.apply (.connect source id pin)).2 ↔ network.HasOutput source ∧
        ∃ device, network.device? id = some device ∧ device.hasInput pin ∧
          device.driver? pin = none) ∧
      ((network.apply (.connect source id pin)).2 = false →
        (network.apply (.connect source id pin)).1 = network)) := by
  intro network
  have h : network.Consistent := consistent_empty.applyAll changes
  refine ⟨fun name id => deviceId?_eq_some_iff h.names, ?_, h.once, ?_, h.fanout_eq,
    h.isComplete_iff, network.apply_addDevice, network.apply_connect⟩
  · intro source id pin
    rw [h.count_wires, h.wires]
    constructor
    · rintro ⟨device, hdevice, hdriver⟩
      have hinput := (device.hasInput_iff_mem pin).2 (Device.mem_inputs_of_driver? hdriver)
      exact ⟨device, hdevice, hinput, hdriver⟩
    · rintro ⟨device, hdevice, -, hdriver⟩
      exact ⟨device, hdevice, hdriver⟩
  · intro wire hwire
    obtain ⟨device, hdevice, hdriver⟩ := (h.wires wire.source wire.device wire.pin).1 hwire
    exact h.drivers hdevice hdriver

/-- A second wire to an input is refused, and running the network leaves its wiring alone. -/
example : (applyAll {} [.addDevice "a" (.switch ⟨true⟩), .addDevice "b" .not,
    .connect ⟨0, .out⟩ 1 (.numbered 1), .connect ⟨1, .out⟩ 1 (.numbered 1), .settle [1] 3,
    .coldStart]).wires = [⟨⟨0, .out⟩, 1, .numbered 1⟩] := by
  decide +kernel

end Network

end LogicBench
