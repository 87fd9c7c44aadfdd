import LogicBench.Proofs.Circuit.Simulation
import LogicBench.Proofs.Simulator.Points

/-!
# A run forgets the past

A cold start depends on three things only: the circuit, the states of its switches and the outputs
that are monitored. So two simulators of a circuit that agree in these run alike, whatever has been
done with them, and like a simulator that has just been built.
-/

namespace LogicBench

namespace DeviceKind

def withSwitch (state : Bool) : DeviceKind → DeviceKind
  | switch _ => switch ⟨state⟩
  | kind => kind

variable (kind : DeviceKind) (state : Bool)

theorem withSwitch_startLevel : kind.withSwitch (kind.startLevel .out) = kind := by
  cases kind <;> rfl

@[simp] theorem bare_withSwitch : (kind.withSwitch state).bare = kind.bare := by
  cases kind <;> rfl

@[simp] theorem reset_withSwitch_bare :
    (kind.bare.withSwitch state).reset = (kind.withSwitch state).reset := by
  cases kind <;> rfl

@[simp] theorem startLevel_withSwitch_bare :
    (kind.bare.withSwitch state).startLevel = (kind.withSwitch state).startLevel := by
  cases kind <;> rfl

@[simp] theorem reset_withSwitch_reset :
    (kind.reset.withSwitch state).reset = (kind.withSwitch state).reset := by
  cases kind <;> rfl

@[simp] theorem startLevel_withSwitch_reset :
    (kind.reset.withSwitch state).startLevel = (kind.withSwitch state).startLevel := by
  cases kind <;> rfl

@[simp] theorem inputPins_withSwitch : (kind.withSwitch state).inputPins = kind.inputPins := by
  cases kind <;> rfl

@[simp] theorem outputPins_withSwitch : (kind.withSwitch state).outputPins = kind.outputPins := by
  cases kind <;> rfl

theorem Valid.withSwitch {kind : DeviceKind} (h : kind.Valid) (state : Bool) :
    (kind.withSwitch state).Valid := by
  cases kind <;> exact h

end DeviceKind

namespace Device

def startWith (device : Device) (state : Bool) : Device :=
  coldStart { device with kind := device.kind.withSwitch state }

theorem startWith_startLevel (device : Device) :
    device.startWith (device.kind.startLevel .out) = device.coldStart := by
  rw [startWith, DeviceKind.withSwitch_startLevel]

@[simp] theorem startWith_bare (device : Device) (state : Bool) :
    device.bare.startWith state = device.startWith state := by
  simp [startWith, coldStart, bare, Function.comp_def]

@[simp] theorem bare_startWith (device : Device) (state : Bool) :
    (device.startWith state).bare = device.bare := by
  rw [startWith, bare_coldStart]
  exact device.bare_withKind (device.kind.bare_withSwitch state)

theorem startWith_ofKind (name : String) (kind : DeviceKind) (state : Bool) :
    (ofKind name kind).startWith state = ofKind name (kind.withSwitch state) := by
  simp [startWith, ofKind, coldStart, Function.comp_def]

end Device

namespace Network

variable {network other : Network} {states : DeviceId → Bool}

theorem switchState_eq {id : DeviceId} {device : Device} (h : network.device? id = some device) :
    network.switchState id = device.kind.startLevel .out := by
  rw [switchState, h]
  cases hkind : device.kind <;> simp [hkind, DeviceKind.startLevel]

@[simp] theorem switchState_coldStart (network : Network) :
    network.coldStart.switchState = network.switchState := by
  ext1 id
  have hcold := network.device?_coldStart id
  cases hdevice : network.device? id with
  | none => rw [switchState, switchState, hcold, hdevice, Option.map_none]
  | some device =>
      rw [hdevice, Option.map_some] at hcold
      rw [switchState_eq hcold, switchState_eq hdevice]
      exact congrFun (DeviceKind.startLevel_reset device.kind) .out

def startWith (network : Network) (states : DeviceId → Bool) : Network :=
  { network with
    devices := network.devices.mapIdx fun id device => device.startWith (states id)
    cycle := 0 }

theorem device?_startWith (network : Network) (states : DeviceId → Bool) (id : DeviceId) :
    (network.startWith states).device? id =
      (network.device? id).map fun device => device.startWith (states id) :=
  List.getElem?_mapIdx

theorem startWith_bare (network : Network) (states : DeviceId → Bool) :
    network.bare.startWith states = network.startWith states := by
  apply eq_of_device?
  · ext1 id
    rw [device?_startWith, device?_startWith, device?_bare, Option.map_map]
    congr 1
    ext1 device
    exact device.startWith_bare (states id)
  · rfl
  · rfl

theorem startWith_switchState (network : Network) :
    network.startWith network.switchState = network.coldStart := by
  apply eq_of_device?
  · ext1 id
    rw [device?_startWith, device?_coldStart]
    cases hdevice : network.device? id with
    | none => rfl
    | some device =>
        rw [Option.map_some, Option.map_some, switchState_eq hdevice, Device.startWith_startLevel]
  · rfl
  · rfl

@[simp] theorem bare_startWith (network : Network) (states : DeviceId → Bool) :
    (network.startWith states).bare = network.bare := by
  apply eq_of_device?
  · ext1 id
    rw [device?_bare, device?_startWith, device?_bare, Option.map_map]
    congr 1
    ext1 device
    exact device.bare_startWith (states id)
  · rfl
  · rfl

theorem coldStart_eq_of_agree (hbare : network.bare = other.bare)
    (hswitches : network.switchState = other.switchState) :
    network.coldStart = other.coldStart := by
  calc network.coldStart
    _ = network.bare.startWith network.switchState := by rw [startWith_bare, startWith_switchState]
    _ = other.bare.startWith other.switchState := by rw [hbare, hswitches]
    _ = other.coldStart := by rw [startWith_bare, startWith_switchState]

theorem Built.startWith (h : network.Built) (states : DeviceId → Bool) :
    (network.startWith states).Built := by
  induction h with
  | empty => exact .empty
  | @addDevice network next name kind id built valid added ih =>
      obtain ⟨hnew, -, rfl⟩ := addDevice_eq_ok_iff.1 added
      have hsameNew : (network.startWith states).deviceId? name = none := by
        rw [deviceId?_of_bare_eq (network.bare_startWith states), hnew]
      refine .addDevice ih (valid.withSwitch (states network.devices.length))
        (addDevice_eq_ok_iff.2 ⟨hsameNew, rfl, ?_⟩)
      simp [Network.startWith, List.mapIdx_concat, Device.startWith_ofKind]
  | @connect network next source id pin built connected ih =>
      obtain ⟨hsource, driven, hdriven, hfree, rfl⟩ := connect_eq_ok_iff.1 connected
      -- Which outputs there are, and which inputs are free, does not depend on the switches.
      have hsameDriven : (network.startWith states).device? id =
          some (driven.startWith (states id)) := by
        rw [device?_startWith, hdriven, Option.map_some]
      refine .connect ih (connect_eq_ok_iff.2 ⟨hsource.of_bare_eq (network.bare_startWith states),
        driven.startWith (states id), hsameDriven, hfree, ?_⟩)
      simp only [Network.startWith, List.mapIdx_set]
      rfl

end Network

namespace Recorder

variable {recorder other : Recorder} {network : Network}

theorem reset_eq (recorder : Recorder) :
    recorder.reset = { entries := recorder.points.map fun name => (name, {}) } := by
  simp [reset, points, Function.comp_def]

theorem reset_eq_of_points_eq (h : recorder.points = other.points) :
    recorder.reset = other.reset := by
  rw [reset_eq, reset_eq, h]

def ofPoints (network : Network) (points : List SignalName) : Except MonitorError Recorder :=
  points.foldlM (fun recorder name => recorder.add network name) {}

theorem foldlM_add (hcycle : network.cycle = 0) {names : List SignalName}
    (hnodup : (recorder.points ++ names).Nodup)
    (hroom : (recorder.points ++ names).length ≤ maxMonitors)
    (houtputs : ∀ name ∈ names, network.HasSignal name) :
    names.foldlM (fun recorder name => recorder.add network name) recorder =
      .ok { recorder with entries := recorder.entries ++ names.map fun name => (name, {}) } := by
  induction names generalizing recorder with
  | nil =>
      rw [List.map_nil, List.append_nil]
      rfl
  | cons name rest ih =>
      obtain ⟨hfirst, hrest⟩ := List.forall_mem_cons.1 houtputs
      have hnew : name ∉ recorder.points := fun hold =>
        (List.disjoint_of_nodup_append hnodup) hold List.mem_cons_self
      have hspace : recorder.points.length < maxMonitors := by
        rw [List.length_append, List.length_cons] at hroom
        omega
      have hadd : recorder.add network name =
          .ok { recorder with entries := recorder.entries ++ [(name, {})] } :=
        add_eq_ok_iff.2 ⟨hfirst, hnew, hspace, by rw [hcycle]⟩
      have hpoints := points_add hadd
      have hsplit : recorder.points ++ [name] ++ rest = recorder.points ++ name :: rest := by
        rw [List.append_assoc, List.singleton_append]
      rw [List.foldlM_cons, hadd]
      refine (ih ?_ ?_ hrest).trans ?_
      · rwa [hpoints, hsplit]
      · rwa [hpoints, hsplit]
      · rw [List.append_assoc, List.singleton_append, List.map_cons]

theorem Watches.ofPoints_eq (h : recorder.Watches network) (hcycle : network.cycle = 0) :
    ofPoints network recorder.points = .ok recorder.reset := by
  rw [reset_eq]
  exact foldlM_add hcycle h.nodup h.room h.outputs

end Recorder

namespace Simulator

variable {simulator other fresh : Simulator}

/-- A simulator that has just been built with the circuit, the switch states, the monitored outputs
and the configuration of another one. -/
structure Rebuilt (fresh simulator : Simulator) : Prop where
  built : fresh.network.Built
  circuit : fresh.network.bare = simulator.network.bare
  switches : fresh.network.switchState = simulator.network.switchState
  monitored : Recorder.ofPoints fresh.network simulator.recorder.points = .ok fresh.recorder
  made : fresh = .ofNetwork simulator.names fresh.network fresh.recorder simulator.maxPasses

theorem coldStart_eq_of_agree (hsame : simulator.SameCircuit other)
    (hswitches : simulator.network.switchState = other.network.switchState)
    (hpoints : simulator.recorder.points = other.recorder.points) :
    simulator.coldStart = other.coldStart := by
  have hnetwork : simulator.network.coldStart = other.network.coldStart :=
    Network.coldStart_eq_of_agree hsame.bare hswitches
  have hrecorder : simulator.recorder.reset = other.recorder.reset :=
    Recorder.reset_eq_of_points_eq hpoints
  rw [coldStart, coldStart, hsame.names, hsame.order, hsame.maxPasses, hnetwork, hrecorder]

variable {circuit : Network} {names : Names} {recorder : Recorder} {maxPasses : Nat}

theorem SameCircuit.order_eq
    (h : simulator.SameCircuit (ofNetwork names circuit recorder maxPasses)) :
    simulator.order = simulator.network.evaluationOrder := by
  calc simulator.order
    _ = circuit.evaluationOrder := h.order
    _ = simulator.network.evaluationOrder := Network.evaluationOrder_of_bare_eq h.bare.symm

/-- A cold start is as good as a new simulator. -/
theorem SameCircuit.rebuilt_coldStart (hbuilt : circuit.Built)
    (h : simulator.SameCircuit (ofNetwork names circuit recorder maxPasses))
    (hwatches : simulator.recorder.Watches simulator.network) :
    simulator.coldStart.Rebuilt simulator := by
  have hbare : simulator.network.coldStart.bare = simulator.network.bare :=
    simulator.network.bare_coldStart
  constructor
  · show simulator.network.coldStart.Built
    rw [← Network.startWith_switchState, ← Network.startWith_bare, h.bare, Network.startWith_bare]
    exact hbuilt.startWith simulator.network.switchState
  · exact hbare
  · exact simulator.network.switchState_coldStart
  · exact (hwatches.of_eq rfl hbare).ofPoints_eq rfl
  · rw [coldStart, ofNetwork, h.order_eq, Network.evaluationOrder_of_bare_eq hbare]

theorem Rebuilt.coldStart_eq (h : fresh.Rebuilt simulator)
    (hsame : simulator.SameCircuit (ofNetwork names circuit recorder maxPasses))
    (hwatches : simulator.recorder.Watches simulator.network) :
    fresh.coldStart = simulator.coldStart := by
  have hrecorder : fresh.recorder = simulator.recorder.reset := by
    have hreset := (hwatches.of_eq rfl h.circuit).ofPoints_eq h.built.cycle_eq_zero
    rw [h.monitored] at hreset
    exact Except.ok.inj hreset
  apply coldStart_eq_of_agree
  · constructor
    · rw [h.made, ofNetwork]
    · exact h.circuit
    · calc fresh.order
        _ = fresh.network.evaluationOrder := by rw [h.made, ofNetwork]
        _ = simulator.network.evaluationOrder := Network.evaluationOrder_of_bare_eq h.circuit
        _ = simulator.order := hsame.order_eq.symm
    · rw [h.made, ofNetwork]
  · exact h.switches
  · rw [hrecorder, Recorder.points_reset]

end Simulator

namespace Definition

open Simulator in
/-- After whatever has been done with simulators of a definition without errors, those that agree in
their switch states and in what they monitor run alike, and like one that has just been built so. -/
theorem run_forgets_past {source : String} (hvalid : (ofSource source).hasErrors = false)
    (maxPasses : Nat) (operations others : List Operation) :
    let definition := ofSource source
    let simulator :=
      ofNetwork definition.names definition.network definition.recorder maxPasses
    let last := (simulator.performAll operations).1
    let other := (simulator.performAll others).1
    (0 < maxPasses → ofDefinition definition maxPasses = .ok simulator) ∧
    (last.network.switchState = other.network.switchState →
      last.recorder.points = other.recorder.points →
        ∀ cycles, last.run cycles = other.run cycles) ∧
    (∃ fresh, Rebuilt fresh last) ∧
    ∀ fresh, Rebuilt fresh last → ∀ cycles, fresh.run cycles = last.run cycles := by
  intro definition simulator last other
  have hsame : last.SameCircuit simulator := simulator.sameCircuit_performAll operations
  have hsameOther : other.SameCircuit simulator := simulator.sameCircuit_performAll others
  have hwatches : last.recorder.Watches last.network :=
    (simulator.reaches_performAll operations).watches (watches_ofSource hvalid)
  refine ⟨fun hpasses => ofDefinition_eq_ok hpasses hvalid, ?_, ?_, ?_⟩
  · intro hswitches hpoints cycles
    rw [run, run, coldStart_eq_of_agree (hsame.trans hsameOther.symm) hswitches hpoints]
  · exact ⟨last.coldStart, hsame.rebuilt_coldStart (built_ofSource source) hwatches⟩
  · intro fresh hfresh cycles
    rw [run, run, hfresh.coldStart_eq hsame hwatches]

open Simulator in
/-- A cycle that has failed, or cycles under another recorder, do not show in a later run. -/
theorem run_forgets_past_loop :
    let definition := ofSource "DEVICES s:SWITCH 0, n:NAND 2; CONNECT s > n.I1, n > n.I2;
      MONITOR n; END"
    let simulator := ofNetwork definition.names definition.network definition.recorder 3
    let last := (simulator.performAll
      [.executeCycle, .setSwitch "s" true, .executeCycle, .setSwitch "s" false]).1
    let other := (simulator.performAll [.removeMonitor "n", .run 2, .addMonitor "n"]).1
    definition.hasErrors = false ∧ last.network.switchState = other.network.switchState ∧
      last.recorder.points = other.recorder.points ∧ last.cycleCount ≠ other.cycleCount ∧
      last.run 4 = other.run 4 ∧ ∃ fresh, Rebuilt fresh last ∧ fresh.run 4 = last.run 4 := by
  intro definition simulator last other
  have hvalid : definition.hasErrors = false := by
    unfold definition
    decide +kernel
  have hkinds : last.network.devices.map Device.kind = other.network.devices.map Device.kind := by
    unfold last other simulator definition
    decide +kernel
  have hswitches : last.network.switchState = other.network.switchState := by
    ext1 id
    have hat := congrArg (fun kinds => kinds[id]?) hkinds
    simp only [List.getElem?_map] at hat
    rw [Network.switchState, Network.switchState, Network.device?, Network.device?, hat]
  have hpoints : last.recorder.points = other.recorder.points := by
    unfold last other simulator definition
    decide +kernel
  have hcount : last.cycleCount ≠ other.cycleCount := by
    unfold last other simulator definition
    decide +kernel
  obtain ⟨-, hrun, ⟨fresh, hfresh⟩, hrebuilt⟩ := run_forgets_past hvalid 3
    [.executeCycle, .setSwitch "s" true, .executeCycle, .setSwitch "s" false]
    [.removeMonitor "n", .run 2, .addMonitor "n"]
  unfold last other simulator definition at hswitches hpoints hcount ⊢
  exact ⟨hvalid, hswitches, hpoints, hcount, hrun hswitches hpoints 4, fresh, hfresh,
    hrebuilt fresh hfresh 4⟩

end Definition

end LogicBench
