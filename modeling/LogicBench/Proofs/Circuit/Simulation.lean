import LogicBench.Proofs.Circuit.Refinement
import LogicBench.Proofs.Definition.Drafting
import LogicBench.Proofs.Simulator.Steps

/-!
# Simulators refine the synchronous behaviour

Whatever is done with the simulator of a circuit without feedback, every cycle settles and the
network follows the behaviour of the circuit under what the switches were set to in each cycle
since the start.
-/

namespace LogicBench

namespace Network

variable {circuit network : Network} {past : List (DeviceId → Bool)} {now : DeviceId → Bool}
  {b : Behaviour}

def switchState (network : Network) (id : DeviceId) : Bool :=
  match (network.device? id).map Device.kind with
  | some (.switch s) => s.state
  | _ => false

theorem deviceId?_of_bare_eq (h : network.bare = circuit.bare) :
    network.deviceId? = circuit.deviceId? := by
  ext name : 1
  have hbyName (network : Network) : network.deviceId? name =
      (network.devices.map Device.name).findIdx? fun other => other = name := by
    rw [deviceId?, List.findIdx?_map]
    rfl
  rw [hbyName, hbyName, names_of_bare_eq h]

/-- In a circuit without feedback the first pass settles the network and the second one notices. -/
theorem settle_advance (hwired : circuit.WellWired) (hacyclic : circuit.Acyclic)
    (hbare : network.bare = circuit.bare) {maxPasses : Nat} (hpasses : 2 ≤ maxPasses) :
    ∃ passes, network.advance.settle circuit.evaluationOrder maxPasses =
      ((network.advance.pass circuit.evaluationOrder).1, some passes) := by
  have hpublished : network.advance.bare = circuit.bare := by rw [bare_advance, hbare]
  have hsettled : (network.advance.pass circuit.evaluationOrder).1.IsSettled := by
    rw [← evaluationOrder_of_bare_eq hpublished]
    exact isSettled_pass_evaluationOrder (hwired.of_bare_eq hpublished)
      (hacyclic.of_bare_eq hpublished)
  obtain ⟨passes, -, hsettle⟩ := settle_of_isSettled_pass hsettled hpasses
  exact ⟨passes, hsettle⟩

theorem follows_coldStart (hbare : network.bare = circuit.bare)
    (hnow : ∀ {id device s}, network.device? id = some device → device.kind = .switch s →
      s.state = now id)
    (hb : circuit.Obeys [] b) : network.coldStart.Follows circuit [] now b := by
  constructor
  · rw [bare_coldStart, hbare]
  · rfl
  · intro id started hstarted
    obtain ⟨device, hdevice, rfl⟩ :
        ∃ device, network.device? id = some device ∧ device.coldStart = started := by
      rw [device?_coldStart] at hstarted
      exact Option.map_eq_some_iff.1 hstarted
    have hlow (pin : InputPin) : device.coldStart.inputLevel (b.level 0) pin = false := by
      unfold Device.inputLevel
      cases hdriver : device.coldStart.driver? pin with
      | none => rfl
      | some driver => exact hb.level_zero driver
    show device.kind.reset = device.kind.reset.after 0 (now id) (b.stored 0 id) _
    rw [List.length_nil, hlow, hb.stored_zero]
    cases hkind : device.kind with
    | switch s =>
        have hstate := hnow hdevice hkind
        simp [DeviceKind.reset, DeviceKind.after, ← hstate]
    | clock c => simp [DeviceKind.reset, DeviceKind.after, Clock.reset, Clock.after]
    | generator g => simp [DeviceKind.reset, DeviceKind.after, Generator.reset]
    | _ => rfl
  · intro h
    exact absurd rfl h

theorem Follows.switch_state (h : network.Follows circuit past now b) {id : DeviceId}
    {device : Device} {s : Switch} (hdevice : network.device? id = some device)
    (hkind : device.kind = .switch s) : s.state = now id := by
  have hafter := h.kind hdevice
  rw [hkind] at hafter
  exact congrArg Switch.state (DeviceKind.switch.inj hafter)

theorem Follows.coldStart (h : network.Follows circuit past now b) {start : Behaviour}
    (hstart : circuit.Obeys [] start) : network.coldStart.Follows circuit [] now start :=
  follows_coldStart h.bare h.switch_state hstart

/-- What is remembered as the setting of a device that is no switch has no effect. -/
theorem Follows.update_of_not_switch (h : network.Follows circuit past now b) {id : DeviceId}
    (hid : ∀ device, network.device? id = some device → device.type ≠ .switch) (state : Bool) :
    network.Follows circuit past (Function.update now id state) b := by
  refine ⟨h.bare, h.cycle, ?_, h.level⟩
  intro other device hdevice
  by_cases hother : other = id
  · subst hother
    have hafter := h.kind hdevice
    have htype := hid device hdevice
    cases hkind : device.kind with
    | switch s => exact absurd (by rw [Device.type, hkind]; rfl) htype
    | _ =>
        rw [hkind] at hafter
        exact hafter
  · rw [Function.update_of_ne hother]
    exact h.kind hdevice

theorem Follows.setSwitch (h : network.Follows circuit past now b) {id : DeviceId} {state : Bool}
    {next : Network} (hset : network.setSwitch id state = .ok next) :
    next.Follows circuit past (Function.update now id state) b := by
  have hbare := (bare_of_setSwitch hset).trans h.bare
  obtain ⟨device, s, hdevice, hkind, rfl⟩ := setSwitch_eq_ok_iff.1 hset
  have hat (other : DeviceId) := device?_setDevice
    { device with kind := .switch (s.set state) } hdevice other
  refine ⟨hbare, h.cycle, ?_, ?_⟩
  · intro other changed hchanged
    rw [hat] at hchanged
    by_cases hother : other = id
    · subst hother
      rw [if_pos rfl] at hchanged
      obtain rfl := Option.some.inj hchanged
      rw [Function.update_self]
      rfl
    · rw [if_neg hother] at hchanged
      rw [Function.update_of_ne hother]
      exact h.kind hchanged
  · intro hpast driver signal hsignal
    apply h.level hpast
    rw [← hsignal, signal?, signal?, hat]
    by_cases hother : driver.device = id
    · rw [if_pos hother, hother, hdevice]
      rfl
    · rw [if_neg hother]

end Network

/-- Whether cycles are run, so that one of them could fail to settle. -/
def Operation.runsCycles : Operation → Bool
  | run _ | continueRun _ | executeCycle => true
  | setSwitch _ _ | addMonitor _ | removeMonitor _ => false

/-- What has been done to the switches: their states now, and those in each cycle completed since
the start. -/
structure SwitchLog where
  now : DeviceId → Bool
  past : List (DeviceId → Bool)

namespace SwitchLog

def start (circuit : Network) : SwitchLog :=
  ⟨circuit.switchState, []⟩

/-- The log when an operation is carried out as it should be. -/
def perform (circuit : Network) (log : SwitchLog) : Operation → SwitchLog
  | .run cycles => ⟨log.now, List.replicate cycles log.now⟩
  | .continueRun cycles => ⟨log.now, log.past ++ List.replicate cycles log.now⟩
  | .executeCycle => ⟨log.now, log.past ++ [log.now]⟩
  | .setSwitch name state =>
    match circuit.deviceId? name with
    | some id => ⟨Function.update log.now id state, log.past⟩
    | none => log
  | .addMonitor _ | .removeMonitor _ => log

def performAll (circuit : Network) (log : SwitchLog) (operations : List Operation) : SwitchLog :=
  operations.foldl (perform circuit) log

end SwitchLog

namespace Simulator

variable {circuit : Network} {simulator : Simulator} {log : SwitchLog}

structure Tracks (simulator : Simulator) (circuit : Network) (log : SwitchLog) : Prop where
  order : simulator.order = circuit.evaluationOrder
  passes : 2 ≤ simulator.maxPasses
  follows : ∀ {b}, circuit.Obeys log.past b →
    simulator.network.Follows circuit log.past log.now b

theorem Tracks.executeCycle (h : simulator.Tracks circuit log) (hwired : circuit.WellWired)
    (hacyclic : circuit.Acyclic) : (∃ passes, simulator.executeCycle.2 = .ok passes) ∧
      simulator.executeCycle.1.Tracks circuit ⟨log.now, log.past ++ [log.now]⟩ := by
  obtain ⟨b, hb⟩ := hwired.exists_obeys hacyclic log.past
  obtain ⟨passes, hsettle⟩ := Network.settle_advance hwired hacyclic (h.follows hb).bare h.passes
  rw [← h.order] at hsettle
  have hcycle : simulator.executeCycle =
      ({ simulator with
          network := simulator.network.cycleOnce simulator.order
          recorder := simulator.recorder.sample
            (simulator.network.cycleOnce simulator.order) }, .ok passes) := by
    unfold Simulator.executeCycle
    rw [hsettle]
    rfl
  rw [hcycle]
  refine ⟨⟨passes, rfl⟩, h.order, h.passes, fun hobeys => ?_⟩
  have hnext := (h.follows hobeys.of_append).cycleOnce hwired hacyclic hobeys
  rw [← h.order] at hnext
  exact hnext

theorem Tracks.continueRun (h : simulator.Tracks circuit log) (hwired : circuit.WellWired)
    (hacyclic : circuit.Acyclic) (cycles : Nat) : (simulator.continueRun cycles).2 = .ok () ∧
      (simulator.continueRun cycles).1.Tracks circuit
        ⟨log.now, log.past ++ List.replicate cycles log.now⟩ := by
  induction cycles generalizing simulator log with
  | zero =>
      rw [List.replicate_zero, List.append_nil]
      exact ⟨rfl, h⟩
  | succ cycles ih =>
      obtain ⟨⟨passes, hok⟩, hnext⟩ := h.executeCycle hwired hacyclic
      have hrest := ih hnext
      rw [List.append_assoc, List.singleton_append, ← List.replicate_succ] at hrest
      rw [continueRun_succ_of_ok hok]
      exact hrest

theorem Tracks.coldStart (h : simulator.Tracks circuit log) (hwired : circuit.WellWired)
    (hacyclic : circuit.Acyclic) : simulator.coldStart.Tracks circuit ⟨log.now, []⟩ := by
  obtain ⟨b, hb⟩ := hwired.exists_obeys hacyclic log.past
  exact ⟨h.order, h.passes, fun hstart => (h.follows hb).coldStart hstart⟩

theorem Tracks.setSwitch (h : simulator.Tracks circuit log) (hwired : circuit.WellWired)
    (hacyclic : circuit.Acyclic) (name : String) (state : Bool) :
    (keepOnError simulator (simulator.setSwitch name state)).1.Tracks circuit
      (log.perform circuit (.setSwitch name state)) := by
  obtain ⟨b, hb⟩ := hwired.exists_obeys hacyclic log.past
  have hid := congrFun (Network.deviceId?_of_bare_eq (h.follows hb).bare) name
  simp only [Simulator.setSwitch, SwitchLog.perform, hid]
  cases circuit.deviceId? name with
  | none => exact h
  | some id =>
    simp only
    split
    · next network hset =>
      exact ⟨h.order, h.passes, fun hobeys => (h.follows hobeys).setSwitch hset⟩
    · next cause hset =>
      refine ⟨h.order, h.passes, fun hobeys => (h.follows hobeys).update_of_not_switch ?_ state⟩
      intro device hdevice htype
      unfold Network.setSwitch at hset
      rw [hdevice] at hset
      unfold Device.type at htype
      cases hkind : device.kind with
      | switch s => simp [hkind] at hset
      | _ => simp [hkind, DeviceKind.type] at htype

theorem network_addMonitor {next : Simulator} {signal : String}
    (h : simulator.addMonitor signal = .ok next) :
    next.network = simulator.network ∧ next.order = simulator.order ∧
      next.maxPasses = simulator.maxPasses := by
  obtain ⟨name, recorder, -, -, rfl⟩ := addMonitor_eq_ok_iff.1 h
  exact ⟨rfl, rfl, rfl⟩

theorem network_removeMonitor {next : Simulator} {signal : String}
    (h : simulator.removeMonitor signal = .ok next) :
    next.network = simulator.network ∧ next.order = simulator.order ∧
      next.maxPasses = simulator.maxPasses := by
  obtain ⟨name, recorder, -, -, rfl⟩ := removeMonitor_eq_ok_iff.1 h
  exact ⟨rfl, rfl, rfl⟩

theorem Tracks.of_network_eq (h : simulator.Tracks circuit log) {next : Simulator}
    (hsame : next.network = simulator.network ∧ next.order = simulator.order ∧
      next.maxPasses = simulator.maxPasses) :
    next.Tracks circuit log := by
  obtain ⟨hnetwork, horder, hpasses⟩ := hsame
  refine ⟨horder.trans h.order, ?_, fun hobeys => ?_⟩
  · show 2 ≤ next.maxPasses
    rw [hpasses]
    exact h.passes
  · show next.network.Follows circuit log.past log.now _
    rw [hnetwork]
    exact h.follows hobeys

theorem Tracks.perform (h : simulator.Tracks circuit log) (hwired : circuit.WellWired)
    (hacyclic : circuit.Acyclic) (operation : Operation) :
    (simulator.perform operation).1.Tracks circuit (log.perform circuit operation) ∧
      (operation.runsCycles → (simulator.perform operation).2 = .ok ()) := by
  cases operation with
  | run cycles =>
      obtain ⟨hok, hnext⟩ := (h.coldStart hwired hacyclic).continueRun hwired hacyclic cycles
      exact ⟨hnext, fun _ => hok⟩
  | continueRun cycles =>
      obtain ⟨hok, hnext⟩ := h.continueRun hwired hacyclic cycles
      exact ⟨hnext, fun _ => hok⟩
  | executeCycle =>
      obtain ⟨⟨passes, hok⟩, hnext⟩ := h.executeCycle hwired hacyclic
      rw [perform_executeCycle, hok]
      exact ⟨hnext, fun _ => rfl⟩
  | setSwitch name state =>
      exact ⟨h.setSwitch hwired hacyclic name state, fun hruns => nomatch hruns⟩
  | addMonitor signal =>
      -- Monitoring does not concern the network.
      exact ⟨keepOnError_keeps (·.Tracks circuit log) h fun hadd =>
        h.of_network_eq (network_addMonitor hadd), fun hruns => nomatch hruns⟩
  | removeMonitor signal =>
      exact ⟨keepOnError_keeps (·.Tracks circuit log) h fun hremove =>
        h.of_network_eq (network_removeMonitor hremove), fun hruns => nomatch hruns⟩

theorem Tracks.performAll (h : simulator.Tracks circuit log) (hwired : circuit.WellWired)
    (hacyclic : circuit.Acyclic) (operations : List Operation) :
    (simulator.performAll operations).1.Tracks circuit (log.performAll circuit operations) ∧
      ∀ (i : Nat) (operation : Operation), operations[i]? = some operation →
        operation.runsCycles → (simulator.performAll operations).2[i]? = some (.ok ()) := by
  induction operations generalizing simulator log with
  | nil => exact ⟨h, by simp⟩
  | cons operation rest ih =>
      obtain ⟨hnext, hok⟩ := h.perform hwired hacyclic operation
      obtain ⟨hlast, hrest⟩ := ih hnext
      refine ⟨hlast, ?_⟩
      intro i other hother hruns
      cases i with
      | zero =>
          obtain rfl := Option.some.inj hother
          exact congrArg some (hok hruns)
      | succ i => exact hrest i other hother hruns

theorem tracks_ofNetwork (hbuilt : circuit.Built) (names : Names) (recorder : Recorder)
    {maxPasses : Nat} (hpasses : 2 ≤ maxPasses) :
    (ofNetwork names circuit recorder maxPasses).Tracks circuit (.start circuit) := by
  refine ⟨rfl, hpasses, fun {b} hobeys => ?_⟩
  have hstart : circuit.coldStart.Follows circuit [] circuit.switchState b := by
    refine Network.follows_coldStart rfl ?_ hobeys
    intro id device s hdevice hkind
    simp [Network.switchState, hdevice, hkind]
  rw [hbuilt.coldStart_eq] at hstart
  exact hstart

end Simulator

namespace Definition

/-- Simulated with two passes or more, a definition without errors and without feedback never fails
to settle, and after every cycle shows what its behaviour shows in that cycle. -/
theorem simulation_shows_behaviour {source : String} {maxPasses : Nat}
    (hvalid : (ofSource source).hasErrors = false) (hacyclic : (ofSource source).network.Acyclic)
    (hpasses : 2 ≤ maxPasses) :
    ∃ simulator, Simulator.ofDefinition (ofSource source) maxPasses = .ok simulator ∧
      ∀ operations : List Operation,
        let circuit := (ofSource source).network
        let past := ((SwitchLog.start circuit).performAll circuit operations).past
        let last := (simulator.performAll operations).1
        let results := (simulator.performAll operations).2
        (∀ (i : Nat) operation, operations[i]? = some operation → operation.runsCycles →
          results[i]? = some (.ok ())) ∧
        last.cycleCount = past.length ∧
        (∃ b, circuit.Obeys past b) ∧
        ∀ b, circuit.Obeys past b →
          (last.cycleCount ≠ 0 → ∀ driver, circuit.HasOutput driver →
            ∃ signal, last.network.signal? driver = some signal ∧
              signal.isHigh = b.level last.cycleCount driver) ∧
          ∀ id device cell, last.network.device? id = some device →
            device.kind = .flipFlop cell → cell.stored = b.stored last.cycleCount id := by
  have hbuilt := built_ofSource source
  have hwired := hbuilt.wellWired
  have hstart : Simulator.ofDefinition (ofSource source) maxPasses =
      .ok (.ofNetwork (ofSource source).names (ofSource source).network
        (ofSource source).recorder maxPasses) := by
    rw [Simulator.ofDefinition, hvalid, if_neg (by omega), if_neg (by decide)]
  refine ⟨_, hstart, ?_⟩
  intro operations circuit past last results
  obtain ⟨htracks, hresults⟩ :=
    (Simulator.tracks_ofNetwork hbuilt _ _ hpasses).performAll hwired hacyclic operations
  obtain ⟨start, hb⟩ := hwired.exists_obeys hacyclic past
  have hcycle : last.cycleCount = past.length := (htracks.follows hb).cycle
  refine ⟨hresults, hcycle, ⟨start, hb⟩, fun b hb => ?_⟩
  have hfollows : last.network.Follows circuit past _ b := htracks.follows hb
  refine ⟨?_, ?_⟩
  · intro hnonzero driver houtput
    have hpast : past ≠ [] := by
      intro hnil
      rw [hcycle, hnil] at hnonzero
      exact hnonzero rfl
    obtain ⟨device, hdevice, hpin⟩ := houtput.of_bare_eq hfollows.bare
    obtain ⟨signal, hsignal⟩ :=
      Option.isSome_iff_exists.1 ((device.output?_isSome driver.pin).2 hpin)
    have hshown : last.network.signal? driver = some signal := by
      rw [Network.signal?, hdevice]
      exact hsignal
    refine ⟨signal, hshown, ?_⟩
    rw [hcycle]
    exact hfollows.level hpast hshown
  · intro id device cell hdevice hkind
    have hafter := hfollows.kind hdevice
    rw [hkind] at hafter
    rw [hcycle]
    exact congrArg FlipFlop.stored (DeviceKind.flipFlop.inj hafter)

theorem simulation_shows_behaviour_inverters :
    let definition := ofSource "DEVICES s:SWITCH 1, n:NOT, m:NOT; CONNECT s > n, n > m; END"
    definition.hasErrors = false ∧ definition.network.Acyclic ∧ 2 ≤ 2 ∧
      ∃ simulator, Simulator.ofDefinition definition 2 = .ok simulator ∧
        (simulator.performAll [.run 3, .executeCycle]).1.cycleCount = 4 := by
  intro definition
  have hvalid : definition.hasErrors = false := by decide +kernel
  have hwires : (definition.network.wires.all fun wire =>
      !definition.network.isCombinationalAt wire.source.device ||
        !definition.network.isCombinationalAt wire.device ||
          decide (wire.source.device < wire.device)) = true := by decide +kernel
  have hacyclic : definition.network.Acyclic := by
    refine .of_rank id fun wire hwire hsource htarget => ?_
    simpa [hsource, htarget] using List.all_eq_true.1 hwires wire hwire
  obtain ⟨simulator, hsimulator, hoperations⟩ :=
    simulation_shows_behaviour hvalid hacyclic (Nat.le_refl 2)
  obtain ⟨-, hcycle, -⟩ := hoperations [.run 3, .executeCycle]
  exact ⟨hvalid, hacyclic, Nat.le_refl 2, simulator, hsimulator, hcycle⟩

end Definition

end LogicBench
