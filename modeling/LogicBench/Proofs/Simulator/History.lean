import LogicBench.Proofs.Simulator.Points

/-!
# Traces are histories

Next to a simulator one can write a chronicle: the network after each cycle since the start, and for
each output the number of cycles completed when it was added to the monitored ones. A trace tells of
its output what the chronicle tells from that cycle on. As monitoring does not touch the network,
the chronicle is the same whatever is monitored, so a trace that starts late is the end of one that
starts with the first cycle.
-/

namespace LogicBench

def Operation.isMonitoring : Operation → Bool
  | addMonitor _ | removeMonitor _ => true
  | run _ | continueRun _ | executeCycle | setSwitch _ _ => false

/-- The network after each of the cycles that further running completes. -/
def Simulator.completed (simulator : Simulator) : Nat → List Network
  | 0 => []
  | cycles + 1 =>
    match simulator.executeCycle with
    | (next, .ok _) => next.network :: next.completed cycles
    | (_, .error _) => []

def Network.sampleOf (network : Network) (name : SignalName) : Signal :=
  ((network.signalNamed? name).getD .low).level

/-- What has happened since the start: the network after each cycle, and the number of completed
cycles when an output was added to the monitored ones, which is zero for those that were there at
the start. -/
structure Chronicle where
  states : List Network := []
  added : SignalName → Nat := fun _ => 0

namespace Chronicle

def extend (chronicle : Chronicle) (states : List Network) : Chronicle :=
  { chronicle with states := chronicle.states ++ states }

def addAt (chronicle : Chronicle) (cycle : Nat) (name : SignalName) : Chronicle :=
  { chronicle with added := Function.update chronicle.added name cycle }

def perform (simulator : Simulator) (chronicle : Chronicle) : Operation → Chronicle
  | .run cycles => { states := simulator.coldStart.completed cycles }
  | .continueRun cycles => chronicle.extend (simulator.completed cycles)
  | .executeCycle => chronicle.extend (simulator.completed 1)
  | .addMonitor signal =>
    match simulator.addMonitor signal, simulator.resolveSignal signal with
    | .ok _, .ok name => chronicle.addAt simulator.cycleCount name
    | _, _ => chronicle
  | .setSwitch _ _ | .removeMonitor _ => chronicle

def performAll (simulator : Simulator) (chronicle : Chronicle) : List Operation → Chronicle
  | [] => chronicle
  | operation :: rest =>
    (chronicle.perform simulator operation).performAll (simulator.perform operation).1 rest

def traceOf (chronicle : Chronicle) (name : SignalName) : Trace where
  startCycle := chronicle.added name
  samples :=
    ((chronicle.states.drop (chronicle.added name)).map fun network =>
      network.sampleOf name).toArray

variable {chronicle : Chronicle} {name : SignalName}

@[simp] theorem extend_nil (chronicle : Chronicle) : chronicle.extend [] = chronicle := by
  rw [extend, List.append_nil]

theorem extend_cons (chronicle : Chronicle) (network : Network) (states : List Network) :
    chronicle.extend (network :: states) = (chronicle.extend [network]).extend states := by
  simp only [extend, List.append_assoc, List.singleton_append]

theorem traceOf_extend (h : chronicle.added name ≤ chronicle.states.length) (network : Network) :
    (chronicle.extend [network]).traceOf name =
      Recorder.extend network name (chronicle.traceOf name) := by
  simp only [traceOf, extend, Recorder.extend, List.drop_append_of_le_length h, List.map_append,
    List.push_toArray]
  rfl

theorem states_extend_congr {log : Chronicle} {states others : List Network}
    (h : chronicle.states = log.states) (hstates : states = others) :
    (chronicle.extend states).states = (log.extend others).states := by
  rw [extend, extend, h, hstates]

theorem added_addAt_self (chronicle : Chronicle) (cycle : Nat) (name : SignalName) :
    (chronicle.addAt cycle name).added name = cycle := by
  simp [addAt]

theorem added_addAt_of_ne {old : SignalName} (h : old ≠ name) (cycle : Nat) :
    (chronicle.addAt cycle name).added old = chronicle.added old := by
  simp [addAt, h]

theorem traceOf_addAt_self {cycle : Nat} (h : chronicle.states.length = cycle) (name : SignalName) :
    (chronicle.addAt cycle name).traceOf name = { startCycle := cycle } := by
  rw [traceOf, added_addAt_self, addAt, List.drop_eq_nil_of_le h.le]
  rfl

theorem traceOf_addAt_of_ne {old : SignalName} (h : old ≠ name) (cycle : Nat) :
    (chronicle.addAt cycle name).traceOf old = chronicle.traceOf old := by
  rw [traceOf, added_addAt_of_ne h, traceOf]
  rfl

theorem size_samples_traceOf (chronicle : Chronicle) (name : SignalName) :
    (chronicle.traceOf name).samples.size = chronicle.states.length - chronicle.added name := by
  simp [traceOf]

theorem getElem?_samples_traceOf (chronicle : Chronicle) (name : SignalName) (i : Nat) :
    (chronicle.traceOf name).samples[i]? =
      chronicle.states[chronicle.added name + i]?.map fun network => network.sampleOf name := by
  simp [traceOf]

end Chronicle

namespace Simulator

variable {simulator other next : Simulator} {chronicle log : Chronicle} {name : SignalName}

theorem completed_succ_of_ok {passes : Nat} (h : simulator.executeCycle.2 = .ok passes)
    (cycles : Nat) :
    simulator.completed (cycles + 1) =
      simulator.executeCycle.1.network :: simulator.executeCycle.1.completed cycles := by
  rw [completed]
  split
  · next next _ heq => rw [heq]
  · next next cause heq =>
    rw [heq] at h
    cases h

theorem completed_succ_of_error {cause : SimulatorError}
    (h : simulator.executeCycle.2 = .error cause) (cycles : Nat) :
    simulator.completed (cycles + 1) = [] := by
  rw [completed]
  split
  · next next _ heq =>
    rw [heq] at h
    cases h
  · rfl

/-! ## What traces record -/

structure Records (simulator : Simulator) (chronicle : Chronicle) : Prop where
  cycles : chronicle.states.map Network.cycle = List.range' 1 simulator.cycleCount
  circuit : ∀ network ∈ chronicle.states, network.bare = simulator.network.bare
  sampled : ∀ cycle, simulator.recorder.lastSampled = some cycle → cycle ≤ simulator.cycleCount
  traces : ∀ entry ∈ simulator.recorder.entries,
    chronicle.added entry.1 ≤ simulator.cycleCount ∧ entry.2 = chronicle.traceOf entry.1

theorem Records.count (h : simulator.Records chronicle) :
    chronicle.states.length = simulator.cycleCount := by
  rw [← List.length_map (f := Network.cycle), h.cycles, List.length_range']

theorem Records.cycle_eq (h : simulator.Records chronicle) {i : Nat} {network : Network}
    (hnetwork : chronicle.states[i]? = some network) : network.cycle = i + 1 := by
  have hat : (List.range' 1 simulator.cycleCount)[i]? = some network.cycle := by
    rw [← h.cycles, List.getElem?_map, hnetwork, Option.map_some]
  obtain ⟨hlt, hvalue⟩ := List.getElem?_eq_some_iff.1 hat
  rw [List.getElem_range'] at hvalue
  omega

theorem records_coldStart (simulator : Simulator) : simulator.coldStart.Records {} := by
  refine ⟨rfl, by simp, by simp [coldStart, Recorder.reset], ?_⟩
  intro entry hentry
  obtain ⟨old, -, rfl⟩ := List.mem_map.1 hentry
  exact ⟨Nat.zero_le _, rfl⟩

theorem Records.sample_eq (h : simulator.Records chronicle) {network : Network}
    (hcycle : network.cycle = simulator.cycleCount + 1) :
    simulator.recorder.sample network =
      { entries := simulator.recorder.entries.map fun (name, trace) =>
          (name, Recorder.extend network name trace)
        lastSampled := some network.cycle } := by
  have hnew : simulator.recorder.lastSampled ≠ some (simulator.cycleCount + 1) := by
    intro hsampled
    have := h.sampled _ hsampled
    omega
  have hdue : simulator.recorder.isDue network = true := by
    simp [Recorder.isDue, hcycle, hnew]
  rw [Recorder.sample, if_pos hdue]

theorem Records.cycle (h : simulator.Records chronicle) {passes : Nat}
    (hok : simulator.executeCycle.2 = .ok passes) :
    simulator.executeCycle.1.Records (chronicle.extend [simulator.executeCycle.1.network]) := by
  have hcount := cycleCount_of_ok hok
  have hbare := simulator.sameCircuit_executeCycle.bare
  obtain ⟨settled, -, hcycle⟩ := executeCycle_eq_of_ok hok
  generalize simulator.executeCycle.1 = next at hcount hbare hcycle
  have hnext : next.network = settled.latch.finishCycle := congrArg Simulator.network hcycle
  have hrecorder : next.recorder = simulator.recorder.sample next.network := by
    rw [hnext, hcycle]
  rw [h.sample_eq hcount] at hrecorder
  refine ⟨?_, ?_, ?_, ?_⟩
  · have hlast : next.network.cycle = 1 + simulator.cycleCount := hcount.trans (Nat.add_comm _ _)
    rw [Chronicle.extend, List.map_append, h.cycles, hcount, List.range'_1_concat,
      List.map_singleton, hlast]
  · intro network hnetwork
    rcases List.mem_append.1 hnetwork with hold | hnew
    · rw [h.circuit network hold, hbare]
    · rw [List.mem_singleton.1 hnew]
  · intro cycle hsampled
    rw [hrecorder] at hsampled
    cases hsampled
    exact Nat.le_refl _
  · intro entry hentry
    rw [hrecorder] at hentry
    obtain ⟨⟨name, trace⟩, hold, rfl⟩ := List.mem_map.1 hentry
    obtain ⟨hadded, htrace⟩ := h.traces _ hold
    refine ⟨hcount ▸ Nat.le_succ_of_le hadded, ?_⟩
    rw [Chronicle.traceOf_extend (h.count ▸ hadded)]
    exact congrArg (Recorder.extend next.network name) htrace

theorem Records.continueRun (h : simulator.Records chronicle) (cycles : Nat) :
    (simulator.continueRun cycles).1.Records (chronicle.extend (simulator.completed cycles)) := by
  induction cycles generalizing simulator chronicle with
  | zero =>
      rw [completed, Chronicle.extend_nil]
      exact h
  | succ cycles ih =>
      cases hcycle : simulator.executeCycle.2 with
      | ok passes =>
          rw [continueRun_succ_of_ok hcycle, completed_succ_of_ok hcycle, Chronicle.extend_cons]
          exact ih (h.cycle hcycle)
      | error cause =>
          rw [continueRun_succ_of_error hcycle, completed_succ_of_error hcycle,
            Chronicle.extend_nil]
          exact h

theorem Records.setSwitch (h : simulator.Records chronicle) {id : DeviceId} {state : Bool}
    {network : Network} (hset : simulator.network.setSwitch id state = .ok network) :
    { simulator with network }.Records chronicle := by
  have hbare := Network.bare_of_setSwitch hset
  have hcount : { simulator with network }.cycleCount = simulator.cycleCount :=
    Network.cycle_of_setSwitch hset
  refine ⟨hcount ▸ h.cycles, ?_, ?_, ?_⟩
  · intro state hstate
    rw [h.circuit state hstate]
    exact hbare.symm
  · intro cycle hsampled
    exact (h.sampled cycle hsampled).trans_eq hcount.symm
  · intro entry hentry
    obtain ⟨hadded, htrace⟩ := h.traces entry hentry
    exact ⟨hadded.trans_eq hcount.symm, htrace⟩

theorem Records.addMonitor (h : simulator.Records chronicle) {recorder : Recorder}
    (hadd : simulator.recorder.add simulator.network name = .ok recorder) :
    { simulator with recorder }.Records (chronicle.addAt simulator.cycleCount name) := by
  obtain ⟨-, hnew, -, rfl⟩ := Recorder.add_eq_ok_iff.1 hadd
  refine ⟨h.cycles, h.circuit, h.sampled, ?_⟩
  intro entry hentry
  rcases List.mem_append.1 hentry with hold | hlast
  · have hne : entry.1 ≠ name := by
      rintro rfl
      exact hnew (List.mem_map_of_mem hold)
    rw [Chronicle.added_addAt_of_ne hne, Chronicle.traceOf_addAt_of_ne hne]
    exact h.traces entry hold
  · obtain rfl := List.mem_singleton.1 hlast
    rw [Chronicle.added_addAt_self, Chronicle.traceOf_addAt_self h.count]
    exact ⟨Nat.le_refl _, rfl⟩

theorem Records.removeMonitor (h : simulator.Records chronicle) {recorder : Recorder}
    (hremove : simulator.recorder.remove name = .ok recorder) :
    { simulator with recorder }.Records chronicle := by
  have hentries := Recorder.entries_remove_sublist hremove
  obtain ⟨-, rfl⟩ := Recorder.remove_eq_ok_iff.1 hremove
  exact ⟨h.cycles, h.circuit, h.sampled,
    fun entry hentry => h.traces entry (hentries.subset hentry)⟩

theorem Records.perform (h : simulator.Records chronicle) (operation : Operation) :
    (simulator.perform operation).1.Records (chronicle.perform simulator operation) := by
  cases operation with
  | run cycles => exact (records_coldStart simulator).continueRun cycles
  | continueRun cycles => exact h.continueRun cycles
  | executeCycle =>
      rw [perform_executeCycle_eq]
      exact h.continueRun 1
  | setSwitch name state =>
      rw [Simulator.perform]
      cases hset : simulator.setSwitch name state with
      | error cause => exact h
      | ok next =>
          obtain ⟨id, network, -, hnetwork, rfl⟩ := setSwitch_eq_ok_iff.1 hset
          exact h.setSwitch hnetwork
  | addMonitor signal =>
      rw [Simulator.perform, Chronicle.perform]
      cases hadd : simulator.addMonitor signal with
      | error cause => exact h
      | ok next =>
          obtain ⟨name, recorder, hname, hrecorder, rfl⟩ := addMonitor_eq_ok_iff.1 hadd
          rw [hname]
          exact h.addMonitor hrecorder
  | removeMonitor signal =>
      rw [Simulator.perform]
      cases hremove : simulator.removeMonitor signal with
      | error cause => exact h
      | ok next =>
          obtain ⟨name, recorder, -, hrecorder, rfl⟩ := removeMonitor_eq_ok_iff.1 hremove
          exact h.removeMonitor hrecorder

theorem Records.performAll (h : simulator.Records chronicle) (operations : List Operation) :
    (simulator.performAll operations).1.Records (chronicle.performAll simulator operations) := by
  induction operations generalizing simulator chronicle with
  | nil => exact h
  | cons operation rest ih => exact ih (h.perform operation)

theorem Records.samples (h : simulator.Records chronicle)
    (hwatches : simulator.recorder.Watches simulator.network) {trace : Trace}
    (hentry : (name, trace) ∈ simulator.recorder.entries) :
    trace.startCycle + trace.samples.size = simulator.cycleCount ∧
      ∀ (i : Nat) (sample : Signal), trace.samples[i]? = some sample → ∃ network signal,
        chronicle.states[trace.startCycle + i]? = some network ∧
          network.cycle = trace.startCycle + i + 1 ∧
          network.signalNamed? name = some signal ∧ sample = .ofLevel signal.isHigh := by
  obtain ⟨hadded, htrace⟩ := h.traces _ hentry
  obtain rfl : trace = chronicle.traceOf name := htrace
  refine ⟨?_, ?_⟩
  · rw [Chronicle.size_samples_traceOf, h.count]
    exact Nat.add_sub_of_le hadded
  · intro i sample hsample
    rw [Chronicle.getElem?_samples_traceOf] at hsample
    obtain ⟨network, hnetwork, rfl⟩ := Option.map_eq_some_iff.1 hsample
    have hbare := h.circuit network (List.mem_of_getElem? hnetwork)
    have hname : name ∈ simulator.recorder.points := List.mem_map_of_mem hentry
    obtain ⟨signal, hsignal⟩ := ((hwatches.outputs name hname).of_bare_eq hbare).exists_signal
    refine ⟨network, signal, hnetwork, h.cycle_eq hnetwork, hsignal, ?_⟩
    rw [Network.sampleOf, hsignal]
    rfl

/-- Of two traces of an output in the same cycles, the one that starts later is the end of the
other. -/
theorem Records.samples_eq_drop (h : simulator.Records chronicle) (hother : other.Records log)
    (hstates : chronicle.states = log.states) {trace earlier : Trace}
    (hentry : (name, trace) ∈ simulator.recorder.entries)
    (hearlier : (name, earlier) ∈ other.recorder.entries)
    (hstart : earlier.startCycle ≤ trace.startCycle) :
    trace.samples.toList =
      earlier.samples.toList.drop (trace.startCycle - earlier.startCycle) := by
  obtain ⟨-, htrace⟩ := h.traces _ hentry
  obtain ⟨-, hsame⟩ := hother.traces _ hearlier
  obtain rfl : trace = chronicle.traceOf name := htrace
  obtain rfl : earlier = log.traceOf name := hsame
  have hcycles : log.added name + (chronicle.added name - log.added name) = chronicle.added name :=
    Nat.add_sub_of_le hstart
  simp only [Chronicle.traceOf, hstates, List.drop_drop, ← List.map_drop, hcycles]

/-! ## What monitoring leaves alone -/

structure SameNetwork (simulator other : Simulator) : Prop where
  network : simulator.network = other.network
  order : simulator.order = other.order
  maxPasses : simulator.maxPasses = other.maxPasses

namespace SameNetwork

theorem refl (simulator : Simulator) : simulator.SameNetwork simulator :=
  ⟨rfl, rfl, rfl⟩

theorem executeCycle (h : simulator.SameNetwork other) :
    simulator.executeCycle.1.SameNetwork other.executeCycle.1 ∧
      simulator.executeCycle.2 = other.executeCycle.2 := by
  unfold Simulator.executeCycle
  rw [h.network, h.order, h.maxPasses]
  split
  · exact ⟨⟨rfl, rfl, rfl⟩, rfl⟩
  · exact ⟨⟨rfl, rfl, rfl⟩, rfl⟩

theorem continueRun (h : simulator.SameNetwork other) (cycles : Nat) :
    (simulator.continueRun cycles).1.SameNetwork (other.continueRun cycles).1 ∧
      simulator.completed cycles = other.completed cycles := by
  induction cycles generalizing simulator other with
  | zero => exact ⟨h, rfl⟩
  | succ cycles ih =>
      obtain ⟨hnext, hresult⟩ := h.executeCycle
      cases hcycle : other.executeCycle.2 with
      | ok passes =>
          obtain ⟨hlast, hstates⟩ := ih hnext
          rw [hcycle] at hresult
          rw [continueRun_succ_of_ok hresult, continueRun_succ_of_ok hcycle,
            completed_succ_of_ok hresult, completed_succ_of_ok hcycle, hnext.network, hstates]
          exact ⟨hlast, rfl⟩
      | error cause =>
          rw [hcycle] at hresult
          rw [continueRun_succ_of_error hresult, continueRun_succ_of_error hcycle,
            completed_succ_of_error hresult, completed_succ_of_error hcycle]
          exact ⟨h, rfl⟩

theorem coldStart (h : simulator.SameNetwork other) :
    simulator.coldStart.SameNetwork other.coldStart :=
  ⟨congrArg Network.coldStart h.network, h.order, h.maxPasses⟩

theorem setSwitch (h : simulator.SameNetwork other) (name : String) (state : Bool) :
    (simulator.perform (.setSwitch name state)).1.SameNetwork
      (other.perform (.setSwitch name state)).1 := by
  rw [Simulator.perform, Simulator.perform, Simulator.setSwitch, Simulator.setSwitch, h.network]
  cases other.network.deviceId? name with
  | none => exact h
  | some id =>
      simp only
      cases other.network.setSwitch id state with
      | error cause => exact h
      | ok network => exact ⟨rfl, h.order, h.maxPasses⟩

theorem perform (h : simulator.SameNetwork other) (hstates : chronicle.states = log.states)
    {operation : Operation} (hoperation : operation.isMonitoring = false) :
    (simulator.perform operation).1.SameNetwork (other.perform operation).1 ∧
      (chronicle.perform simulator operation).states = (log.perform other operation).states := by
  cases operation with
  | run cycles => exact h.coldStart.continueRun cycles
  | continueRun cycles =>
      obtain ⟨hlast, hcompleted⟩ := h.continueRun cycles
      exact ⟨hlast, Chronicle.states_extend_congr hstates hcompleted⟩
  | executeCycle =>
      obtain ⟨hlast, hcompleted⟩ := h.continueRun 1
      rw [perform_executeCycle_eq, perform_executeCycle_eq]
      exact ⟨hlast, Chronicle.states_extend_congr hstates hcompleted⟩
  | setSwitch name state => exact ⟨h.setSwitch name state, hstates⟩
  | addMonitor signal => cases hoperation
  | removeMonitor signal => cases hoperation

theorem monitor (h : simulator.SameNetwork other) (hstates : chronicle.states = log.states)
    {operation : Operation} (hoperation : operation.isMonitoring) :
    (simulator.perform operation).1.SameNetwork other ∧
      (chronicle.perform simulator operation).states = log.states := by
  cases operation with
  | run _ | continueRun _ | executeCycle | setSwitch _ _ => cases hoperation
  | addMonitor signal =>
      rw [Simulator.perform, Chronicle.perform]
      cases hadd : simulator.addMonitor signal with
      | error cause => exact ⟨h, hstates⟩
      | ok next =>
          obtain ⟨name, recorder, hname, -, rfl⟩ := addMonitor_eq_ok_iff.1 hadd
          rw [hname]
          exact ⟨⟨h.network, h.order, h.maxPasses⟩, hstates⟩
  | removeMonitor signal =>
      rw [Simulator.perform]
      cases hremove : simulator.removeMonitor signal with
      | error cause => exact ⟨h, hstates⟩
      | ok next =>
          obtain ⟨name, recorder, -, -, rfl⟩ := removeMonitor_eq_ok_iff.1 hremove
          exact ⟨⟨h.network, h.order, h.maxPasses⟩, hstates⟩

theorem performAll (h : simulator.SameNetwork other) (hstates : chronicle.states = log.states)
    (operations : List Operation) :
    let others := operations.filter fun operation => !operation.isMonitoring
    (simulator.performAll operations).1.SameNetwork (other.performAll others).1 ∧
      (chronicle.performAll simulator operations).states =
        (log.performAll other others).states := by
  induction operations generalizing simulator other chronicle log with
  | nil => exact ⟨h, hstates⟩
  | cons operation rest ih =>
      cases hoperation : operation.isMonitoring with
      | true =>
          -- Only the first simulator moves.
          obtain ⟨hnext, hnextStates⟩ := h.monitor hstates hoperation
          rw [List.filter_cons_of_neg (by simp [hoperation])]
          exact ih hnext hnextStates
      | false =>
          obtain ⟨hnext, hnextStates⟩ := h.perform hstates hoperation
          rw [List.filter_cons_of_pos (by simp [hoperation])]
          exact ih hnext hnextStates

end SameNetwork

/-! ## Monitoring from the start -/

theorem points_continueRun (simulator : Simulator) (cycles : Nat) :
    (simulator.continueRun cycles).1.recorder.points = simulator.recorder.points := by
  induction cycles generalizing simulator with
  | zero => rfl
  | succ cycles ih =>
      cases hcycle : simulator.executeCycle.2 with
      | ok passes => rw [continueRun_succ_of_ok hcycle, ih, points_executeCycle]
      | error cause => rw [continueRun_succ_of_error hcycle]

theorem unmonitored_perform (simulator : Simulator) {operation : Operation}
    (hoperation : operation.isMonitoring = false) (hadded : chronicle.added = fun _ => 0) :
    (simulator.perform operation).1.recorder.points = simulator.recorder.points ∧
      (chronicle.perform simulator operation).added = fun _ => 0 := by
  cases operation with
  | run cycles =>
      exact ⟨(points_continueRun _ cycles).trans simulator.recorder.points_reset, rfl⟩
  | continueRun cycles => exact ⟨points_continueRun _ cycles, hadded⟩
  | executeCycle =>
      rw [perform_executeCycle_eq]
      exact ⟨points_continueRun _ 1, hadded⟩
  | setSwitch name state =>
      refine ⟨?_, hadded⟩
      rw [perform]
      cases hset : simulator.setSwitch name state with
      | error cause => rfl
      | ok next =>
          obtain ⟨id, network, -, -, rfl⟩ := setSwitch_eq_ok_iff.1 hset
          rfl
  | addMonitor signal => cases hoperation
  | removeMonitor signal => cases hoperation

theorem unmonitored_performAll (simulator : Simulator) {operations : List Operation}
    (hoperations : ∀ operation ∈ operations, operation.isMonitoring = false)
    (hadded : chronicle.added = fun _ => 0) :
    (simulator.performAll operations).1.recorder.points = simulator.recorder.points ∧
      (chronicle.performAll simulator operations).added = fun _ => 0 := by
  induction operations generalizing simulator chronicle with
  | nil => exact ⟨rfl, hadded⟩
  | cons operation rest ih =>
      obtain ⟨hfirst, hrest⟩ := List.forall_mem_cons.1 hoperations
      obtain ⟨hpoints, hnext⟩ := simulator.unmonitored_perform hfirst hadded
      obtain ⟨hlast, hlastAdded⟩ := ih (simulator.perform operation).1 hrest hnext
      exact ⟨hlast.trans hpoints, hlastAdded⟩

theorem records_ofNetwork {circuit : Network} (hbuilt : circuit.Built) {recorder : Recorder}
    (hreset : recorder.reset = recorder) (names : Names) (maxPasses : Nat) :
    (ofNetwork names circuit recorder maxPasses).Records {} := by
  have hstart : (ofNetwork names circuit recorder maxPasses).coldStart =
      ofNetwork names circuit recorder maxPasses := by
    rw [coldStart, ofNetwork, hbuilt.coldStart_eq, hreset]
  rw [← hstart]
  exact records_coldStart _

end Simulator

namespace Definition

open Simulator in
/-- After any operations on a simulator of a definition without errors, every trace starts when its
output was added and holds the levels that the output had after each cycle since. Monitoring does
not change the network, so that a trace is the end of the one that its output has when it alone is
monitored from the start. -/
theorem trace_is_history {source : String} (hvalid : (ofSource source).hasErrors = false)
    (maxPasses : Nat) (operations : List Operation) :
    let definition := ofSource source
    let simulator :=
      ofNetwork definition.names definition.network definition.recorder maxPasses
    let last := (simulator.performAll operations).1
    let chronicle := ({} : Chronicle).performAll simulator operations
    let others := operations.filter fun operation => !operation.isMonitoring
    (0 < maxPasses → ofDefinition definition maxPasses = .ok simulator) ∧
    chronicle.states.length = last.cycleCount ∧
    (∀ name trace, (name, trace) ∈ last.recorder.entries →
      trace.startCycle + trace.samples.size = last.cycleCount ∧
      trace.startCycle = chronicle.added name ∧
      (∀ (i : Nat) sample, trace.samples[i]? = some sample → ∃ network signal,
        chronicle.states[trace.startCycle + i]? = some network ∧
          network.cycle = trace.startCycle + i + 1 ∧
          network.signalNamed? name = some signal ∧ sample = .ofLevel signal.isHigh) ∧
      let alone := ofNetwork definition.names definition.network
        { entries := [(name, {})] } maxPasses
      ∃ full, (alone.performAll others).1.recorder.entries = [(name, full)] ∧
        full.startCycle = 0 ∧ trace.samples.toList = full.samples.toList.drop trace.startCycle) ∧
    last.network = (simulator.performAll others).1.network ∧
    chronicle.states = (({} : Chronicle).performAll simulator others).states := by
  intro definition simulator last chronicle others
  have hbuilt : definition.network.Built := built_ofSource source
  have hrecords : last.Records chronicle :=
    (records_ofNetwork hbuilt (reset_recorder_ofSource source) _ maxPasses).performAll operations
  have hwatches : last.recorder.Watches last.network :=
    (simulator.reaches_performAll operations).watches (watches_ofSource hvalid)
  obtain ⟨hlast, hstates⟩ := (SameNetwork.refl simulator).performAll
    (rfl : ({} : Chronicle).states = ({} : Chronicle).states) operations
  refine ⟨fun hpasses => ofDefinition_eq_ok hpasses hvalid, hrecords.count, ?_, hlast.network,
    hstates⟩
  intro name trace hentry
  obtain ⟨hcount, hsamples⟩ := hrecords.samples hwatches hentry
  obtain ⟨-, htrace⟩ := hrecords.traces _ hentry
  refine ⟨hcount, congrArg Trace.startCycle htrace, hsamples, ?_⟩
  intro alone
  have hothers : ∀ operation ∈ others, operation.isMonitoring = false := by
    intro operation hoperation
    simpa using (List.mem_filter.1 hoperation).2
  have hfull : (alone.performAll others).1.Records (({} : Chronicle).performAll alone others) :=
    (records_ofNetwork hbuilt rfl _ maxPasses).performAll others
  obtain ⟨hpoints, hadded⟩ := alone.unmonitored_performAll hothers
    (rfl : ({} : Chronicle).added = fun _ => 0)
  obtain ⟨⟨same, full⟩, hentries, rfl⟩ := List.map_eq_singleton_iff.1 hpoints
  have hmem : (same, full) ∈ (alone.performAll others).1.recorder.entries := by
    rw [hentries]
    exact List.mem_singleton_self _
  have hzero : full.startCycle = 0 := by
    obtain ⟨-, htraceFull⟩ := hfull.traces _ hmem
    calc full.startCycle
      _ = (({} : Chronicle).performAll alone others).added same :=
          congrArg Trace.startCycle htraceFull
      _ = 0 := congrFun hadded same
  obtain ⟨-, haloneStates⟩ := (⟨rfl, rfl, rfl⟩ : simulator.SameNetwork alone).performAll
    (rfl : ({} : Chronicle).states = ({} : Chronicle).states) operations
  have hdrop := hrecords.samples_eq_drop hfull haloneStates hentry hmem (by omega)
  rw [hzero, Nat.sub_zero] at hdrop
  exact ⟨full, hentries, hzero, hdrop⟩

open Simulator in
/-- The output of the inverter is monitored after three of five cycles. -/
theorem trace_is_history_inverter :
    let definition := ofSource "DEVICES c:CLOCK 1, n:NOT; CONNECT c > n; MONITOR c; END"
    let simulator := ofNetwork definition.names definition.network definition.recorder 20
    let last := (simulator.performAll [.run 3, .addMonitor "n", .continueRun 2]).1
    definition.hasErrors = false ∧
      ∃ trace, (⟨"n", .out⟩, trace) ∈ last.recorder.entries ∧ trace.startCycle = 3 ∧
        trace.samples.size = 2 := by
  intro definition simulator last
  have hvalid : definition.hasErrors = false := by
    unfold definition
    decide +kernel
  have hpoint : (⟨"n", .out⟩ : SignalName) ∈ last.recorder.points := by
    have hpoints : last.recorder.points = [⟨"c", .out⟩, ⟨"n", .out⟩] := by
      unfold last simulator definition
      decide +kernel
    rw [hpoints]
    exact List.mem_cons_of_mem _ List.mem_cons_self
  have hcount : last.cycleCount = 5 := by
    unfold last simulator definition
    decide +kernel
  have hadded : (({} : Chronicle).performAll simulator
      [.run 3, .addMonitor "n", .continueRun 2]).added ⟨"n", .out⟩ = 3 := by
    unfold simulator definition
    decide +kernel
  obtain ⟨-, -, htraces, -⟩ :=
    trace_is_history hvalid 20 [.run 3, .addMonitor "n", .continueRun 2]
  unfold last simulator definition at hpoint hcount ⊢
  unfold simulator definition at hadded
  obtain ⟨⟨_, trace⟩, hentry, rfl⟩ := List.mem_map.1 hpoint
  obtain ⟨hsize, hstart, -⟩ := htraces _ trace hentry
  refine ⟨hvalid, trace, hentry, hstart.trans hadded, ?_⟩
  have hlast : trace.startCycle + trace.samples.size = 5 := hsize.trans hcount
  have hthree : trace.startCycle = 3 := hstart.trans hadded
  omega

end Definition

end LogicBench
