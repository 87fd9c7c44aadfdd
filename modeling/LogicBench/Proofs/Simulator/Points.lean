import LogicBench.Proofs.Definition.Acceptance
import LogicBench.Proofs.Simulator.Steps

/-!
# Monitored outputs

The outputs that a recorder monitors are distinct outputs of the network, no more than it has room
for. This is so in a definition without errors, whose recorder has not sampled anything yet, and
every step of a simulator keeps it.
-/

namespace LogicBench

namespace Network

def HasSignal (network : Network) (name : SignalName) : Prop :=
  ∃ device, network.deviceNamed? name.device = some device ∧ device.hasOutput name.pin

variable {network other : Network} {name : SignalName}

theorem deviceNamed?_bare (network : Network) (name : String) :
    network.bare.deviceNamed? name = (network.deviceNamed? name).map Device.bare := by
  rw [deviceNamed?, deviceNamed?, bare, List.find?_map]
  rfl

theorem HasSignal.of_bare_eq (h : network.HasSignal name) (hbare : other.bare = network.bare) :
    other.HasSignal name := by
  obtain ⟨device, hdevice, hpin⟩ := h
  have hsame : (other.deviceNamed? name.device).map Device.bare = some device.bare := by
    rw [← deviceNamed?_bare, hbare, deviceNamed?_bare, hdevice, Option.map_some]
  obtain ⟨same, hfound, hsameBare⟩ := Option.map_eq_some_iff.1 hsame
  refine ⟨same, hfound, ?_⟩
  rw [← Device.hasOutput_bare, hsameBare, Device.hasOutput_bare]
  exact hpin

theorem HasSignal.exists_signal (h : network.HasSignal name) :
    ∃ signal, network.signalNamed? name = some signal := by
  obtain ⟨device, hdevice, hpin⟩ := h
  obtain ⟨signal, hsignal⟩ := Option.isSome_iff_exists.1 ((device.output?_isSome name.pin).2 hpin)
  exact ⟨signal, by rw [signalNamed?, hdevice, Option.bind_some, hsignal]⟩

end Network

namespace Recorder

structure Watches (recorder : Recorder) (network : Network) : Prop where
  nodup : recorder.points.Nodup
  room : recorder.points.length ≤ maxMonitors
  outputs : ∀ name ∈ recorder.points, network.HasSignal name

variable {recorder next : Recorder} {network other : Network} {name : SignalName}

theorem Watches.of_eq (h : recorder.Watches network) (hpoints : next.points = recorder.points)
    (hbare : other.bare = network.bare) : next.Watches other := by
  constructor
  · rw [hpoints]
    exact h.nodup
  · rw [hpoints]
    exact h.room
  · rw [hpoints]
    exact fun name hname => (h.outputs name hname).of_bare_eq hbare

theorem points_add (h : recorder.add network name = .ok next) :
    next.points = recorder.points ++ [name] := by
  obtain ⟨-, -, -, rfl⟩ := add_eq_ok_iff.1 h
  simp [points]

theorem Watches.add (h : recorder.Watches network) (hadd : recorder.add network name = .ok next) :
    next.Watches network := by
  obtain ⟨houtput, hnew, hroom, -⟩ := add_eq_ok_iff.1 hadd
  have hpoints := points_add hadd
  constructor
  · rw [hpoints]
    exact List.nodup_append.2 ⟨h.nodup, List.nodup_singleton _, by
      rintro old hold _ hmem rfl
      rw [List.mem_singleton.1 hmem] at hold
      exact hnew hold⟩
  · rw [hpoints, List.length_append, List.length_singleton]
    exact hroom
  · rw [hpoints]
    intro old hold
    rcases List.mem_append.1 hold with hmem | hmem
    · exact h.outputs old hmem
    · rw [List.mem_singleton.1 hmem]
      exact houtput

theorem remove_eq_ok_iff : recorder.remove name = .ok next ↔ name ∈ recorder.points ∧
    next = { recorder with
      entries := recorder.entries.eraseP fun entry => entry.1 = name } := by
  have hcontains : recorder.contains name = true ↔ name ∈ recorder.points :=
    List.contains_iff_mem
  unfold remove
  split
  · next h => simp [hcontains.1 h, eq_comm]
  · next h => simp [mt hcontains.2 h]

theorem entries_remove_sublist (h : recorder.remove name = .ok next) :
    next.entries.Sublist recorder.entries := by
  obtain ⟨-, rfl⟩ := remove_eq_ok_iff.1 h
  exact List.eraseP_sublist

theorem Watches.remove (h : recorder.Watches network) (hremove : recorder.remove name = .ok next) :
    next.Watches network := by
  have hpoints : next.points.Sublist recorder.points := (entries_remove_sublist hremove).map _
  exact ⟨h.nodup.sublist hpoints, hpoints.length_le.trans h.room,
    fun old hold => h.outputs old (hpoints.subset hold)⟩

end Recorder

namespace Simulator

variable {simulator next : Simulator}

theorem points_executeCycle (simulator : Simulator) :
    simulator.executeCycle.1.recorder.points = simulator.recorder.points := by
  rcases simulator.executeCycle_cases with ⟨settled, passes, -, hcycle⟩ | hcycle
  · rw [hcycle]
    exact Recorder.points_sample _ _
  · rw [hcycle]

theorem Step.watches (h : simulator.Step next)
    (hwatches : simulator.recorder.Watches simulator.network) :
    next.recorder.Watches next.network := by
  have hbare := h.sameCircuit.bare
  cases h with
  | cycle completed => exact hwatches.of_eq simulator.points_executeCycle hbare
  | coldStart => exact hwatches.of_eq simulator.recorder.points_reset hbare
  | setSwitch set => exact hwatches.of_eq rfl hbare
  | addMonitor added => exact hwatches.add added
  | removeMonitor removed => exact hwatches.remove removed

theorem Reaches.watches (h : simulator.Reaches next)
    (hwatches : simulator.recorder.Watches simulator.network) :
    next.recorder.Watches next.network := by
  induction h with
  | refl => exact hwatches
  | tail _ hstep ih => exact hstep.watches ih

end Simulator

namespace Draft

theorem reset_recorder_apply {draft : Draft} (hbuilt : draft.network.Built)
    (h : draft.recorder.reset = draft.recorder) (entry : Entry) :
    (draft.apply entry).recorder.reset = (draft.apply entry).recorder := by
  cases entry with
  | opening opened => exact h
  | problem within diagnostic =>
      rw [apply, recorder_report]
      exact h
  | item item =>
      cases item with
      | device declared =>
          rcases draft.declare_cases declared with
            ⟨type, kind, network, id, -, -, -, heq⟩ | ⟨position, message, heq⟩
          · simpa [apply, applyItem, heq, note] using h
          · simpa [apply, applyItem, heq, refuse] using h
      | connection source destination =>
          rcases draft.connect_cases source destination with
            ⟨network, -, heq⟩ | ⟨position, message, heq⟩
          · simpa [apply, applyItem, heq] using h
          · simpa [apply, applyItem, heq, refuse, implicate] using h
      | signal reference =>
          rcases draft.monitor_cases reference with
            ⟨recorder, hmonitored, heq⟩ | ⟨position, message, heq⟩
          · obtain ⟨driver, -, hadd⟩ := monitored_eq_ok_iff.1 hmonitored
            obtain ⟨-, -, -, rfl⟩ := Recorder.add_eq_ok_iff.1 hadd
            simp only [apply, applyItem, heq, hbuilt.cycle_eq_zero]
            simp only [Recorder.reset, List.map_append] at h ⊢
            rw [← h]
            simp
          · simpa [apply, applyItem, heq, refuse] using h

theorem reset_recorder_ofEntries (entries : List Entry) :
    (ofEntries entries).recorder.reset = (ofEntries entries).recorder := by
  have hstep (draft : Draft) (h : draft.network.Built ∧ draft.recorder.reset = draft.recorder)
      (entry : Entry) (_ : entry ∈ entries) : (draft.apply entry).network.Built ∧
        (draft.apply entry).recorder.reset = (draft.apply entry).recorder :=
    ⟨built_apply h.1 entry, reset_recorder_apply h.1 h.2 entry⟩
  exact (List.foldlRecOn (motive := fun draft : Draft => draft.network.Built ∧
    draft.recorder.reset = draft.recorder) entries apply ⟨.empty, rfl⟩ hstep).2

end Draft

namespace Definition

theorem reset_recorder_ofSource (source : String) :
    (ofSource source).recorder.reset = (ofSource source).recorder := by
  have hrecorder : (ofSource source).recorder =
      (Draft.ofEntries (Outline.ofTokens (.ofSource source)).entries).recorder := by
    show (Draft.ofTokens (.ofSource source)).recorder = _
    unfold Draft.ofTokens
    split
    · next h => simp [Draft.close, Draft.note, Draft.refuse, Outline.ofTokens, h, Draft.ofEntries]
    · simp [Draft.close, Draft.note, Draft.ofOutline, Draft.ofEntries]
  rw [hrecorder]
  exact Draft.reset_recorder_ofEntries _

theorem watches_ofSource {source : String} (h : (ofSource source).hasErrors = false) :
    (ofSource source).recorder.Watches (ofSource source).network := by
  obtain ⟨items, last, -, helaborates, hnetwork, hrecorder, -, -⟩ :=
    exists_elaborates_of_no_errors ((errors_eq_nil_iff _).2 h)
  have hmonitored : last.Monitored :=
    helaborates.monitored ⟨.nil, Nat.zero_le 16, fun _ hname => nomatch hname⟩
  have hnames := (built_ofSource source).wellWired.names
  rw [hrecorder, hnetwork]
  rw [hnetwork] at hnames
  refine ⟨hmonitored.nodup, hmonitored.room, fun name hname => ?_⟩
  obtain ⟨device, hdevice, hsame, hpin⟩ := hmonitored.outputs name hname
  obtain ⟨id, hid⟩ := List.getElem?_of_mem hdevice
  exact ⟨device, (Network.deviceNamed?_eq_some_iff hnames).2 ⟨⟨id, hid⟩, hsame⟩, hpin⟩

end Definition

end LogicBench
