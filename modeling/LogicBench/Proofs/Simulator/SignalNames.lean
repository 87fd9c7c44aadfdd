import LogicBench.Proofs.Simulator.Bookkeeping

/-!
# The two lists of signal names

A simulator lists the names of the monitored outputs and those of all others. Each output of a
device is in one of the lists, and in one only: the first grows and shrinks with the additions and
removals, and the second is what it leaves of all the names, in the order of declaration. A name is
accepted for addition or removal by the list that it is in.
-/

namespace LogicBench

namespace Network

variable {network other : Network}

theorem signalNames_bare (network : Network) : network.bare.signalNames = network.signalNames := by
  simp [signalNames, bare, List.flatMap_map]

theorem signalNames_of_bare_eq (h : other.bare = network.bare) :
    other.signalNames = network.signalNames := by
  rw [← signalNames_bare, h, signalNames_bare]

theorem Wired.mem_signalNames_iff (h : network.Wired) {name : SignalName} :
    name ∈ network.signalNames ↔ network.HasSignal name := by
  rw [mem_signalNames, h.hasSignal_iff]

theorem Wired.eq_of_text_eq (h : network.Wired)
    (hdots : ∀ device ∈ network.devices, '.' ∉ device.name.toList) {first second : SignalName}
    (hfirst : network.HasSignal first) (hsecond : network.HasSignal second)
    (htext : first.text = second.text) : first = second := by
  have hnamed := (SignalName.ofText?_eq_some_iff h hdots).2 ⟨hfirst, rfl⟩
  exact Option.some.inj
    (hnamed.symm.trans ((SignalName.ofText?_eq_some_iff h hdots).2 ⟨hsecond, htext⟩))

end Network

namespace Recorder

variable {recorder : Recorder} {network : Network}

theorem mem_unmonitored {name : SignalName} :
    name ∈ recorder.unmonitored network ↔
      name ∈ network.signalNames ∧ name ∉ recorder.points := by
  simp [unmonitored, contains]

theorem Watches.perm_signalNames (h : recorder.Watches network) (hwired : network.Wired) :
    (recorder.points ++ recorder.unmonitored network).Perm network.signalNames := by
  have hpoints : recorder.points.Perm (network.signalNames.filter recorder.contains) := by
    refine (List.perm_ext_iff_of_nodup h.nodup (hwired.nodup_signalNames.filter _)).2 fun name => ?_
    have houtput : name ∈ recorder.points → name ∈ network.signalNames := fun hname =>
      hwired.mem_signalNames_iff.2 (h.outputs name hname)
    simp only [List.mem_filter, contains, List.contains_iff_mem]
    exact ⟨fun hname => ⟨houtput hname, hname⟩, And.right⟩
  exact (hpoints.append_right _).trans (List.filter_append_perm recorder.contains _)

theorem Watches.map_unmonitored (h : recorder.Watches network) (hwired : network.Wired)
    (hdots : ∀ device ∈ network.devices, '.' ∉ device.name.toList) :
    (recorder.unmonitored network).map SignalName.text =
      (network.signalNames.map SignalName.text).filter
        fun text => text ∉ recorder.points.map SignalName.text := by
  rw [List.filter_map, unmonitored]
  refine congrArg _ (List.filter_congr fun name hname => ?_)
  have hsame : name.text ∈ recorder.points.map SignalName.text ↔ name ∈ recorder.points := by
    refine ⟨fun htext => ?_, List.mem_map_of_mem⟩
    obtain ⟨point, hpoint, htext⟩ := List.mem_map.1 htext
    rwa [← hwired.eq_of_text_eq hdots (h.outputs point hpoint)
      (hwired.mem_signalNames_iff.1 hname) htext]
  simp only [contains, List.contains_eq_mem, Function.comp_apply, hsame, decide_not]

end Recorder

/-- The names listed as monitored after an operation, by its result: one that has been added comes
last, one that has been removed goes out, and nothing else changes the list. -/
def Operation.listedAfter (listed : List String) :
    Operation × Except SimulatorError Unit → List String
  | (addMonitor text, .ok ()) => listed ++ [text]
  | (removeMonitor text, .ok ()) => listed.erase text
  | _ => listed

namespace Simulator

variable {network : Network} {simulator : Simulator} (hwired : network.Wired)
  (hdots : ∀ device ∈ network.devices, '.' ∉ device.name.toList)
  (hbare : simulator.network.bare = network.bare)

include hwired hdots hbare

theorem exists_addMonitor_iff {text : String} :
    (∃ next, simulator.addMonitor text = .ok next) ↔
      text ∈ simulator.signalNames.2 ∧ simulator.signalNames.1.length < 16 := by
  have hlisted : text ∈ simulator.signalNames.2 ↔ ∃ name,
      SignalName.ofText? network text = some name ∧ name ∉ simulator.recorder.points := by
    simp only [signalNames, List.mem_map, Recorder.mem_unmonitored,
      Network.signalNames_of_bare_eq hbare, hwired.mem_signalNames_iff,
      SignalName.ofText?_eq_some_iff hwired hdots]
    exact exists_congr fun name => by rw [and_right_comm, eq_comm]
  rw [hlisted, signalNames, List.length_map]
  constructor
  · rintro ⟨next, hadd⟩
    obtain ⟨name, hname, hnew, hroom, -⟩ :=
      (addMonitor_eq_ok_iff_room hwired hdots hbare).1 hadd
    exact ⟨⟨name, hname, hnew⟩, hroom⟩
  · rintro ⟨⟨name, hname, hnew⟩, hroom⟩
    exact ⟨_, (addMonitor_eq_ok_iff_room hwired hdots hbare).2 ⟨name, hname, hnew, hroom, rfl⟩⟩

theorem exists_removeMonitor_iff (hwatches : simulator.recorder.Watches network)
    {text : String} :
    (∃ next, simulator.removeMonitor text = .ok next) ↔ text ∈ simulator.signalNames.1 := by
  have hlisted : text ∈ simulator.signalNames.1 ↔ ∃ name,
      SignalName.ofText? simulator.network text = some name ∧
        name ∈ simulator.recorder.points := by
    simp only [signalNames, List.mem_map, hwired.ofText?_of_bare_eq hbare hdots,
      SignalName.ofText?_eq_some_iff hwired hdots]
    constructor
    · rintro ⟨name, hname, rfl⟩
      exact ⟨name, ⟨hwatches.outputs name hname, rfl⟩, hname⟩
    · rintro ⟨name, ⟨-, rfl⟩, hname⟩
      exact ⟨name, hname, rfl⟩
  rw [hlisted]
  constructor
  · rintro ⟨next, hremove⟩
    obtain ⟨name, hname, hmem, -⟩ := (removeMonitor_eq_ok_iff_filter hwatches.nodup).1 hremove
    exact ⟨name, hname, hmem⟩
  · rintro ⟨name, hname, hmem⟩
    exact ⟨_, (removeMonitor_eq_ok_iff_filter hwatches.nodup).2 ⟨name, hname, hmem, rfl⟩⟩

theorem listed_of_addMonitor {next : Simulator} {text : String}
    (h : simulator.addMonitor text = .ok next) :
    next.signalNames.1 = simulator.signalNames.1 ++ [text] := by
  obtain ⟨name, hname, -, -, rfl⟩ := (addMonitor_eq_ok_iff_room hwired hdots hbare).1 h
  obtain ⟨-, rfl⟩ := (SignalName.ofText?_eq_some_iff hwired hdots).1 hname
  simp [signalNames, Recorder.points]

theorem listed_of_removeMonitor {next : Simulator} {text : String}
    (h : simulator.removeMonitor text = .ok next)
    (hwatches : simulator.recorder.Watches network) :
    next.signalNames.1 = simulator.signalNames.1.erase text := by
  obtain ⟨name, hname, hmem, rfl⟩ := (removeMonitor_eq_ok_iff_filter hwatches.nodup).1 h
  rw [hwired.ofText?_of_bare_eq hbare hdots] at hname
  obtain ⟨houtput, rfl⟩ := (SignalName.ofText?_eq_some_iff hwired hdots).1 hname
  have hnodup : simulator.signalNames.1.Nodup :=
    hwatches.nodup.map_on fun first hfirst second hsecond htext =>
      hwired.eq_of_text_eq hdots (hwatches.outputs first hfirst) (hwatches.outputs second hsecond)
        htext
  rw [hnodup.erase_eq_filter]
  show ((simulator.recorder.entries.filter fun entry => entry.1 ≠ name).map (·.1)).map
      SignalName.text = ((simulator.recorder.entries.map (·.1)).map SignalName.text).filter _
  rw [List.map_map, List.map_map, List.filter_map]
  refine congrArg _ (List.filter_congr fun entry hentry => ?_)
  have hsame : entry.1.text = name.text ↔ entry.1 = name := by
    refine ⟨fun htext => ?_, congrArg _⟩
    exact hwired.eq_of_text_eq hdots (hwatches.outputs _ (List.mem_map_of_mem hentry)) houtput htext
  simp only [Function.comp_apply, bne, beq_eq_decide, hsame, decide_not]

theorem listed_perform (hwatches : simulator.recorder.Watches network) (operation : Operation) :
    (simulator.perform operation).1.signalNames.1 =
      Operation.listedAfter simulator.signalNames.1
        (operation, (simulator.perform operation).2) := by
  have hpoints := points_perform hwatches.nodup operation
  cases operation with
  | run _ | continueRun _ | executeCycle | setSwitch _ _ =>
      exact congrArg (List.map SignalName.text) hpoints
  | addMonitor text =>
      rw [perform]
      cases hadd : simulator.addMonitor text with
      | error cause => rfl
      | ok next => exact listed_of_addMonitor hwired hdots hbare hadd
  | removeMonitor text =>
      rw [perform]
      cases hremove : simulator.removeMonitor text with
      | error cause => rfl
      | ok next => exact listed_of_removeMonitor hwired hdots hbare hremove hwatches

theorem listed_performAll (hwatches : simulator.recorder.Watches network)
    (operations : List Operation) :
    (simulator.performAll operations).1.signalNames.1 =
      (operations.zip (simulator.performAll operations).2).foldl Operation.listedAfter
        simulator.signalNames.1 := by
  induction operations generalizing simulator with
  | nil => rfl
  | cons operation rest ih =>
      have hreaches := reaches_perform simulator operation
      have hnextBare : (simulator.perform operation).1.network.bare = network.bare :=
        hreaches.sameCircuit.bare.trans hbare
      have hnext : (simulator.perform operation).1.recorder.Watches network :=
        (hreaches.watches (hwatches.of_eq rfl hbare)).of_eq rfl hnextBare.symm
      have hrest := ih hnextBare hnext
      rw [listed_perform hwired hdots hbare hwatches] at hrest
      exact hrest

end Simulator

namespace Definition

open Simulator in
/-- After any operations on a simulator of a definition without errors, the two lists of names are
together the names of all outputs of all devices, each of them once. The first list is that of the
monitored outputs: those of the items and then those added, without those removed. The second list
is that of all other outputs, in the order of declaration. The names that can be added are those of
the second list, as long as there is room, and the names that can be removed those of the first. -/
theorem signal_names_are_partition {source : String} (hvalid : (ofSource source).hasErrors = false)
    (maxPasses : Nat) (operations : List Operation) :
    let definition := ofSource source
    let start := ofNetwork definition.names definition.network definition.recorder maxPasses
    let simulator := (start.performAll operations).1
    let results := (start.performAll operations).2
    let listed := simulator.signalNames.1
    let others := simulator.signalNames.2
    let outputs := definition.network.devices.flatMap fun device =>
      device.outputs.pins.map fun pin => SignalName.text ⟨device.name, pin⟩
    (0 < maxPasses → ofDefinition definition maxPasses = .ok start) ∧
    (listed ++ others).Perm outputs ∧ (listed ++ others).Nodup ∧
    listed = simulator.recorder.points.map SignalName.text ∧
    (∃ items, Item.SectionsSpelledBy none items (TokenStream.ofSource source).tokens ∧
      listed = (operations.zip results).foldl Operation.listedAfter
        ((items.filterMap Item.monitored?).map Reference.text)) ∧
    others = outputs.filter (fun text => text ∉ listed) ∧
    ∀ text,
      ((∃ next, simulator.addMonitor text = .ok next) ↔ text ∈ others ∧ listed.length < 16) ∧
      ((∃ next, simulator.removeMonitor text = .ok next) ↔ text ∈ listed) := by
  intro definition start simulator results listed others outputs
  have hwired : definition.network.Wired := (built_ofSource source).wellWired.toWired
  have hdots : ∀ device ∈ definition.network.devices, '.' ∉ device.name.toList :=
    fun _ => not_dot_mem_of_mem_devices
  have hreaches := start.reaches_performAll operations
  have hbare : simulator.network.bare = definition.network.bare := hreaches.sameCircuit.bare
  have hstart : start.recorder.Watches definition.network := watches_ofSource hvalid
  have hwatches : simulator.recorder.Watches definition.network :=
    (hreaches.watches hstart).of_eq rfl hbare.symm
  have houtputs : outputs = definition.network.signalNames.map SignalName.text := by
    simp only [outputs, Network.signalNames, List.map_flatMap, List.map_map]
    rfl
  have hothers : others =
      (simulator.recorder.unmonitored definition.network).map SignalName.text := by
    simp only [others, signalNames, Recorder.unmonitored, Network.signalNames_of_bare_eq hbare]
  have hperm : (listed ++ others).Perm outputs := by
    rw [houtputs, hothers]
    simpa [listed, signalNames] using (hwatches.perm_signalNames hwired).map SignalName.text
  refine ⟨fun hpasses => ofDefinition_eq_ok hpasses hvalid, hperm, ?_, rfl, ?_, ?_, fun text =>
    ⟨exists_addMonitor_iff hwired hdots hbare,
      exists_removeMonitor_iff hwired hdots hbare hwatches⟩⟩
  · rw [hperm.nodup_iff, houtputs]
    exact hwired.nodup_texts hdots
  · obtain ⟨items, hspelled, htexts⟩ := exists_items_texts hvalid
    refine ⟨items, hspelled, ?_⟩
    rw [← htexts]
    exact listed_performAll hwired hdots rfl hstart operations
  · rw [hothers, houtputs]
    exact hwatches.map_unmonitored hwired hdots

open Simulator in
/-- The switch has been added and one output of the flip-flop given up; the last operation fails. -/
theorem signal_names_are_partition_flipFlop :
    let definition := ofSource "DEVICES s:SWITCH 1, d:DTYPE;
      CONNECT s > d.DATA, s > d.CLK, s > d.SET, s > d.CLEAR; MONITOR d.Q; END"
    let start := ofNetwork definition.names definition.network definition.recorder 20
    let simulator := (start.performAll
      [.run 1, .addMonitor "s", .removeMonitor "d.Q", .addMonitor "d"]).1
    definition.hasErrors = false ∧ simulator.signalNames = (["s"], ["d.Q", "d.QBAR"]) ∧
      ["s", "d.Q", "d.QBAR"].Nodup ∧
      (∃ next, simulator.addMonitor "d.Q" = .ok next) ∧
      ∃ next, simulator.removeMonitor "s" = .ok next := by
  intro definition start simulator
  have hvalid : definition.hasErrors = false := by
    unfold definition
    decide +kernel
  have hlists : simulator.signalNames = (["s"], ["d.Q", "d.QBAR"]) := by
    unfold simulator start definition
    decide +kernel
  unfold simulator start definition at hlists ⊢
  obtain ⟨-, -, hnodup, -, -, -, haccepted⟩ := signal_names_are_partition hvalid 20
    [.run 1, .addMonitor "s", .removeMonitor "d.Q", .addMonitor "d"]
  rw [hlists] at hnodup
  refine ⟨hvalid, hlists, hnodup, (haccepted "d.Q").1.2 ?_, (haccepted "s").2.2 ?_⟩
  · rw [hlists]
    decide
  · rw [hlists]
    decide

end Definition

end LogicBench
