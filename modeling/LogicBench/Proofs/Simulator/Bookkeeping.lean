import LogicBench.Proofs.Simulator.Addresses
import LogicBench.Proofs.Simulator.History

/-!
# Adding and removing monitored outputs

The outputs in the MONITOR section come first, then those added later, in this order, and without
those removed since. Whether an output can be added or removed depends on nothing but the list of
the monitored ones, and neither touches anything else.
-/

namespace LogicBench

/-! ## The MONITOR section -/

def Item.monitored? : Item → Option Reference
  | signal reference => some reference
  | device _ | connection _ _ => none

namespace Elaboration

variable {before after state last : Elaboration} {item : Item} {items : List Item}

theorem Accepts.shaped (h : before.Accepts item after)
    (hshaped : ∀ device ∈ before.network.devices, device.Shaped) :
    ∀ device ∈ after.network.devices, device.Shaped := by
  intro device hdevice
  cases h with
  | @device declared type kind _ _ _ =>
      rcases List.mem_append.1 hdevice with hold | hnew
      · exact hshaped device hold
      · rw [List.mem_singleton.1 hnew]
        exact Device.shaped_ofKind declared.name kind
  | @connection _ _ driver id pin owner _ _ howner _ =>
      rcases List.mem_or_eq_of_mem_set hdevice with hold | rfl
      · exact hshaped device hold
      · have hsame := hshaped owner (List.mem_of_getElem? howner)
        exact ⟨by simpa using hsame.inputs, hsame.outputs⟩
  | signal _ _ _ => exact hshaped device hdevice

theorem text_of_namesOutput {network : Network}
    (hshaped : ∀ device ∈ network.devices, device.Shaped) {reference : Reference} {driver : Driver}
    (h : reference.NamesOutput network driver) :
    SignalName.text ⟨reference.device, driver.pin⟩ = reference.text := by
  obtain ⟨device, hdevice, -, hpin⟩ := h
  have houtputs := (hshaped device (List.mem_of_getElem? hdevice)).outputs
  unfold Reference.text
  split at hpin
  · next hnone =>
    have hsole : device.kind.outputPins = [driver.pin] := houtputs.symm.trans hpin
    have hout : driver.pin = .out := by
      cases hkind : device.kind <;> simp_all [DeviceKind.outputPins]
    rw [hnone]
    exact SignalName.text_of_out hout
  · next suffix hsome =>
    rw [hsome]
    exact SignalName.text_eq_append (Pin.ofName?_eq_output_iff.1 hpin.1)

theorem Elaborates.texts (h : Elaborates state items last) (hrejected : last.rejected = [])
    (hshaped : ∀ device ∈ state.network.devices, device.Shaped) :
    last.recorder.points.map SignalName.text =
      state.recorder.points.map SignalName.text ++
        (items.filterMap Item.monitored?).map Reference.text := by
  induction h with
  | nil => simp
  | @accept before after last item items haccepts hrest ih =>
      rw [ih hrejected (haccepts.shaped hshaped)]
      cases haccepts with
      | device _ _ _ => rfl
      | connection _ _ _ _ => rfl
      | @signal reference driver hnames _ _ =>
          have htext := text_of_namesOutput hshaped hnames
          simp [Recorder.points, Item.monitored?, htext]
  | @reject before last item items _ hrest _ =>
      have hmem := hrest.subset.1 (List.mem_append_right _ (List.mem_singleton_self item))
      rw [hrejected] at hmem
      cases hmem

end Elaboration

/-! ## The recorder -/

namespace Recorder

variable {recorder next : Recorder} {network : Network} {name : SignalName}

theorem trace?_of_add (h : recorder.add network name = .ok next) :
    next.trace? name = some { startCycle := network.cycle } := by
  obtain ⟨-, hnew, -, rfl⟩ := add_eq_ok_iff.1 h
  have habsent : recorder.entries.find? (fun entry => entry.1 = name) = none := by
    apply List.find?_eq_none.2
    intro entry hentry hsame
    apply hnew
    rw [← of_decide_eq_true hsame]
    exact List.mem_map_of_mem hentry
  simp [trace?, habsent]

/-- Removing an output that has just been added gives back the recorder. -/
theorem remove_of_add (h : recorder.add network name = .ok next) :
    next.remove name = .ok recorder := by
  have hpoints := points_add h
  obtain ⟨-, hnew, -, rfl⟩ := add_eq_ok_iff.1 h
  apply remove_eq_ok_iff.2
  constructor
  · rw [hpoints]
    exact List.mem_append_right _ (List.mem_singleton_self name)
  · have hothers : ∀ entry ∈ recorder.entries, ¬ decide (entry.1 = name) = true := by
      intro entry hentry hsame
      apply hnew
      rw [← of_decide_eq_true hsame]
      exact List.mem_map_of_mem hentry
    rw [List.eraseP_append_right _ hothers]
    simp

theorem remove_eq_ok_iff_filter (h : recorder.points.Nodup) :
    recorder.remove name = .ok next ↔ name ∈ recorder.points ∧
      next = { recorder with
        entries := recorder.entries.filter fun entry => entry.1 ≠ name } := by
  have herase (entries : List (SignalName × Trace)) (hnodup : (entries.map (·.1)).Nodup) :
      entries.eraseP (fun entry => entry.1 = name) =
        entries.filter fun entry => entry.1 ≠ name := by
    induction entries with
    | nil => rfl
    | cons entry rest ih =>
        obtain ⟨hfirst, hrest⟩ := List.nodup_cons.1 hnodup
        by_cases hsame : entry.1 = name
        · have hkept : rest.filter (fun entry => entry.1 ≠ name) = rest := by
            apply List.filter_eq_self.2
            intro other hother
            apply decide_eq_true
            intro hname
            apply hfirst
            exact List.mem_map.2 ⟨other, hother, hname.trans hsame.symm⟩
          simpa [hsame] using hkept.symm
        · simpa [hsame] using ih hrest
  rw [remove_eq_ok_iff, herase recorder.entries h]

end Recorder

/-! ## The simulator -/

namespace Network

/-- The monitored outputs after an operation, by its result: an output that has been added comes
last, one that has been removed goes out, and nothing else changes the list. -/
def monitoredAfter (network : Network) (points : List SignalName) :
    Operation × Except SimulatorError Unit → List SignalName
  | (.addMonitor text, .ok ()) => points ++ (SignalName.ofText? network text).toList
  | (.removeMonitor text, .ok ()) =>
    points.filter fun name => SignalName.ofText? network text ≠ some name
  | _ => points

end Network

def Operation.additions (texts : List String) : List (Operation × Except SimulatorError Unit) :=
  texts.map fun text => (addMonitor text, .ok ())

namespace Simulator

variable {network : Network} {simulator next : Simulator} {text : String}

theorem addMonitor_eq_ok_iff_room (hwired : network.Wired)
    (hdots : ∀ device ∈ network.devices, '.' ∉ device.name.toList)
    (hbare : simulator.network.bare = network.bare) :
    simulator.addMonitor text = .ok next ↔
      ∃ name, SignalName.ofText? network text = some name ∧
        name ∉ simulator.recorder.points ∧ simulator.recorder.points.length < 16 ∧
        next = { simulator with
          recorder := { simulator.recorder with
            entries := simulator.recorder.entries ++
              [(name, { startCycle := simulator.cycleCount })] } } := by
  have hresolves (name : SignalName) : simulator.resolveSignal text = .ok name ↔
      SignalName.ofText? network text = some name := by
    rw [resolveSignal_eq_ok_iff, hwired.ofText?_of_bare_eq hbare hdots]
  rw [addMonitor_eq_ok_iff]
  constructor
  · rintro ⟨name, recorder, hname, hadd, rfl⟩
    obtain ⟨-, hnew, hroom, rfl⟩ := Recorder.add_eq_ok_iff.1 hadd
    exact ⟨name, (hresolves name).1 hname, hnew, hroom, rfl⟩
  · rintro ⟨name, hname, hnew, hroom, rfl⟩
    obtain ⟨houtput, -⟩ := (SignalName.ofText?_eq_some_iff hwired hdots).1 hname
    exact ⟨name, _, (hresolves name).2 hname,
      Recorder.add_eq_ok_iff.2 ⟨houtput.of_bare_eq hbare, hnew, hroom, rfl⟩, rfl⟩

theorem addMonitor_then (h : simulator.addMonitor text = .ok next) :
    next.trace? text = some { startCycle := simulator.cycleCount } ∧
      next.removeMonitor text = .ok simulator := by
  obtain ⟨name, recorder, hname, hadd, rfl⟩ := addMonitor_eq_ok_iff.1 h
  have hfound := simulator.resolveSignal_eq_ok_iff.1 hname
  constructor
  · rw [trace?, hfound]
    exact Recorder.trace?_of_add hadd
  · exact removeMonitor_eq_ok_iff.2 ⟨name, simulator.recorder, hname, Recorder.remove_of_add hadd,
      rfl⟩

theorem removeMonitor_eq_ok_iff_filter (h : simulator.recorder.points.Nodup) :
    simulator.removeMonitor text = .ok next ↔
      ∃ name, SignalName.ofText? simulator.network text = some name ∧
        name ∈ simulator.recorder.points ∧
        next = { simulator with
          recorder := { simulator.recorder with
            entries := simulator.recorder.entries.filter fun entry => entry.1 ≠ name } } := by
  rw [removeMonitor_eq_ok_iff]
  constructor
  · rintro ⟨name, recorder, hname, hremove, rfl⟩
    obtain ⟨hmem, rfl⟩ := (Recorder.remove_eq_ok_iff_filter h).1 hremove
    exact ⟨name, simulator.resolveSignal_eq_ok_iff.1 hname, hmem, rfl⟩
  · rintro ⟨name, hname, hmem, rfl⟩
    exact ⟨name, _, simulator.resolveSignal_eq_ok_iff.2 hname,
      (Recorder.remove_eq_ok_iff_filter h).2 ⟨hmem, rfl⟩, rfl⟩

theorem points_perform (h : simulator.recorder.points.Nodup) (operation : Operation) :
    (simulator.perform operation).1.recorder.points =
      simulator.network.monitoredAfter simulator.recorder.points
        (operation, (simulator.perform operation).2) := by
  cases operation with
  | run cycles => exact (points_continueRun _ cycles).trans simulator.recorder.points_reset
  | continueRun cycles => exact points_continueRun simulator cycles
  | executeCycle =>
      rw [perform_executeCycle_eq]
      exact points_continueRun simulator 1
  | setSwitch name state =>
      rw [perform]
      cases hset : simulator.setSwitch name state with
      | error cause => rfl
      | ok next =>
          obtain ⟨id, network, -, -, rfl⟩ := setSwitch_eq_ok_iff.1 hset
          rfl
  | addMonitor text =>
      rw [perform]
      cases hadd : simulator.addMonitor text with
      | error cause => rfl
      | ok next =>
          obtain ⟨name, recorder, hname, hrecorder, rfl⟩ := addMonitor_eq_ok_iff.1 hadd
          have hfound := simulator.resolveSignal_eq_ok_iff.1 hname
          simp [keepOnError, Network.monitoredAfter, hfound, Recorder.points_add hrecorder]
  | removeMonitor text =>
      rw [perform]
      cases hremove : simulator.removeMonitor text with
      | error cause => rfl
      | ok next =>
          obtain ⟨name, hfound, -, rfl⟩ := (removeMonitor_eq_ok_iff_filter h).1 hremove
          simp [keepOnError, Network.monitoredAfter, hfound, Recorder.points, List.filter_map,
            Function.comp_def, eq_comm]

theorem points_performAll (hwired : network.Wired)
    (hdots : ∀ device ∈ network.devices, '.' ∉ device.name.toList)
    (hbare : simulator.network.bare = network.bare)
    (hwatches : simulator.recorder.Watches simulator.network) (operations : List Operation) :
    (simulator.performAll operations).1.recorder.points =
      (operations.zip (simulator.performAll operations).2).foldl network.monitoredAfter
        simulator.recorder.points := by
  induction operations generalizing simulator with
  | nil => rfl
  | cons operation rest ih =>
      have hreaches := reaches_perform simulator operation
      have hfirst := points_perform hwatches.nodup operation
      have hsame (points : List SignalName) (event : Operation × Except SimulatorError Unit) :
          simulator.network.monitoredAfter points event =
            network.monitoredAfter points event := by
        unfold Network.monitoredAfter
        simp only [hwired.ofText?_of_bare_eq hbare hdots]
      rw [hsame] at hfirst
      have hrest := ih (hreaches.sameCircuit.bare.trans hbare) (hreaches.watches hwatches)
      rw [hfirst] at hrest
      exact hrest

end Simulator

namespace Definition

theorem exists_items_texts {source : String} (h : (ofSource source).hasErrors = false) :
    ∃ items, Item.SectionsSpelledBy none items (TokenStream.ofSource source).tokens ∧
      (ofSource source).recorder.points.map SignalName.text =
        (items.filterMap Item.monitored?).map Reference.text := by
  obtain ⟨items, last, hspelled, helaborates, -, hrecorder, hrejected, -⟩ :=
    exists_elaborates_of_no_errors ((errors_eq_nil_iff _).2 h)
  refine ⟨items, hspelled, ?_⟩
  rw [hrecorder]
  exact helaborates.texts hrejected fun device hdevice => nomatch hdevice

theorem foldl_additions {network : Network} {points : List SignalName}
    (h : ∀ name ∈ points, SignalName.ofText? network name.text = some name)
    (before : List SignalName) :
    (Operation.additions (points.map SignalName.text)).foldl network.monitoredAfter before =
      before ++ points := by
  unfold Operation.additions
  induction points generalizing before with
  | nil => simp
  | cons name rest ih =>
      obtain ⟨hfirst, hrest⟩ := List.forall_mem_cons.1 h
      simp only [List.map_cons, List.foldl_cons, Network.monitoredAfter, hfirst]
      rw [ih hrest]
      simp

open Simulator in
/-- After any operations on a simulator of a definition without errors, the monitored outputs are
those of the items and those added since, in this order and without those removed: they are distinct
outputs of the network, and sixteen at most. A text can be added exactly if it names an output that
is not monitored and there is room. It then has an empty trace, which removing it takes back. It can
be removed exactly if it names one that is monitored, and the others stay as they are. -/
theorem monitors_are_registered {source : String} (hvalid : (ofSource source).hasErrors = false)
    (maxPasses : Nat) (operations : List Operation) :
    let definition := ofSource source
    let network := definition.network
    let start := ofNetwork definition.names network definition.recorder maxPasses
    let simulator := (start.performAll operations).1
    let results := (start.performAll operations).2
    let recorder := simulator.recorder
    (0 < maxPasses → ofDefinition definition maxPasses = .ok start) ∧
    (∃ items, Item.SectionsSpelledBy none items (TokenStream.ofSource source).tokens ∧
      let texts := (items.filterMap Item.monitored?).map Reference.text
      recorder.points = (Operation.additions texts ++ operations.zip results).foldl
        network.monitoredAfter []) ∧
    recorder.points.Nodup ∧
    recorder.points.length ≤ 16 ∧
    (∀ name ∈ recorder.points,
      ∃ device ∈ network.devices, device.name = name.device ∧ device.hasOutput name.pin) ∧
    ∀ text,
      (∀ next, simulator.addMonitor text = .ok next ↔
        ∃ name, SignalName.ofText? network text = some name ∧ name ∉ recorder.points ∧
          recorder.points.length < 16 ∧
          next = { simulator with
            recorder := { recorder with
              entries := recorder.entries ++
                [(name, { startCycle := simulator.cycleCount })] } }) ∧
      (∀ next, simulator.addMonitor text = .ok next →
        next.trace? text = some { startCycle := simulator.cycleCount, samples := #[] } ∧
          next.removeMonitor text = .ok simulator) ∧
      ∀ next, simulator.removeMonitor text = .ok next ↔
        ∃ name, SignalName.ofText? network text = some name ∧ name ∈ recorder.points ∧
          next = { simulator with
            recorder := { recorder with
              entries := recorder.entries.filter fun entry => entry.1 ≠ name } } := by
  intro definition network start simulator results recorder
  have hwired : network.Wired := (built_ofSource source).wellWired.toWired
  have hdots : ∀ device ∈ network.devices, '.' ∉ device.name.toList :=
    fun _ => not_dot_mem_of_mem_devices
  have hreaches := start.reaches_performAll operations
  have hbare : simulator.network.bare = network.bare := hreaches.sameCircuit.bare
  have hstart : start.recorder.Watches start.network := watches_ofSource hvalid
  have hwatches : recorder.Watches simulator.network := hreaches.watches hstart
  refine ⟨fun hpasses => ofDefinition_eq_ok hpasses hvalid, ?_, hwatches.nodup, hwatches.room,
    fun name hname => hwired.hasSignal_iff.1 ((hwatches.outputs name hname).of_bare_eq hbare.symm),
    fun text => ⟨fun next => addMonitor_eq_ok_iff_room hwired hdots hbare,
      fun next hadd => addMonitor_then hadd, fun next => ?_⟩⟩
  · obtain ⟨items, hspelled, htexts⟩ := exists_items_texts hvalid
    have hnamed : ∀ name ∈ start.recorder.points,
        SignalName.ofText? network name.text = some name := fun name hname =>
      (SignalName.ofText?_eq_some_iff hwired hdots).2 ⟨hstart.outputs name hname, rfl⟩
    refine ⟨items, hspelled, ?_⟩
    rw [← htexts]
    show recorder.points = (Operation.additions (start.recorder.points.map SignalName.text) ++
      operations.zip results).foldl network.monitoredAfter []
    rw [List.foldl_append, foldl_additions hnamed, List.nil_append]
    exact points_performAll hwired hdots rfl hstart operations
  · rw [removeMonitor_eq_ok_iff_filter hwatches.nodup,
      hwired.ofText?_of_bare_eq hbare hdots]

open Simulator in
/-- The clock is monitored by the definition, given up for the inverter, and can be added again. -/
theorem monitors_are_registered_inverter :
    let definition := ofSource "DEVICES c:CLOCK 1, n:NOT; CONNECT c > n; MONITOR c; END"
    let start := ofNetwork definition.names definition.network definition.recorder 20
    let simulator :=
      (start.performAll [.run 2, .addMonitor "n", .removeMonitor "c", .continueRun 1]).1
    definition.hasErrors = false ∧ simulator.recorder.points = [⟨"n", .out⟩] ∧
      ∃ next, simulator.addMonitor "c" = .ok next ∧
        next.trace? "c" = some { startCycle := 3, samples := #[] } ∧
        next.removeMonitor "c" = .ok simulator := by
  intro definition start simulator
  have hvalid : definition.hasErrors = false := by
    unfold definition
    decide +kernel
  have hpoints : simulator.recorder.points = [⟨"n", .out⟩] := by
    unfold simulator start definition
    decide +kernel
  have hnamed : SignalName.ofText? definition.network "c" = some ⟨"c", .out⟩ := by
    unfold definition
    decide +kernel
  have hcount : simulator.cycleCount = 3 := by
    unfold simulator start definition
    decide +kernel
  have hnew : (⟨"c", .out⟩ : SignalName) ∉ simulator.recorder.points := by simp [hpoints]
  have hroom : simulator.recorder.points.length < 16 := by simp [hpoints]
  unfold simulator start definition at hpoints hcount hnew hroom ⊢
  unfold definition at hnamed
  obtain ⟨-, -, -, -, -, hregister⟩ := monitors_are_registered hvalid 20
    [.run 2, .addMonitor "n", .removeMonitor "c", .continueRun 1]
  obtain ⟨hadd, hthen, -⟩ := hregister "c"
  obtain ⟨next, hadded⟩ : ∃ next, addMonitor _ "c" = .ok next :=
    ⟨_, (hadd _).2 ⟨_, hnamed, hnew, hroom, rfl⟩⟩
  obtain ⟨htrace, hremove⟩ := hthen next hadded
  rw [hcount] at htrace
  exact ⟨hvalid, hpoints, next, hadded, htrace, hremove⟩

end Definition

end LogicBench
