import LogicBench.Proofs.Definition.Handles
import LogicBench.Proofs.Simulator.Addresses
import LogicBench.Proofs.Simulator.History
import LogicBench.Proofs.Text.Lines
import LogicBench.Session

/-!
# What a session shows

A session prints one row for each monitored output, with a mark for each completed cycle. If a cycle
fails, the rows are those of a session with the cycles before it, and only the exit code tells the
two apart. With more cycles the rows grow at their ends.
-/

namespace LogicBench

/-! ## Runs -/

namespace Simulator

theorem length_completed_le (simulator : Simulator) (cycles : Nat) :
    (simulator.completed cycles).length ≤ cycles := by
  induction cycles generalizing simulator with
  | zero => exact Nat.le_refl 0
  | succ cycles ih =>
      cases hcycle : simulator.executeCycle.2 with
      | ok passes =>
          rw [completed_succ_of_ok hcycle, List.length_cons]
          exact Nat.succ_le_succ (ih _)
      | error cause =>
          rw [completed_succ_of_error hcycle]
          exact Nat.zero_le _

theorem completed_eq_take (simulator : Simulator) {fewer cycles : Nat} (h : fewer ≤ cycles) :
    simulator.completed fewer = (simulator.completed cycles).take fewer := by
  induction fewer generalizing simulator cycles with
  | zero => rw [List.take_zero, completed]
  | succ fewer ih =>
      obtain ⟨more, rfl⟩ := Nat.exists_eq_add_of_le' (Nat.le_trans (Nat.le_add_left 1 fewer) h)
      cases hcycle : simulator.executeCycle.2 with
      | ok passes =>
          rw [completed_succ_of_ok hcycle, completed_succ_of_ok hcycle, List.take_succ_cons,
            ih simulator.executeCycle.1 (Nat.le_of_succ_le_succ h)]
      | error cause =>
          rw [completed_succ_of_error hcycle, completed_succ_of_error hcycle, List.take_nil]

/-- A run succeeds if all of its cycles are completed, and otherwise fails in the one behind those
completed. -/
theorem continueRun_result (simulator : Simulator) (cycles : Nat) :
    (simulator.continueRun cycles).2 =
      if (simulator.completed cycles).length = cycles then .ok ()
      else .error (.notSettled (simulator.cycleCount + (simulator.completed cycles).length + 1)
        simulator.maxPasses) := by
  induction cycles generalizing simulator with
  | zero => rfl
  | succ cycles ih =>
      cases hcycle : simulator.executeCycle.2 with
      | ok passes =>
          have hcount := cycleCount_of_ok hcycle
          have hpasses := simulator.sameCircuit_executeCycle.maxPasses
          rw [continueRun_succ_of_ok hcycle, completed_succ_of_ok hcycle, ih, hcount, hpasses,
            List.length_cons, Nat.add_assoc simulator.cycleCount 1, Nat.add_comm 1]
          simp only [Nat.add_right_cancel_iff]
      | error cause =>
          obtain ⟨-, rfl⟩ := executeCycle_eq_of_error hcycle
          rw [continueRun_succ_of_error hcycle, completed_succ_of_error hcycle]
          rfl

end Simulator

/-! ## Rows -/

namespace Session

def rowOf (width : Nat) (states : List Network) (name : SignalName) : String :=
  padTo width name.text ++ " : " ++
    String.ofList (states.map fun network => (network.sampleOf name).mark)

/-- The rows of some outputs, in this order, behind a column for the longest name. -/
def rows (points : List SignalName) (states : List Network) : List String :=
  points.map (rowOf ((points.map fun name => name.text.utf8ByteSize).foldl max 0) states)

variable {points : List SignalName} {states : List Network}

theorem rows_take_prefix (points : List SignalName) (states : List Network) (fewer : Nat) :
    List.Forall₂ (· <+: ·) ((rows points (states.take fewer)).map String.toList)
      ((rows points states).map String.toList) := by
  simp only [rows, List.map_map, List.forall₂_map_left_iff, List.forall₂_map_right_iff,
    List.forall₂_same]
  intro name _
  simp only [Function.comp_apply, rowOf, String.toList_append, String.toList_ofList,
    List.prefix_append_right_inj]
  exact (List.take_prefix fewer states).map _

def IsShown (c : Char) : Prop :=
  c.isAlphanum ∨ c ∈ ['.', ' ', ':', highMark, lowMark]

instance (c : Char) : Decidable (IsShown c) :=
  inferInstanceAs (Decidable (_ ∨ _))

theorem isShown_of_mem_text {name : SignalName} (h : ∀ c ∈ name.device.toList, c.isAlphanum)
    {c : Char} (hc : c ∈ name.text.toList) : IsShown c := by
  rcases SignalName.isAlphanum_or_dot_of_mem_text h hc with halphanum | rfl
  · exact .inl halphanum
  · decide

theorem not_mem_rows (h : ∀ name ∈ points, ∀ c ∈ name.device.toList, c.isAlphanum)
    {row : String} (hrow : row ∈ rows points states) : '\n' ∉ row.toList ∧ '\r' ∉ row.toList := by
  obtain ⟨name, hname, rfl⟩ := List.mem_map.1 hrow
  have hshown : ∀ c ∈ (rowOf ((points.map fun name => name.text.utf8ByteSize).foldl max 0) states
      name).toList, IsShown c := by
    intro c hc
    simp only [rowOf, padTo, String.toList_append, String.toList_ofList, List.mem_append,
      List.mem_replicate, List.mem_map] at hc
    rcases hc with ((htext | ⟨-, rfl⟩) | hcolon) | ⟨network, -, rfl⟩
    · exact isShown_of_mem_text (h name hname) htext
    · decide
    · have hmem : c ∈ [' ', ':', ' '] := hcolon
      simp only [List.mem_cons, List.not_mem_nil, or_false] at hmem
      rcases hmem with rfl | rfl | rfl <;> decide
    · unfold Signal.mark
      split
      · decide
      · decide
  constructor
  · intro hfeed
    exact absurd (hshown _ hfeed) (by decide)
  · intro hreturn
    exact absurd (hshown _ hreturn) (by decide)

end Session

namespace Simulator

theorem render_run (simulator : Simulator) (cycles : Nat) :
    (simulator.run cycles).1.render =
      String.join ((Session.rows simulator.recorder.points
        (simulator.coldStart.completed cycles)).map (· ++ "\n")) := by
  have hrecords := (records_coldStart simulator).continueRun cycles
  have hpoints : (simulator.run cycles).1.recorder.points = simulator.recorder.points :=
    (points_continueRun _ cycles).trans simulator.recorder.points_reset
  have hrow (width : Nat) (entry : SignalName × Trace)
      (hentry : entry ∈ (simulator.run cycles).1.recorder.entries) :
      Recorder.row width entry =
        Session.rowOf width (simulator.coldStart.completed cycles) entry.1 ++ "\n" := by
    obtain ⟨-, htrace⟩ := hrecords.traces entry hentry
    rw [Recorder.row, htrace]
    simp [Session.rowOf, Trace.waveform, Chronicle.traceOf, Chronicle.extend, Function.comp_def]
  rw [render, Recorder.render, List.map_congr_left (hrow _), Session.rows, ← hpoints]
  simp [Recorder.points, Recorder.nameWidth, Function.comp_def]

end Simulator

/-! ## Sessions -/

def Network.HasSwitch (network : Network) (name : String) : Prop :=
  ∃ device ∈ network.devices, device.name = name ∧ device.type = .switch

theorem Network.hasSwitch_of_bare_eq {network other : Network} (h : other.bare = network.bare)
    {name : String} : other.HasSwitch name ↔ network.HasSwitch name := by
  have hkeep {left right : Network} (hbare : left.bare = right.bare) (hleft : left.HasSwitch name) :
      right.HasSwitch name := by
    obtain ⟨device, hdevice, hname, htype⟩ := hleft
    obtain ⟨id, hid⟩ := List.getElem?_of_mem hdevice
    obtain ⟨same, hsame, hsameBare⟩ := Network.device?_of_bare_eq hbare hid
    exact ⟨same, List.mem_of_getElem? hsame, by rw [← hname, ← Device.name_bare same, hsameBare,
      Device.name_bare], by rw [Device.type_of_bare_eq hsameBare, htype]⟩
  exact ⟨hkeep h, hkeep h.symm⟩

structure Options.FitFor (options : Options) (definition : Definition) : Prop where
  valid : definition.hasErrors = false
  passes : 1 ≤ options.maxPasses
  switches : ∀ switch ∈ options.switches, definition.network.HasSwitch switch.1

namespace Simulator

variable {simulator next : Simulator}

theorem of_ofDefinition_eq_ok {definition : Definition} {maxPasses : Nat}
    (h : ofDefinition definition maxPasses = .ok simulator) :
    1 ≤ maxPasses ∧ ofNetwork definition.names definition.network definition.recorder maxPasses =
      simulator := by
  unfold ofDefinition at h
  split_ifs at h with hzero hinvalid
  · exact ⟨Nat.one_le_iff_ne_zero.2 hzero, Except.ok.inj h⟩

theorem exists_setSwitch_eq_ok_iff (hnames : (simulator.network.devices.map Device.name).Nodup)
    {name : String} (state : Bool) :
    (∃ next, simulator.setSwitch name state = .ok next) ↔ simulator.network.HasSwitch name := by
  constructor
  · rintro ⟨next, hnext⟩
    obtain ⟨id, network, hid, hset, -⟩ := setSwitch_eq_ok_iff.1 hnext
    obtain ⟨device, hdevice, hname⟩ := (Network.deviceId?_eq_some_iff hnames).1 hid
    obtain ⟨same, switch, hsame, hkind, -⟩ := Network.setSwitch_eq_ok_iff.1 hset
    cases hdevice.symm.trans hsame
    exact ⟨device, List.mem_of_getElem? hdevice, hname, by rw [Device.type, hkind]; rfl⟩
  · rintro ⟨device, hdevice, hname, htype⟩
    obtain ⟨id, hid⟩ := List.getElem?_of_mem hdevice
    cases hkind : device.kind with
    | switch switch =>
        exact ⟨_, setSwitch_eq_ok_iff.2 ⟨id, _,
          (Network.deviceId?_eq_some_iff hnames).2 ⟨device, hid, hname⟩,
          Network.setSwitch_eq_ok_iff.2 ⟨device, switch, hid, hkind, rfl⟩, rfl⟩⟩
    | _ =>
        rw [Device.type, hkind] at htype
        cases htype

end Simulator

namespace Session

theorem setSwitches_cons_eq_ok_iff {simulator last : Simulator} {name : String} {state : Bool}
    {rest : List (String × Bool)} :
    (setSwitches simulator ((name, state) :: rest)).2 = .ok last ↔
      ∃ next, simulator.setSwitch name state = .ok next ∧ (setSwitches next rest).2 = .ok last := by
  rw [setSwitches]
  cases simulator.setSwitch name state with
  | error cause => simp
  | ok next => simp

theorem exists_setSwitches_iff {simulator : Simulator}
    (hnames : (simulator.network.devices.map Device.name).Nodup) (switches : List (String × Bool)) :
    (∃ last, (setSwitches simulator switches).2 = .ok last) ↔
      ∀ switch ∈ switches, simulator.network.HasSwitch switch.1 := by
  induction switches generalizing simulator with
  | nil => simp [setSwitches]
  | cons switch rest ih =>
      obtain ⟨name, state⟩ := switch
      have hrest {next : Simulator} (hset : simulator.setSwitch name state = .ok next) :
          (∃ last, (setSwitches next rest).2 = .ok last) ↔
            ∀ switch ∈ rest, simulator.network.HasSwitch switch.1 := by
        obtain ⟨id, network, -, hnetwork, rfl⟩ := Simulator.setSwitch_eq_ok_iff.1 hset
        have hbare := Network.bare_of_setSwitch hnetwork
        have hsame := Network.names_of_bare_eq hbare
        rw [ih (hsame ▸ hnames)]
        simp only [Network.hasSwitch_of_bare_eq hbare]
      rw [List.forall_mem_cons, ← simulator.exists_setSwitch_eq_ok_iff hnames state]
      simp only [setSwitches_cons_eq_ok_iff]
      constructor
      · rintro ⟨last, next, hset, hlast⟩
        exact ⟨⟨next, hset⟩, (hrest hset).1 ⟨last, hlast⟩⟩
      · rintro ⟨⟨next, hset⟩, hswitches⟩
        obtain ⟨last, hlast⟩ := (hrest hset).2 hswitches
        exact ⟨last, next, hset, hlast⟩

theorem eq_of_setSwitches {simulator last : Simulator} {switches : List (String × Bool)}
    (h : (setSwitches simulator switches).2 = .ok last) :
    last = { simulator with network := last.network } := by
  induction switches generalizing simulator with
  | nil =>
      cases h
      rfl
  | cons switch rest ih =>
      obtain ⟨next, hset, hlast⟩ := setSwitches_cons_eq_ok_iff.1 h
      obtain ⟨id, network, -, -, rfl⟩ := Simulator.setSwitch_eq_ok_iff.1 hset
      have hsame := ih hlast
      exact hsame

variable {options : Options} {source : String} {simulator : Simulator}

theorem fitFor_iff : options.FitFor (.ofSource source) ↔
    ∃ first simulator, (Definition.ofSource source).hasErrors = false ∧
      Simulator.ofDefinition (.ofSource source) options.maxPasses = .ok first ∧
      (setSwitches first options.switches).2 = .ok simulator := by
  have hnames := (Definition.built_ofSource source).wellWired.names
  constructor
  · rintro ⟨hvalid, hpasses, hswitches⟩
    let first := Simulator.ofNetwork (Definition.ofSource source).names
      (Definition.ofSource source).network (Definition.ofSource source).recorder options.maxPasses
    have hfirst := Simulator.ofDefinition_eq_ok hpasses hvalid
    have hnames : (first.network.devices.map Device.name).Nodup := hnames
    obtain ⟨simulator, hset⟩ := (exists_setSwitches_iff hnames options.switches).2 hswitches
    exact ⟨first, simulator, hvalid, hfirst, hset⟩
  · rintro ⟨first, simulator, hvalid, hfirst, hset⟩
    obtain ⟨hpasses, rfl⟩ := Simulator.of_ofDefinition_eq_ok hfirst
    exact ⟨hvalid, hpasses, (exists_setSwitches_iff hnames options.switches).1 ⟨simulator, hset⟩⟩

theorem ofSource_of_not_fitFor (h : ¬ options.FitFor (.ofSource source)) :
    (ofSource options source).output = "" ∧ (ofSource options source).code = 1 := by
  have hdefinition : (Definition.read source).1 = .ofSource source := rfl
  simp only [ofSource, hdefinition]
  cases hvalid : (Definition.ofSource source).hasErrors with
  | true => exact ⟨rfl, rfl⟩
  | false =>
      simp only [if_neg Bool.false_ne_true, start]
      cases hfirst : Simulator.ofDefinition (.ofSource source) options.maxPasses with
      | error cause => exact ⟨rfl, rfl⟩
      | ok first =>
          dsimp only
          cases hset : (setSwitches first options.switches).2 with
          | ok simulator => exact absurd (fitFor_iff.2 ⟨first, simulator, hvalid, hfirst, hset⟩) h
          | error cause => exact ⟨rfl, rfl⟩

/-- A session that gets to run a simulator shows it, and succeeds if the run does. -/
theorem ofSource_of_setSwitches {first : Simulator}
    (hvalid : (Definition.ofSource source).hasErrors = false)
    (hfirst : Simulator.ofDefinition (.ofSource source) options.maxPasses = .ok first)
    (hset : (setSwitches first options.switches).2 = .ok simulator) :
    (ofSource options source).output = (simulator.run options.cycles).1.render ∧
      ((ofSource options source).code = 0 ↔ (simulator.run options.cycles).2 = .ok ()) ∧
      (ofSource options source).code ≤ 1 := by
  have hdefinition : (Definition.read source).1 = .ofSource source := rfl
  simp only [ofSource, hdefinition, hvalid, if_neg Bool.false_ne_true, start, hfirst, hset,
    simulate]
  cases (simulator.run options.cycles).2 with
  | ok done => exact ⟨rfl, by simp [Outcome.tell], by simp [Outcome.tell]⟩
  | error cause => exact ⟨rfl, by simp [Outcome.fail], by simp [Outcome.fail]⟩

/-- A session that shows a run of a simulator: the rows of the cycles completed, and by its exit
code whether these are all. -/
structure Shows (points : List SignalName) (maxPasses : Nat) (simulator : Simulator)
    (cycles : Nat) (outcome : Outcome) : Prop where
  output : outcome.output =
    String.join ((rows points (simulator.coldStart.completed cycles)).map (· ++ "\n"))
  code : outcome.code = 0 ↔ (simulator.coldStart.completed cycles).length = cycles
  bound : outcome.code ≤ 1
  result : (simulator.run cycles).2 =
    if (simulator.coldStart.completed cycles).length = cycles then .ok ()
    else .error (.notSettled ((simulator.coldStart.completed cycles).length + 1) maxPasses)

theorem shows_of_setSwitches {first : Simulator}
    (hvalid : (Definition.ofSource source).hasErrors = false)
    (hfirst : Simulator.ofDefinition (.ofSource source) options.maxPasses = .ok first)
    (hset : (setSwitches first options.switches).2 = .ok simulator) :
    Shows (Definition.ofSource source).recorder.points options.maxPasses simulator options.cycles
      (ofSource options source) := by
  obtain ⟨houtput, hcode, hbound⟩ := ofSource_of_setSwitches hvalid hfirst hset
  obtain ⟨-, rfl⟩ := Simulator.of_ofDefinition_eq_ok hfirst
  have hsame := eq_of_setSwitches hset
  have hrecorder : simulator.recorder = (Definition.ofSource source).recorder :=
    congrArg Simulator.recorder hsame
  have hlimit : simulator.maxPasses = options.maxPasses := congrArg Simulator.maxPasses hsame
  have hresult := simulator.coldStart.continueRun_result options.cycles
  rw [show simulator.coldStart.maxPasses = options.maxPasses from hlimit,
    show simulator.coldStart.cycleCount = 0 from rfl, Nat.zero_add] at hresult
  refine ⟨?_, ?_, hbound, hresult⟩
  · rw [houtput, Simulator.render_run, hrecorder]
  · rw [hcode, Simulator.run, hresult]
    split_ifs with hall
    · simp [hall]
    · simp [hall]

/-- What is printed are the cycles completed, whatever is asked for: nothing unless the definition
can be run, and otherwise a row for each of its monitored outputs, with a mark for each completed
cycle. A session succeeds if all of its cycles are completed, and one in which a cycle fails prints
what the one with the cycles before it prints, which succeeds. With fewer cycles each row is the
beginning of the row. -/
theorem output_shows_completed_cycles (options : Options) (source : String) :
    let definition := Definition.ofSource source
    let outcome (cycles : Nat) := ofSource { options with cycles } source
    let lines (cycles : Nat) := Text.lines (outcome cycles).output.toList
    (∀ arguments path, Options.ofArguments arguments = .ok options →
      run arguments path (.ok source) = outcome options.cycles ∧
      ∀ error, (run arguments path (.error error)).output = "" ∧
        (run arguments path (.error error)).code = 1) ∧
    (¬ options.FitFor definition →
      ∀ cycles, (outcome cycles).output = "" ∧ (outcome cycles).code = 1) ∧
    (options.FitFor definition → ∃ first simulator,
      Simulator.ofDefinition definition options.maxPasses = .ok first ∧
      (setSwitches first options.switches).2 = .ok simulator ∧
      ∀ cycles,
        let states := simulator.coldStart.completed cycles
        (outcome cycles).output =
          String.join ((rows definition.recorder.points states).map (· ++ "\n")) ∧
        ((outcome cycles).code = 0 ↔ states.length = cycles) ∧
        ∀ cause, (simulator.run cycles).2 = .error cause →
          ∃ failing, 1 ≤ failing ∧ failing ≤ cycles ∧
            cause = .notSettled failing options.maxPasses ∧
            states.length = failing - 1 ∧
            (outcome cycles).code = 1 ∧
            (outcome cycles).output = (outcome (failing - 1)).output ∧
            (outcome (failing - 1)).code = 0) ∧
    ∀ fewer cycles, fewer ≤ cycles → List.Forall₂ (· <+: ·) (lines fewer) (lines cycles) := by
  intro definition outcome lines
  have hamiss (h : ¬ options.FitFor definition) (cycles : Nat) :
      (outcome cycles).output = "" ∧ (outcome cycles).code = 1 := by
    apply ofSource_of_not_fitFor
    exact fun hfit => h ⟨hfit.valid, hfit.passes, hfit.switches⟩
  have hfits (h : options.FitFor definition) : ∃ first simulator,
      definition.hasErrors = false ∧
      Simulator.ofDefinition definition options.maxPasses = .ok first ∧
      (setSwitches first options.switches).2 = .ok simulator ∧
      ∀ cycles, Shows definition.recorder.points options.maxPasses simulator cycles
        (outcome cycles) := by
    obtain ⟨first, simulator, hvalid, hfirst, hset⟩ := fitFor_iff.1 h
    exact ⟨first, simulator, hvalid, hfirst, hset, fun cycles =>
      @shows_of_setSwitches { options with cycles } source simulator first hvalid hfirst hset⟩
  refine ⟨fun arguments path harguments => ⟨?_, fun error => ?_⟩, hamiss, ?_, ?_⟩
  · rw [run, harguments]
  · rw [run, harguments]
    exact ⟨rfl, rfl⟩
  · intro hfit
    obtain ⟨first, simulator, hvalid, hfirst, hset, hshows⟩ := hfits hfit
    refine ⟨first, simulator, hfirst, hset, fun cycles => ?_⟩
    intro states
    have hle : states.length ≤ cycles := simulator.coldStart.length_completed_le cycles
    refine ⟨(hshows cycles).output, (hshows cycles).code, fun cause hcause => ?_⟩
    have hfailed : states.length ≠ cycles := by
      intro hall
      rw [(hshows cycles).result, if_pos hall] at hcause
      cases hcause
    rw [(hshows cycles).result, if_neg hfailed] at hcause
    have hbefore : simulator.coldStart.completed states.length = states := by
      rw [simulator.coldStart.completed_eq_take hle]
      exact List.take_length
    have hone : (outcome cycles).code = 1 := by
      have hbound := (hshows cycles).bound
      have hnonzero := mt (hshows cycles).code.1 hfailed
      omega
    refine ⟨states.length + 1, Nat.le_add_left 1 _, by omega, (Except.error.inj hcause).symm, rfl,
      hone, ?_, ?_⟩
    · rw [Nat.add_sub_cancel, (hshows cycles).output, (hshows states.length).output, hbefore]
    · rw [Nat.add_sub_cancel, (hshows states.length).code, hbefore]
  · intro fewer cycles hle
    by_cases hfit : options.FitFor definition
    · obtain ⟨first, simulator, hvalid, hfirst, hset, hshows⟩ := hfits hfit
      have hnames : ∀ name ∈ definition.recorder.points, ∀ c ∈ name.device.toList,
          c.isAlphanum := by
        intro name hname
        have hwatches := Definition.watches_ofSource hvalid
        obtain ⟨device, hdevice, -⟩ := hwatches.outputs name hname
        have hunique := (Definition.built_ofSource source).wellWired.names
        obtain ⟨⟨id, hid⟩, hsame⟩ := (Network.deviceNamed?_eq_some_iff hunique).1 hdevice
        rw [← hsame]
        exact fun c hc => Definition.isAlphanum_of_mem_name (List.mem_of_getElem? hid) hc
      simp only [lines, (hshows _).output]
      rw [Text.lines_join fun row => not_mem_rows hnames,
        Text.lines_join fun row => not_mem_rows hnames, simulator.coldStart.completed_eq_take hle]
      exact rows_take_prefix _ _ fewer
    · have hnone (count : Nat) : lines count = [] := by
        simp only [lines, (hamiss hfit count).1]
        simp [Text.lines]
      rw [hnone, hnone]
      exact .nil

/-- A gate that feeds itself settles only while the clock is low, which it is for one cycle. -/
theorem output_shows_completed_cycles_loop :
    let source := "DEVICES c:CLOCK 2, g:NAND 2; CONNECT c > g.I1, g > g.I2; MONITOR g, c; END"
    let options : Options := { cycles := 7, maxPasses := 4 }
    options.FitFor (.ofSource source) ∧ (ofSource options source).code = 1 ∧
      (ofSource options source).output = (ofSource { options with cycles := 1 } source).output := by
  intro source options
  have hfit : options.FitFor (.ofSource source) := by
    refine ⟨?_, by decide, fun switch hswitch => nomatch hswitch⟩
    unfold source
    decide +kernel
  have hfails (simulator : Simulator)
      (hfirst : Simulator.ofDefinition (.ofSource source) 4 = .ok simulator) :
      (simulator.run 7).2 = .error (.notSettled 2 4) := by
    obtain ⟨-, rfl⟩ := Simulator.of_ofDefinition_eq_ok hfirst
    unfold source
    decide +kernel
  obtain ⟨-, -, hruns, -⟩ := output_shows_completed_cycles options source
  obtain ⟨first, simulator, hfirst, hset, hshown⟩ := hruns hfit
  obtain rfl : first = simulator := Except.ok.inj hset
  obtain ⟨-, -, hfailing⟩ := hshown 7
  obtain ⟨failing, -, -, hcause, -, hcode, houtput, -⟩ := hfailing _ (hfails first hfirst)
  obtain rfl : 2 = failing := (SimulatorError.notSettled.inj hcause).1
  exact ⟨hfit, hcode, houtput⟩

end Session

end LogicBench
