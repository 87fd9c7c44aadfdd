import LogicBench.Proofs.Definition.Switches
import LogicBench.Proofs.Session.Shown

/-!
# Setting switches

To set a switch is to declare it in another state: a session prints and returns the same as one in
which nothing is set, with the definition whose switches are declared in the states set last. So it
does not matter in which order different switches are set.
-/

namespace LogicBench

open Token (kinds)

def setStates (states : String → Option Bool) (switches : List (String × Bool)) :
    String → Option Bool :=
  switches.foldl (fun states switch => Function.update states switch.1 (some switch.2)) states

/-- The state each switch is set to last, if it is set. -/
def lastSet : List (String × Bool) → String → Option Bool :=
  setStates fun _ => none

section States

variable {states : String → Option Bool} {switches others : List (String × Bool)} {name : String}

theorem setStates_ne_none_iff : setStates states switches name ≠ none ↔
    states name ≠ none ∨ ∃ state, (name, state) ∈ switches := by
  induction switches generalizing states with
  | nil => simp [setStates]
  | cons switch rest ih =>
      obtain ⟨first, state⟩ := switch
      have hstep : setStates states ((first, state) :: rest) name =
        setStates (Function.update states first (some state)) rest name := rfl
      rw [hstep, ih, Function.update_apply]
      by_cases hname : name = first
      · subst hname
        simp
      · simp [hname]

theorem lastSet_ne_none_iff : lastSet switches name ≠ none ↔ ∃ state, (name, state) ∈ switches := by
  rw [lastSet, setStates_ne_none_iff]
  simp

theorem lastSet_swap {first second : String × Bool} (h : first.1 ≠ second.1)
    (before after : List (String × Bool)) :
    lastSet (before ++ second :: first :: after) =
      lastSet (before ++ first :: second :: after) := by
  simp only [lastSet, setStates, List.foldl_append, List.foldl_cons]
  rw [Function.update_comm h]

end States

/-! ## Networks -/

namespace Network

variable {network circuit next : Network} {states : String → Option Bool}

theorem switchState_withSwitches {id : DeviceId} {device : Device}
    (hdevice : circuit.device? id = some device) :
    (circuit.withSwitches states).switchState id =
      if device.type = .switch then (states device.name).getD (circuit.switchState id)
      else circuit.switchState id := by
  have hrenewed : (circuit.withSwitches states).device? id = some (device.withSwitches states) := by
    rw [device?_withSwitches, hdevice, Option.map_some]
  rw [switchState_eq hrenewed, switchState_eq hdevice, Device.withSwitches]
  split
  · next htype =>
    cases states device.name with
    | none => rfl
    | some state =>
        cases hkind : device.kind with
        | switch switch =>
            simp [Device.startWith, Device.coldStart, hkind, DeviceKind.withSwitch,
              DeviceKind.startLevel, DeviceKind.reset]
        | _ =>
            rw [Device.type, hkind] at htype
            cases htype
  · rfl

@[simp] theorem withSwitches_none (network : Network) :
    network.withSwitches (fun _ => none) = network := by
  have hdevice : Device.withSwitches (fun _ => none) = id := funext fun device => ite_self device
  rw [withSwitches, hdevice, List.map_id]

theorem switchState_of_setSwitch (hnames : (circuit.devices.map Device.name).Nodup)
    (hbare : network.bare = circuit.bare)
    (hstates : network.switchState = (circuit.withSwitches states).switchState)
    {name : String} {id : DeviceId} {state : Bool} (hid : network.deviceId? name = some id)
    (hset : network.setSwitch id state = .ok next) :
    next.switchState =
      (circuit.withSwitches (Function.update states name (some state))).switchState := by
  obtain ⟨old, switch, hold, hkind, rfl⟩ := setSwitch_eq_ok_iff.1 hset
  rw [deviceId?_of_bare_eq hbare] at hid
  obtain ⟨device, hdevice, rfl⟩ := (deviceId?_eq_some_iff hnames).1 hid
  ext1 other
  by_cases hother : other = id
  · subst hother
    have htype : device.type = .switch := by
      obtain ⟨same, hsame, hsameBare⟩ := device?_of_bare_eq hbare hold
      cases hdevice.symm.trans hsame
      rw [Device.type_of_bare_eq hsameBare, Device.type, hkind]
      rfl
    rw [switchState_withSwitches hdevice, if_pos htype, Function.update_self, switchState,
      device?_setDevice _ hold, if_pos rfl]
    rfl
  · have hkept : (network.setDevice id { old with kind := .switch (switch.set state) }).switchState
        other = network.switchState other := by
      rw [switchState, switchState, device?_setDevice _ hold, if_neg hother]
    rw [hkept, hstates]
    cases hlast : circuit.device? other with
    | none => rw [switchState, switchState, device?_withSwitches, device?_withSwitches, hlast]; rfl
    | some unset =>
        -- Names are unique, so no other device is declared anew.
        have hname : unset.name ≠ device.name := by
          intro hsame
          have hagain := (deviceId?_eq_some_iff hnames).2 ⟨unset, hlast, hsame⟩
          exact hother (Option.some.inj (hagain.symm.trans hid))
        rw [switchState_withSwitches hlast, switchState_withSwitches hlast,
          Function.update_of_ne hname]

end Network

namespace Session

theorem switchState_of_setSwitches {simulator last : Simulator} {circuit : Network}
    {states : String → Option Bool} {switches : List (String × Bool)}
    (hnames : (circuit.devices.map Device.name).Nodup)
    (hbare : simulator.network.bare = circuit.bare)
    (hstates : simulator.network.switchState = (circuit.withSwitches states).switchState)
    (h : (setSwitches simulator switches).2 = .ok last) :
    last.network.bare = circuit.bare ∧
      last.network.switchState =
        (circuit.withSwitches (setStates states switches)).switchState := by
  induction switches generalizing simulator states with
  | nil =>
      cases h
      exact ⟨hbare, hstates⟩
  | cons switch rest ih =>
      obtain ⟨next, hset, hlast⟩ := setSwitches_cons_eq_ok_iff.1 h
      obtain ⟨id, network, hid, hnetwork, rfl⟩ := Simulator.setSwitch_eq_ok_iff.1 hset
      exact ih ((Network.bare_of_setSwitch hnetwork).trans hbare)
        (Network.switchState_of_setSwitch hnames hbare hstates hid hnetwork) hlast

/-- From a cold start it makes no difference whether switches have been set or declared so. -/
theorem coldStart_setSwitches {names : Names} {circuit : Network} {recorder : Recorder}
    {maxPasses : Nat} {switches : List (String × Bool)} {last : Simulator}
    (hnames : (circuit.devices.map Device.name).Nodup)
    (h : (setSwitches (.ofNetwork names circuit recorder maxPasses) switches).2 = .ok last) :
    last.coldStart = (Simulator.ofNetwork names (circuit.withSwitches (lastSet switches)) recorder
      maxPasses).coldStart := by
  have hnone : circuit.switchState = (circuit.withSwitches fun _ => none).switchState := by
    rw [Network.withSwitches_none]
  obtain ⟨hbare, hstates⟩ := switchState_of_setSwitches hnames rfl hnone h
  have hdeclared : last.network.bare = (circuit.withSwitches (lastSet switches)).bare := by
    rw [hbare, Network.bare_withSwitches]
  rw [eq_of_setSwitches h]
  apply Simulator.coldStart_eq_of_agree
  · constructor
    · rfl
    · exact hdeclared
    · exact Network.evaluationOrder_of_bare_eq (hbare.symm.trans hdeclared)
    · rfl
  · exact hstates
  · rfl

end Session

/-! ## Options -/

def Options.unset (options : Options) : Options :=
  { options with switches := [] }

def Argument.isSwitch : Argument → Bool
  | .switch _ => true
  | _ => false

namespace Options

variable {start options : Options} {arguments : List Argument} {argument : Argument}

theorem unset_add_switch (hswitch : argument.isSwitch) (h : start.add argument = .ok options) :
    options.unset = start.unset := by
  cases argument with
  | switch text =>
      unfold add at h
      dsimp only at h
      split at h
      · cases h
        rfl
      · cases h
  | _ => cases hswitch

theorem add_unset (hother : argument.isSwitch = false) (h : start.add argument = .ok options) :
    start.unset.add argument = .ok options.unset := by
  cases argument with
  | switch text => cases hother
  | verbose =>
      cases h
      rfl
  | cycles text | maxPasses text =>
      simp only [add] at h ⊢
      cases hnumber : readNumber _ text with
      | error error =>
          rw [hnumber] at h
          cases h
      | ok number =>
          rw [hnumber] at h
          cases h
          rfl

theorem addAll_cons_eq_ok_iff {given : List String} :
    addAll given start (argument :: arguments) = .ok options ↔
      argument.single?.filter given.contains = none ∧ ∃ next, start.add argument = .ok next ∧
        addAll (argument.single?.toList ++ given) next arguments = .ok options := by
  rw [addAll]
  cases argument.single?.filter given.contains with
  | some option => simp
  | none => cases start.add argument <;> simp [bind, Except.bind]

theorem nodup_of_addAll {given : List String} (h : addAll given start arguments = .ok options) :
    (arguments.filterMap Argument.single?).Nodup ∧
      ∀ option ∈ arguments.filterMap Argument.single?, option ∉ given := by
  induction arguments generalizing given start with
  | nil => simp
  | cons argument rest ih =>
      obtain ⟨honce, next, -, hrest⟩ := addAll_cons_eq_ok_iff.1 h
      obtain ⟨hnodup, hnew⟩ := ih hrest
      cases hsingle : argument.single? with
      | none =>
          rw [List.filterMap_cons_none hsingle]
          rw [hsingle] at hnew
          exact ⟨hnodup, hnew⟩
      | some option =>
          rw [List.filterMap_cons_some hsingle]
          rw [hsingle] at honce hnew
          have hfirst : option ∉ given := by simpa [Option.filter] using honce
          refine ⟨List.nodup_cons.2 ⟨fun hmem => hnew option hmem (by simp), hnodup⟩, ?_⟩
          intro other hother
          rcases List.mem_cons.1 hother with rfl | hmem
          · exact hfirst
          · exact fun hgiven => hnew other hmem (by simp [hgiven])

/-- The number of cycles and the number of passes are asked for once at most. -/
theorem nodup_of_ofArguments (h : ofArguments arguments = .ok options) :
    (arguments.filterMap Argument.single?).Nodup :=
  (nodup_of_addAll h).1

example : ofArguments [.cycles "4", .switch "s=1", .switch "s=0", .cycles "4"] =
    .error (.repeated "--cycles <CYCLES>") := by
  decide +kernel

theorem addAll_unset {given : List String} (h : addAll given start arguments = .ok options) :
    addAll given start.unset (arguments.filter fun argument => !argument.isSwitch) =
      .ok options.unset := by
  induction arguments generalizing given start with
  | nil =>
      cases h
      rfl
  | cons argument rest ih =>
      obtain ⟨honce, next, hadd, hrest⟩ := addAll_cons_eq_ok_iff.1 h
      cases hswitch : argument.isSwitch with
      | true =>
          have hnone : argument.single? = none := by
            cases argument with
            | switch text => rfl
            | _ => cases hswitch
          rw [hnone] at hrest
          rw [List.filter_cons_of_neg (by simp [hswitch]), ← unset_add_switch hswitch hadd]
          exact ih hrest
      | false =>
          rw [List.filter_cons_of_pos (by simp [hswitch]), addAll_cons_eq_ok_iff]
          exact ⟨honce, next.unset, add_unset hswitch hadd, ih hrest⟩

theorem ofArguments_filter (h : ofArguments arguments = .ok options) :
    ofArguments (arguments.filter fun argument => !argument.isSwitch) = .ok options.unset :=
  addAll_unset h

end Options

/-! ## Sessions -/

structure Outcome.Agrees (outcome other : Outcome) : Prop where
  output : outcome.output = other.output
  code : outcome.code = other.code

theorem Outcome.Agrees.symm {outcome other : Outcome} (h : outcome.Agrees other) :
    other.Agrees outcome :=
  ⟨h.output.symm, h.code.symm⟩

theorem Outcome.Agrees.trans {outcome other last : Outcome} (h : outcome.Agrees other)
    (hother : other.Agrees last) : outcome.Agrees last :=
  ⟨h.output.trans hother.output, h.code.trans hother.code⟩

namespace Session

theorem agrees_of_run_eq {options other : Options} {source edited : String}
    {first simulator another last : Simulator}
    (hvalid : (Definition.ofSource source).hasErrors = false)
    (hfirst : Simulator.ofDefinition (.ofSource source) options.maxPasses = .ok first)
    (hset : (setSwitches first options.switches).2 = .ok simulator)
    (hvalidEdited : (Definition.ofSource edited).hasErrors = false)
    (hanother : Simulator.ofDefinition (.ofSource edited) other.maxPasses = .ok another)
    (hsetAnother : (setSwitches another other.switches).2 = .ok last)
    (hrun : simulator.run options.cycles = last.run other.cycles) :
    (ofSource options source).Agrees (ofSource other edited) := by
  obtain ⟨houtput, hcode, hbound⟩ := ofSource_of_setSwitches hvalid hfirst hset
  obtain ⟨houtputOther, hcodeOther, hboundOther⟩ :=
    ofSource_of_setSwitches hvalidEdited hanother hsetAnother
  have hzero : (ofSource options source).code = 0 ↔ (ofSource other edited).code = 0 := by
    rw [hcode, hcodeOther, hrun]
  exact ⟨by rw [houtput, houtputOther, hrun], by omega⟩

/-- Whether a text is edited to declare the switches in the states in which they are set last. -/
def DeclaresSet (switches : List (String × Bool)) (source edited : String) : Prop :=
  kinds (TokenStream.ofSource edited).tokens =
    kinds (Token.withSwitches (lastSet switches) (TokenStream.ofSource source).tokens)

variable {options : Options} {source edited : String}

theorem DeclaresSet.agrees (h : DeclaresSet options.switches source edited)
    (hvalid : (Definition.ofSource source).hasErrors = false)
    (hswitches : ∀ switch ∈ options.switches,
      (Definition.ofSource source).network.HasSwitch switch.1) :
    (Definition.ofSource edited).hasErrors = false ∧
      (ofSource options source).Agrees (ofSource options.unset edited) := by
  obtain ⟨herrors, hnetwork, hrecorder, hnames⟩ := Definition.withSwitches_of_edited
    ((Definition.errors_eq_nil_iff _).2 hvalid) h
  have hvalidEdited := (Definition.errors_eq_nil_iff _).1 herrors
  refine ⟨hvalidEdited, ?_⟩
  have hunset : options.unset.FitFor (.ofSource edited) ↔ 1 ≤ options.maxPasses :=
    ⟨fun h => h.passes, fun hpasses => ⟨hvalidEdited, hpasses, nofun⟩⟩
  by_cases hpasses : 1 ≤ options.maxPasses
  · obtain ⟨first, simulator, -, hfirst, hset⟩ := fitFor_iff.1 ⟨hvalid, hpasses, hswitches⟩
    obtain ⟨another, last, -, hanother, hlast⟩ := fitFor_iff.1 (hunset.2 hpasses)
    refine agrees_of_run_eq hvalid hfirst hset hvalidEdited hanother hlast ?_
    obtain ⟨-, rfl⟩ := Simulator.of_ofDefinition_eq_ok hfirst
    obtain ⟨-, rfl⟩ := Simulator.of_ofDefinition_eq_ok hanother
    cases hlast
    have hwired := (Definition.built_ofSource source).wellWired
    rw [Simulator.run, Simulator.run, coldStart_setSwitches hwired.names hset, hnetwork, hrecorder,
      hnames]
    rfl
  · -- Without passes neither of the two gets to run.
    obtain ⟨houtput, hcode⟩ := ofSource_of_not_fitFor fun h => hpasses h.passes
    obtain ⟨houtputEdited, hcodeEdited⟩ := ofSource_of_not_fitFor (mt hunset.1 hpasses)
    exact ⟨houtput.trans houtputEdited.symm, hcode.trans hcodeEdited.symm⟩

theorem agrees_of_lastSet_eq (hvalid : (Definition.ofSource source).hasErrors = false)
    (hswitches : ∀ switch ∈ options.switches,
      (Definition.ofSource source).network.HasSwitch switch.1)
    {others : List (String × Bool)} (h : lastSet others = lastSet options.switches) :
    (ofSource { options with switches := others } source).Agrees (ofSource options source) := by
  obtain ⟨edited, hedited⟩ := Token.exists_source_withSwitches (lastSet options.switches) source
  have hothers : ∀ switch ∈ others, (Definition.ofSource source).network.HasSwitch switch.1 := by
    intro switch hswitch
    have hset : lastSet options.switches switch.1 ≠ none := by
      rw [← h]
      exact lastSet_ne_none_iff.2 ⟨switch.2, hswitch⟩
    obtain ⟨state, hstate⟩ := lastSet_ne_none_iff.1 hset
    exact hswitches (switch.1, state) hstate
  have hdeclares : DeclaresSet others source edited := by
    rw [DeclaresSet, h]
    exact hedited
  obtain ⟨-, hagrees⟩ :=
    @DeclaresSet.agrees { options with switches := others } _ _ hdeclares hvalid hothers
  obtain ⟨-, hsame⟩ := @DeclaresSet.agrees options _ _ hedited hvalid hswitches
  exact hagrees.trans hsame.symm

/-- To set switches of a definition without errors, one after another, is to edit it: there are
texts in which each of these switches is declared in the state it is set to last, and with any of
them a session that sets nothing prints and returns the same. So sessions that set the switches to
the same states in the end agree, and different switches can be set in either order. -/
theorem setting_is_declaring (options : Options) (source : String)
    (hvalid : (Definition.ofSource source).hasErrors = false)
    (hswitches : ∀ switch ∈ options.switches,
      (Definition.ofSource source).network.HasSwitch switch.1) :
    (∃ edited, DeclaresSet options.switches source edited) ∧
    (∀ edited, DeclaresSet options.switches source edited →
      (Definition.ofSource edited).hasErrors = false ∧
      (ofSource options source).Agrees (ofSource options.unset edited)) ∧
    (∀ others, lastSet others = lastSet options.switches →
      (ofSource { options with switches := others } source).Agrees (ofSource options source)) ∧
    (∀ before first second after, options.switches = before ++ first :: second :: after →
      first.1 ≠ second.1 →
        (ofSource { options with switches := before ++ second :: first :: after } source).Agrees
          (ofSource options source)) ∧
    ∀ arguments path, Options.ofArguments arguments = .ok options → ∀ text,
      run arguments path (.ok text) = ofSource options text ∧
      run (arguments.filter fun argument => !argument.isSwitch) path (.ok text) =
        ofSource options.unset text := by
  refine ⟨Token.exists_source_withSwitches _ source, ?_, ?_, ?_, ?_⟩
  · exact fun edited hedited => hedited.agrees hvalid hswitches
  · exact fun others hothers => agrees_of_lastSet_eq hvalid hswitches hothers
  · intro before first second after hall hne
    apply agrees_of_lastSet_eq hvalid hswitches
    rw [hall, lastSet_swap hne]
  · intro arguments path harguments text
    rw [run, run, harguments, Options.ofArguments_filter harguments]
    exact ⟨rfl, rfl⟩

/-- A switch of a latch is set twice, and a switch is set to what it is. -/
theorem setting_is_declaring_latch :
    let source := "DEVICES s:SWITCH 1, r:SWITCH 1, p:NAND 2, q:NAND 2;
      CONNECT s > p.I1, q > p.I2, r > q.I1, p > q.I2; MONITOR p, q; END"
    let edited := "DEVICES s:SWITCH 0, r:SWITCH 1, p:NAND 2, q:NAND 2;
      CONNECT s > p.I1, q > p.I2, r > q.I1, p > q.I2; MONITOR p, q; END"
    let arguments : List Argument := [.switch "s=1", .switch "r=1", .cycles "4", .switch "s=0"]
    (Definition.ofSource source).hasErrors = false ∧
      (run arguments "latch" (.ok source)).Agrees (run [.cycles "4"] "latch" (.ok edited)) := by
  intro source edited arguments
  let options : Options := { cycles := 4, switches := [("s", true), ("r", true), ("s", false)] }
  have hvalid : (Definition.ofSource source).hasErrors = false := by
    unfold source
    decide +kernel
  have hdevices : (Definition.ofSource source).network.devices.map
      (fun device => (device.name, device.type)) =
        [("s", .switch), ("r", .switch), ("p", .gate .nand), ("q", .gate .nand)] := by
    unfold source
    decide +kernel
  have hswitches : ∀ switch ∈ options.switches,
      (Definition.ofSource source).network.HasSwitch switch.1 := by
    intro switch hswitch
    have hmem : (switch.1, DeviceType.switch) ∈ (Definition.ofSource source).network.devices.map
        (fun device => (device.name, device.type)) := by
      rw [hdevices]
      revert switch
      decide
    obtain ⟨device, hdevice, hsame⟩ := List.mem_map.1 hmem
    exact ⟨device, hdevice, congrArg Prod.fst hsame, congrArg Prod.snd hsame⟩
  let declared : List TokenKind :=
    [.keyword (.opening .devices), .name "s", .colon, .keyword (.device .switch), .number "0",
      .comma, .name "r", .colon, .keyword (.device .switch), .number "1", .comma, .name "p", .colon,
      .keyword (.device (.gate .nand)), .number "2", .comma, .name "q", .colon,
      .keyword (.device (.gate .nand)), .number "2", .semicolon, .keyword (.opening .connect),
      .name "s", .arrow, .name "p", .dot, .name "I1", .comma, .name "q", .arrow, .name "p", .dot,
      .name "I2", .comma, .name "r", .arrow, .name "q", .dot, .name "I1", .comma, .name "p", .arrow,
      .name "q", .dot, .name "I2", .semicolon, .keyword (.opening .monitor), .name "p", .comma,
      .name "q", .semicolon, .keyword .finish]
  have hread : kinds (TokenStream.ofSource edited).tokens = declared := by
    unfold edited declared
    decide +kernel
  have hset : kinds (Token.withSwitches (lastSet options.switches)
      (TokenStream.ofSource source).tokens) = declared := by
    unfold options source declared
    decide +kernel
  have hedited : DeclaresSet options.switches source edited := hread.trans hset.symm
  have harguments : Options.ofArguments arguments = .ok options := by
    unfold arguments options
    decide +kernel
  obtain ⟨-, hagrees, -, -, hrun⟩ := setting_is_declaring options source hvalid hswitches
  obtain ⟨-, hsame⟩ := hagrees edited hedited
  rw [← (hrun arguments "latch" harguments source).1,
    ← (hrun arguments "latch" harguments edited).2] at hsame
  exact ⟨hvalid, hsame⟩

end Session

end LogicBench
