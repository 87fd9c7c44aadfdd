import LogicBench.Proofs.Network.EvaluationOrder

/-!
# Synchronous behaviour

What a circuit shows, said without passes and without an order: equations between the levels of its
outputs in one cycle, and for each flip-flop between the bits stored after one cycle and after the
next. A circuit without feedback has such a behaviour whatever its switches do.
-/

namespace LogicBench

/-- The levels of the outputs in each cycle, counted from one, and the bits stored after each cycle.
Number zero is the start. -/
structure Behaviour where
  level : Nat → Driver → Bool
  stored : Nat → DeviceId → Bool

def GateOp.function : GateOp → List Bool → Bool
  | and, levels => false ∉ levels
  | or, levels => true ∈ levels
  | nand, levels => false ∈ levels
  | nor, levels => true ∉ levels

namespace Device

def inputLevel (device : Device) (level : Driver → Bool) (pin : InputPin) : Bool :=
  (device.driver? pin).any level

/-- The level that an output has to have in a cycle in which the switches are `switched`, the bits
of the cycle before are `stored` and the outputs have the given levels. -/
def rule (device : Device) (cycle : Nat) (switched stored : Bool) (level : Driver → Bool) :
    OutputPin → Bool
  | .q => stored
  | .qBar => !stored
  | .out =>
    match device.kind with
    | .switch _ => switched
    | .clock clock => cycle / clock.halfPeriod % 2 = 1
    | .generator generator =>
      generator.waveform.getD ((cycle - 1) % generator.waveform.length) false
    | .gate op _ => op.function (device.inputs.pins.map (device.inputLevel level))
    | .xor => device.inputLevel level (.numbered 1) ^^ device.inputLevel level (.numbered 2)
    | .not => !device.inputLevel level (.numbered 1)
    | .flipFlop _ => false

/-- The bit that a flip-flop has to store in a cycle, from the one stored before and the levels of
the cycle before and of this one. -/
def latchRule (device : Device) (stored : Bool) (before now : Driver → Bool) : Bool :=
  if device.inputLevel now .set then true
  else if device.inputLevel now .clear then false
  else if device.inputLevel now .clock && !device.inputLevel before .clock then
    device.inputLevel now .data
  else stored

end Device

/-- Whether a behaviour is one of the circuit, for as many cycles as there are settings of the
switches; the setting of a cycle gives the state of each switch. -/
structure Network.Obeys (circuit : Network) (past : List (DeviceId → Bool)) (b : Behaviour) :
    Prop where
  level_zero : ∀ driver, b.level 0 driver = false
  stored_zero : ∀ id, b.stored 0 id = false
  level_succ : ∀ {cycle switches}, past[cycle]? = some switches →
    ∀ {id device pin}, circuit.device? id = some device → device.hasOutput pin →
      b.level (cycle + 1) ⟨id, pin⟩ =
        device.rule (cycle + 1) (switches id) (b.stored cycle id) (b.level (cycle + 1)) pin
  stored_succ : ∀ {cycle}, cycle < past.length →
    ∀ {id device}, circuit.device? id = some device → device.type = .flipFlop →
      b.stored (cycle + 1) id =
        device.latchRule (b.stored cycle id) (b.level cycle) (b.level (cycle + 1))

namespace Device

theorem rule_congr {device : Device} {cycle : Nat} {switched stored : Bool}
    {level other : Driver → Bool}
    (h : ∀ pin, device.inputLevel level pin = device.inputLevel other pin) :
    device.rule cycle switched stored level = device.rule cycle switched stored other := by
  have hinput : device.inputLevel level = device.inputLevel other := funext h
  ext pin
  cases pin with
  | out => simp only [rule, hinput]
  | _ => rfl

theorem rule_of_not_isCombinational {device : Device} (h : ¬ device.isCombinational) (cycle : Nat)
    (switched stored : Bool) (level other : Driver → Bool) :
    device.rule cycle switched stored level = device.rule cycle switched stored other := by
  simp only [isCombinational, type] at h
  ext pin
  cases pin with
  | out =>
      cases hkind : device.kind with
      | gate _ _ | xor | not =>
          simp [hkind, DeviceKind.type, DeviceType.isCombinational] at h
      | _ => simp only [rule, hkind]
  | _ => rfl

theorem inputLevel_of_bare_eq {device other : Device} (h : device.bare = other.bare) :
    device.inputLevel = other.inputLevel := by
  ext level pin
  rw [inputLevel, inputLevel, driver?_of_bare_eq h]

theorem rule_of_bare_eq {device other : Device} (h : device.bare = other.bare) (cycle : Nat)
    (switched stored : Bool) (level : Driver → Bool) :
    device.rule cycle switched stored level = other.rule cycle switched stored level := by
  have hkind := kind_of_bare_eq h
  have hinputs := inputs_of_bare_eq h
  have hinput := inputLevel_of_bare_eq h
  ext pin
  cases pin with
  | out =>
      simp only [rule, hinput, hinputs]
      cases hold : device.kind <;> cases hnew : other.kind <;>
        simp_all [DeviceKind.bare, DeviceKind.reset, Clock.reset, Generator.reset]
  | _ => rfl

theorem latchRule_of_bare_eq {device other : Device} (h : device.bare = other.bare) :
    device.latchRule = other.latchRule := by
  ext stored before now
  simp only [latchRule, inputLevel_of_bare_eq h]

end Device

namespace Network

variable {circuit network : Network} {past : List (DeviceId → Bool)} {b : Behaviour}

theorem Obeys.of_bare_eq (h : circuit.Obeys past b) (hbare : network.bare = circuit.bare) :
    network.Obeys past b := by
  refine ⟨h.level_zero, h.stored_zero, ?_, ?_⟩
  · intro cycle switches hcycle id device pin hdevice hpin
    obtain ⟨same, hsame, hsameBare⟩ := device?_of_bare_eq hbare hdevice
    have hsamePin : same.hasOutput pin := by
      rw [← Device.hasOutput_bare, hsameBare, Device.hasOutput_bare]
      exact hpin
    rw [h.level_succ hcycle hsame hsamePin, Device.rule_of_bare_eq hsameBare]
  · intro cycle hcycle id device hdevice htype
    obtain ⟨same, hsame, hsameBare⟩ := device?_of_bare_eq hbare hdevice
    have hsameType := (Device.type_of_bare_eq hsameBare).trans htype
    rw [h.stored_succ hcycle hsame hsameType, Device.latchRule_of_bare_eq hsameBare]

theorem Obeys.of_append {more : List (DeviceId → Bool)} (h : circuit.Obeys (past ++ more) b) :
    circuit.Obeys past b := by
  refine ⟨h.level_zero, h.stored_zero, ?_, ?_⟩
  · intro cycle switches hcycle id device pin
    have hlt := (List.getElem?_eq_some_iff.1 hcycle).1
    exact h.level_succ (by rwa [List.getElem?_append_left hlt])
  · intro cycle hcycle id device
    exact h.stored_succ (by rw [List.length_append]; omega)

theorem WellWired.exists_levels (h : circuit.WellWired) (hacyclic : circuit.Acyclic) (cycle : Nat)
    (switched stored : DeviceId → Bool) :
    ∃ level : Driver → Bool, ∀ id device pin, circuit.device? id = some device →
      level ⟨id, pin⟩ = device.rule cycle (switched id) (stored id) level pin := by
  classical
  -- By recursion along the wires; what is not combinational does not look at other outputs.
  let steady (driver : Driver) : Bool := (circuit.device? driver.device).any fun device =>
    device.rule cycle (switched driver.device) (stored driver.device) (fun _ => false) driver.pin
  let next (id : DeviceId)
      (before : (source : DeviceId) → circuit.CombinationalWire source id → OutputPin → Bool)
      (pin : OutputPin) : Bool :=
    (circuit.device? id).any fun device => device.rule cycle (switched id) (stored id)
      (fun driver => if hwire : circuit.CombinationalWire driver.device id then
        before driver.device hwire driver.pin else steady driver) pin
  let level (driver : Driver) : Bool := hacyclic.wellFounded.fix next driver.device driver.pin
  have hlevel {id : DeviceId} {device : Device} (hdevice : circuit.device? id = some device)
      (pin : OutputPin) : level ⟨id, pin⟩ = device.rule cycle (switched id) (stored id)
        (fun driver => if circuit.CombinationalWire driver.device id then level driver
          else steady driver) pin := by
    show hacyclic.wellFounded.fix next id pin = _
    rw [hacyclic.wellFounded.fix_eq]
    simp only [next, hdevice, Option.any_some]
    rfl
  refine ⟨level, fun id device pin hdevice => ?_⟩
  rw [hlevel hdevice]
  by_cases hcombinational : device.isCombinational
  · apply congrFun
    apply Device.rule_congr
    intro input
    unfold Device.inputLevel
    cases hdriver : device.driver? input with
    | none => rfl
    | some driver =>
        simp only [Option.any_some]
        split
        · rfl
        · next hwire =>
          obtain ⟨source, hsource, hpin⟩ := h.drivers hdevice hdriver
          have hsequential : ¬ source.isCombinational := fun hsourceCombinational => hwire
            ⟨isCombinationalAt_iff.2 ⟨source, hsource, hsourceCombinational⟩,
              isCombinationalAt_iff.2 ⟨device, hdevice, hcombinational⟩, ⟨driver, id, input⟩,
              (h.wires driver id input).2 ⟨device, hdevice, hdriver⟩, rfl, rfl⟩
          rw [show driver = ⟨driver.device, driver.pin⟩ from rfl, hlevel hsource]
          simp only [steady, hsource, Option.any_some]
          exact congrFun (Device.rule_of_not_isCombinational hsequential _ _ _ _ _) _
  · exact congrFun (Device.rule_of_not_isCombinational hcombinational _ _ _ _ _) _

/-- A circuit without feedback has a behaviour for all settings of its switches. -/
theorem WellWired.exists_obeys (h : circuit.WellWired) (hacyclic : circuit.Acyclic)
    (past : List (DeviceId → Bool)) : ∃ b, circuit.Obeys past b := by
  induction past using List.reverseRecOn with
  | nil =>
      exact ⟨⟨fun _ _ => false, fun _ _ => false⟩, fun _ => rfl, fun _ => rfl, by simp, by simp⟩
  | append_singleton past switches ih =>
      obtain ⟨b, hb⟩ := ih
      obtain ⟨level, hlevel⟩ :=
        h.exists_levels hacyclic (past.length + 1) switches (b.stored past.length)
      let latched (id : DeviceId) : Bool := (circuit.device? id).any fun device =>
        device.latchRule (b.stored past.length id) (b.level past.length) level
      refine ⟨⟨Function.update b.level (past.length + 1) level,
        Function.update b.stored (past.length + 1) latched⟩, ?_, ?_, ?_, ?_⟩
      · simpa using hb.level_zero
      · simpa using hb.stored_zero
      · intro cycle current hcycle id device pin hdevice hpin
        by_cases hlast : cycle = past.length
        · subst hlast
          simp only [List.getElem?_concat_length, Option.some.injEq] at hcycle
          simp [hlevel id device pin hdevice, hcycle]
        · have hlt : cycle < past.length := by
            have hbound := (List.getElem?_eq_some_iff.1 hcycle).1
            simp only [List.length_append, List.length_singleton] at hbound
            omega
          rw [List.getElem?_append_left hlt] at hcycle
          have hold := hb.level_succ hcycle hdevice hpin
          simpa [hlast, Nat.ne_of_lt (Nat.lt_succ_of_lt hlt)] using hold
      · intro cycle hcycle id device hdevice htype
        by_cases hlast : cycle = past.length
        · subst hlast
          simp [latched, hdevice]
        · have hlt : cycle < past.length := by
            simp only [List.length_append, List.length_singleton] at hcycle
            omega
          have hold := hb.stored_succ hlt hdevice htype
          simpa [hlast, Nat.ne_of_lt (Nat.lt_succ_of_lt hlt)] using hold

end Network

end LogicBench
