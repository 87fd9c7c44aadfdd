import LogicBench.Proofs.Network.Consistency
import LogicBench.Proofs.Network.Fixpoint
import LogicBench.Proofs.Network.Passes
import Mathlib.Data.Fintype.BigOperators

/-!
# Oscillation

Passes change nothing but the levels that the listed combinational devices show, and `k` devices
show one of `2 ^ k` patterns of levels. A pattern that comes back before the first quiet pass would
come back for ever. Hence a circuit that settles at all settles within `2 ^ k` passes.
-/

namespace LogicBench

namespace PinMap

variable {κ α : Type} [DecidableEq κ] {map : PinMap κ α} {pin : κ}

theorem set_set (map : PinMap κ α) (pin : κ) (old new : α) :
    (map.set pin old).set pin new = map.set pin new := by
  induction map with
  | nil => rfl
  | cons entry rest ih =>
      obtain ⟨key, value⟩ := entry
      by_cases hkey : key = pin
      · simp [set, hkey]
      · simp [set, hkey, ih]

/-- Writing what a pin has already, or at a pin that is absent, changes nothing. -/
theorem set_eq_self {value : α} (h : ∀ old, map.get? pin = some old → value = old) :
    map.set pin value = map := by
  induction map with
  | nil => rfl
  | cons entry rest ih =>
      obtain ⟨key, old⟩ := entry
      by_cases hkey : key = pin
      · rw [set, if_pos hkey, h old (by rw [get?, if_pos hkey])]
      · rw [set, if_neg hkey, ih fun last hlast => h last (by rwa [get?, if_neg hkey])]

end PinMap

namespace Device

@[simp] theorem setOutput_setOutput (device : Device) (pin : OutputPin) (old new : Signal) :
    (device.setOutput pin old).setOutput pin new = device.setOutput pin new := by
  simp only [setOutput, PinMap.set_set]

theorem setOutput_eq_self {device : Device} {pin : OutputPin} {signal : Signal}
    (h : ∀ shown, device.output? pin = some shown → signal = shown) :
    device.setOutput pin signal = device := by
  rw [setOutput, PinMap.set_eq_self h]

theorem exists_level_of_evaluate {device : Device} {read : InputPin → Signal} {signal : Signal}
    (h : device.evaluate read = some signal) : ∃ isHigh, signal = .ofLevel isHigh := by
  unfold evaluate at h
  split at h
  · exact ⟨_, (Option.some.inj h).symm⟩
  · exact ⟨_, (Option.some.inj h).symm⟩
  · exact ⟨_, (Option.some.inj h).symm⟩
  · cases h

end Device

namespace Network

variable {network now : Network} {order : List DeviceId} {limit passes : Nat}

/-! ## Patterns of levels -/

def combinationalIn (network : Network) (order : List DeviceId) : Finset DeviceId :=
  order.toFinset.filter fun id => network.isCombinationalAt id

/-- The network with steady levels at the outputs of some devices, and all else as it is. -/
def showing (network : Network) (shown : Finset DeviceId) (levels : DeviceId → Bool) : Network :=
  { network with
    devices := network.devices.mapIdx fun id device =>
      if id ∈ shown then device.setOutput .out (.ofLevel (levels id)) else device }

variable {shown : Finset DeviceId} {levels : DeviceId → Bool} {id : DeviceId}

theorem device?_showing (network : Network) (shown : Finset DeviceId) (levels : DeviceId → Bool)
    (id : DeviceId) :
    (network.showing shown levels).device? id = (network.device? id).map fun device =>
      if id ∈ shown then device.setOutput .out (.ofLevel (levels id)) else device :=
  List.getElem?_mapIdx

theorem isCombinationalAt_showing (network : Network) (shown : Finset DeviceId)
    (levels : DeviceId → Bool) (id : DeviceId) :
    (network.showing shown levels).isCombinationalAt id = network.isCombinationalAt id := by
  rw [isCombinationalAt, device?_showing, Option.any_map, isCombinationalAt]
  congr 1
  ext1 device
  split <;> rfl

theorem showing_congr {other : DeviceId → Bool} (h : ∀ id ∈ shown, levels id = other id) :
    network.showing shown levels = network.showing shown other := by
  refine eq_of_device? ?_ rfl rfl
  ext1 id
  rw [device?_showing, device?_showing]
  congr 1
  ext1 device
  split
  · next hid => rw [h id hid]
  · rfl

theorem exists_showing_eq_self
    (h : ∀ id ∈ shown, ∀ signal, network.signal? ⟨id, .out⟩ = some signal → signal.isEdge = false) :
    ∃ levels, network.showing shown levels = network := by
  refine ⟨fun id => ((network.signal? ⟨id, .out⟩).getD .low).isHigh, ?_⟩
  refine eq_of_device? ?_ rfl rfl
  ext1 id
  rw [device?_showing]
  cases hdevice : network.device? id with
  | none => rfl
  | some device =>
      rw [Option.map_some]
      split
      · next hid =>
        rw [Device.setOutput_eq_self]
        intro signal hsignal
        have hshown : network.signal? ⟨id, .out⟩ = some signal := by
          rw [signal?, hdevice]
          exact hsignal
        have hsteady := h id hid signal hshown
        rw [hshown, Option.getD_some]
        cases signal with
        | low => rfl
        | high => rfl
        | rising => cases hsteady
        | falling => cases hsteady
      · rfl

theorem setDevice_showing {device : Device} {isHigh : Bool} (hid : id ∈ shown)
    (hdevice : (network.showing shown levels).device? id = some device) :
    (network.showing shown levels).setDevice id (device.setOutput .out (.ofLevel isHigh)) =
      network.showing shown (Function.update levels id isHigh) := by
  refine eq_of_device? ?_ rfl rfl
  ext1 other
  rw [device?_setDevice _ hdevice]
  by_cases hother : other = id
  · subst hother
    simp only [device?_showing, if_pos hid, Option.map_eq_some_iff] at hdevice
    obtain ⟨old, hold, rfl⟩ := hdevice
    rw [if_pos rfl, device?_showing, hold, Option.map_some, if_pos hid, Function.update_self,
      Device.setOutput_setOutput]
  · rw [if_neg hother, device?_showing, device?_showing, Function.update_of_ne hother]

/-! ## Passes lead from pattern to pattern -/

theorem update_eq_self_or_setDevice (network : Network) (id : DeviceId) :
    (network.update id).1 = network ∨ ∃ device isHigh, network.device? id = some device ∧
      device.isCombinational ∧
      (network.update id).1 = network.setDevice id (device.setOutput .out (.ofLevel isHigh)) := by
  unfold update
  split
  · exact .inl rfl
  · next device hdevice =>
    split
    · exact .inl rfl
    · next signal hsignal =>
      obtain ⟨isHigh, rfl⟩ := Device.exists_level_of_evaluate hsignal
      split
      · exact .inr ⟨device, isHigh, hdevice, Device.isCombinational_of_evaluate hsignal, rfl⟩
      · exact .inl rfl

theorem exists_showing_update (hid : id ∈ order)
    (h : ∃ levels, now = network.showing (network.combinationalIn order) levels) :
    ∃ levels, (now.update id).1 = network.showing (network.combinationalIn order) levels := by
  obtain ⟨levels, rfl⟩ := h
  rcases update_eq_self_or_setDevice (network.showing (network.combinationalIn order) levels) id
    with hsame | ⟨device, isHigh, hdevice, hcombinational, hchanged⟩
  · exact ⟨levels, hsame⟩
  · have hlisted : id ∈ network.combinationalIn order := by
      have hat := isCombinationalAt_iff.2 ⟨device, hdevice, hcombinational⟩
      rw [isCombinationalAt_showing] at hat
      exact Finset.mem_filter.2 ⟨List.mem_toFinset.2 hid, hat⟩
    rw [hchanged, setDevice_showing hlisted hdevice]
    exact ⟨_, rfl⟩

theorem exists_showing_settle
    (h : ∃ levels, network = network.showing (network.combinationalIn order) levels)
    (limit : Nat) :
    ∃ levels, (network.settle order limit).1 =
      network.showing (network.combinationalIn order) levels :=
  settle_induction (motive := fun now =>
    ∃ levels, now = network.showing (network.combinationalIn order) levels)
    (fun _ hid hnow => exists_showing_update hid hnow) h limit

theorem afterPasses_succ (network : Network) (order : List DeviceId) (passes : Nat) :
    network.afterPasses order (passes + 1) = ((network.afterPasses order passes).pass order).1 :=
  Function.iterate_succ_apply' _ _ _

theorem afterPasses_add (network : Network) (order : List DeviceId) (passes more : Nat) :
    network.afterPasses order (passes + more) =
      (network.afterPasses order passes).afterPasses order more := by
  rw [Nat.add_comm]
  exact Function.iterate_add_apply _ _ _ _

theorem exists_showing_afterPasses
    (h : ∃ levels, network = network.showing (network.combinationalIn order) levels)
    (passes : Nat) :
    ∃ levels, network.afterPasses order passes =
      network.showing (network.combinationalIn order) levels := by
  induction passes with
  | zero => exact h
  | succ passes ih =>
      rw [afterPasses_succ]
      exact pass_induction (motive := fun now =>
        ∃ levels, now = network.showing (network.combinationalIn order) levels)
        (fun _ hid hnow => exists_showing_update hid hnow) ih

/-! ## No pattern comes back before the first quiet pass -/

theorem injOn_afterPasses
    (hfirst : IsLeast {number | network.IsQuietPass order number} passes) :
    Set.InjOn (network.afterPasses order) {earlier | earlier < passes} := by
  obtain ⟨⟨hpositive, hquiet⟩, hleast⟩ := hfirst
  have hne {earlier later : Nat} (hlt : earlier < later) (hlater : later < passes) :
      network.afterPasses order earlier ≠ network.afterPasses order later := by
    intro hsame
    -- What follows the later of the two follows the earlier one too, and sooner.
    have hshift : network.afterPasses order (passes - 1) =
        network.afterPasses order (earlier + (passes - 1 - later)) := by
      rw [afterPasses_add, hsame, ← afterPasses_add]
      congr 1
      omega
    rw [hshift] at hquiet
    have hle : passes ≤ earlier + (passes - 1 - later) + 1 :=
      hleast ⟨Nat.succ_pos _, hquiet⟩
    omega
  intro earlier hearlier later hlater hsame
  rcases Nat.lt_trichotomy earlier later with hlt | heq | hlt
  · exact absurd hsame (hne hlt hlater)
  · exact heq
  · exact absurd hsame.symm (hne hlt hearlier)

/-- The first quiet pass, if there is one, is among the first `2 ^ k` for `k` devices listed. -/
theorem le_two_pow_of_isLeast
    (h : ∃ levels, network = network.showing (network.combinationalIn order) levels)
    (hfirst : IsLeast {number | network.IsQuietPass order number} passes) :
    passes ≤ 2 ^ (network.combinationalIn order).card := by
  choose levels hlevels using exists_showing_afterPasses h
  let pattern (earlier : Fin passes) (id : network.combinationalIn order) : Bool :=
    levels earlier id
  have hinjective : Function.Injective pattern := by
    intro earlier later hsame
    apply Fin.ext
    apply injOn_afterPasses hfirst earlier.isLt later.isLt
    rw [hlevels, hlevels]
    apply showing_congr
    intro id hid
    exact congrFun hsame ⟨id, hid⟩
  calc passes
    _ = Fintype.card (Fin passes) := (Fintype.card_fin passes).symm
    _ ≤ Fintype.card (network.combinationalIn order → Bool) :=
        Fintype.card_le_of_injective pattern hinjective
    _ = 2 ^ (network.combinationalIn order).card := by
        rw [Fintype.card_fun, Fintype.card_bool, Fintype.card_coe]

/-- Settling from steady levels: with `k` combinational devices in the order, `2 ^ k` passes settle
the network if any number does, and to the same end. Whether it succeeds or not, settling changes
nothing but the levels that these devices show. -/
theorem settle_within_two_pow (network : Network) (order : List DeviceId)
    (hsteady : ∀ id ∈ network.combinationalIn order, ∀ signal,
      network.signal? ⟨id, .out⟩ = some signal → signal.isEdge = false) :
    (∀ limit passes settled, network.settle order limit = (settled, some passes) →
        passes ≤ 2 ^ (network.combinationalIn order).card ∧
          network.settle order (2 ^ (network.combinationalIn order).card) =
            (settled, some passes)) ∧
      ((network.settle order (2 ^ (network.combinationalIn order).card)).2 = none →
        ∀ limit, (network.settle order limit).2 = none) ∧
      ∀ limit, ∃ levels, (network.settle order limit).1 =
        network.showing (network.combinationalIn order) levels := by
  have hshowing : ∃ levels, network = network.showing (network.combinationalIn order) levels := by
    obtain ⟨levels, hlevels⟩ := exists_showing_eq_self hsteady
    exact ⟨levels, hlevels.symm⟩
  have hwithin (limit passes : Nat) (settled : Network)
      (hsettle : network.settle order limit = (settled, some passes)) :
      passes ≤ 2 ^ (network.combinationalIn order).card ∧
        network.settle order (2 ^ (network.combinationalIn order).card) =
          (settled, some passes) := by
    obtain ⟨hlimit, hfirst⟩ := settle_eq_some_iff.1 (congrArg Prod.snd hsettle)
    have hle := le_two_pow_of_isLeast hshowing hfirst
    refine ⟨hle, ?_⟩
    rw [settle_of_isLeast hfirst hle, ← settle_of_isLeast hfirst hlimit, hsettle]
  refine ⟨hwithin, fun hnone limit => ?_, exists_showing_settle hshowing⟩
  rw [Option.eq_none_iff_forall_ne_some]
  intro passes hsettle
  obtain ⟨-, hwould⟩ := hwithin limit passes (network.settle order limit).1 (Prod.ext rfl hsettle)
  rw [hwould] at hnone
  cases hnone

/-- An inverter that feeds itself is not settled after two passes, hence not after any number. -/
theorem settle_within_two_pow_inverter :
    let network := applyAll {} [.addDevice "n" .not, .connect ⟨0, .out⟩ 0 (.numbered 1)]
    (∀ id ∈ network.combinationalIn [0, 0], ∀ signal,
        network.signal? ⟨id, .out⟩ = some signal → signal.isEdge = false) ∧
      (network.settle [0, 0] (2 ^ (network.combinationalIn [0, 0]).card)).2 = none ∧
      ∀ limit, (network.settle [0, 0] limit).2 = none := by
  intro network
  have hsteady : ∀ id ∈ network.combinationalIn [0, 0], ∀ signal,
      network.signal? ⟨id, .out⟩ = some signal → signal.isEdge = false := by
    decide
  have hnone : (network.settle [0, 0] (2 ^ (network.combinationalIn [0, 0]).card)).2 = none := by
    decide
  obtain ⟨-, hnever, -⟩ := settle_within_two_pow network [0, 0] hsteady
  exact ⟨hsteady, hnone, hnever hnone⟩

end Network

end LogicBench
