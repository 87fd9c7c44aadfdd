import LogicBench.Proofs.Network.Settling
import Mathlib.Order.Bounds.Basic

/-!
# Counting passes

Passes made one after another run through a row of networks that depends on the order of evaluation
alone. Settling stops at the first pass in which no update has anything to change; how many passes
are allowed decides whether it gets that far, and nothing else.
-/

namespace LogicBench.Network

def afterPasses (network : Network) (order : List DeviceId) (passes : Nat) : Network :=
  (fun now => (now.pass order).1)^[passes] network

def IsQuiet (network : Network) (order : List DeviceId) : Prop :=
  ∀ id ∈ order, (network.update id).1 = network

/-- Whether the pass with a number, counted from one, changes nothing. -/
def IsQuietPass (network : Network) (order : List DeviceId) (number : Nat) : Prop :=
  0 < number ∧ (network.afterPasses order (number - 1)).IsQuiet order

variable {network : Network} {order : List DeviceId} {limit passes : Nat}

/-! ## One pass -/

theorem update_same_or_changed (network : Network) (id : DeviceId) :
    network.update id = (network, false) ∨
      ∃ device signal shown, network.device? id = some device ∧
        device.output? .out = some shown ∧ shown ≠ signal ∧
        network.update id = (network.setDevice id (device.setOutput .out signal), true) := by
  unfold update
  cases hdevice : network.device? id with
  | none => exact .inl rfl
  | some device =>
      cases hsignal : device.evaluate (network.reads device) with
      | none => exact .inl (by simp only [hsignal])
      | some signal =>
          cases hshown : device.output? .out with
          | none => exact .inl (by simp [hsignal, hshown])
          | some shown =>
              by_cases hsame : shown = signal
              · exact .inl (by simp [hsignal, hshown, hsame])
              · refine .inr ⟨device, signal, shown, rfl, hshown, hsame, ?_⟩
                simp [hsignal, hshown, hsame]

theorem update_unchanged_iff (network : Network) (id : DeviceId) :
    (network.update id).2 = false ↔ (network.update id).1 = network := by
  rcases network.update_same_or_changed id with
    hsame | ⟨device, signal, shown, hdevice, hshown, hne, hchanged⟩
  · simp [hsame]
  · rw [hchanged]
    refine ⟨(fun hreported => nomatch hreported), fun hsame => absurd ?_ hne⟩
    have hout : device.hasOutput .out := by
      rw [← device.output?_isSome, hshown]
      rfl
    have hwritten := device?_setDevice (device.setOutput .out signal) hdevice id
    rw [show network.setDevice id (device.setOutput .out signal) = network from hsame, hdevice,
      if_pos rfl, Option.some.injEq] at hwritten
    have hshows : some shown = some signal := by
      rw [← hshown, hwritten, Device.output?_setOutput_self hout]
    exact Option.some.inj hshows

theorem pass_unchanged_iff (network : Network) (order : List DeviceId) :
    (network.pass order).2 = false ↔ network.IsQuiet order := by
  induction order with
  | nil => simp [IsQuiet]
  | cons first rest ih =>
      rw [pass_cons, Bool.or_eq_false_iff, IsQuiet, List.forall_mem_cons, update_unchanged_iff]
      refine and_congr_right fun hfirst => ?_
      rw [hfirst]
      exact ih

theorem IsQuiet.pass (h : network.IsQuiet order) : network.pass order = (network, false) := by
  induction order with
  | nil => rfl
  | cons first rest ih =>
      obtain ⟨hfirst, hrest⟩ := List.forall_mem_cons.1 h
      rw [pass_cons, (update_unchanged_iff network first).2 hfirst, hfirst, ih hrest]
      rfl

theorem pass_of_not_isQuiet (h : ¬ network.IsQuiet order) :
    network.pass order = ((network.pass order).1, true) := by
  rw [← pass_unchanged_iff, Bool.not_eq_false] at h
  rw [← h]

/-! ## Pass after pass -/

theorem afterPasses_pass (network : Network) (order : List DeviceId) (passes : Nat) :
    (network.pass order).1.afterPasses order passes = network.afterPasses order (passes + 1) := rfl

theorem afterPasses_succ_of_isQuiet (h : (network.afterPasses order passes).IsQuiet order) :
    network.afterPasses order (passes + 1) = network.afterPasses order passes := by
  rw [afterPasses, Function.iterate_succ_apply']
  exact congrArg Prod.fst h.pass

theorem settleFrom_of_isQuiet {fuel before : Nat} (done : Nat) (hfuel : before < fuel)
    (hquiet : (network.afterPasses order before).IsQuiet order)
    (hbusy : ∀ earlier < before, ¬ (network.afterPasses order earlier).IsQuiet order) :
    settleFrom order fuel done network =
      (network.afterPasses order before, some (done + before + 1)) := by
  induction before generalizing network fuel done with
  | zero =>
      obtain ⟨fuel, rfl⟩ := Nat.exists_eq_add_of_lt hfuel
      have hpass : network.pass order = (network, false) := hquiet.pass
      rw [settleFrom, hpass]
      rfl
  | succ before ih =>
      obtain ⟨fuel, rfl⟩ := Nat.exists_eq_add_of_lt hfuel
      have hfirst : ¬ network.IsQuiet order := hbusy 0 (Nat.succ_pos before)
      rw [settleFrom, pass_of_not_isQuiet hfirst]
      simp only
      rw [ih (done + 1) (by omega) hquiet fun earlier hearlier => hbusy (earlier + 1) (by omega),
        afterPasses_pass]
      congr 2
      omega

theorem settleFrom_of_busy {fuel : Nat} (done : Nat)
    (hbusy : ∀ earlier < fuel, ¬ (network.afterPasses order earlier).IsQuiet order) :
    settleFrom order fuel done network = (network.afterPasses order fuel, none) := by
  induction fuel generalizing network done with
  | zero => rfl
  | succ fuel ih =>
      have hfirst : ¬ network.IsQuiet order := hbusy 0 (Nat.succ_pos fuel)
      rw [settleFrom, pass_of_not_isQuiet hfirst]
      exact ih (done + 1) fun earlier hearlier => hbusy (earlier + 1) (by omega)

/-- Every limit that the first quiet pass is within leads to the same network. -/
theorem settle_of_isLeast (hfirst : IsLeast {number | network.IsQuietPass order number} passes)
    (hlimit : passes ≤ limit) :
    network.settle order limit = (network.afterPasses order passes, some passes) := by
  obtain ⟨⟨hpositive, hquiet⟩, hleast⟩ := hfirst
  obtain ⟨before, rfl⟩ := Nat.exists_eq_add_of_le' hpositive
  have hbusy (earlier : Nat) (hearlier : earlier < before) :
      ¬ (network.afterPasses order earlier).IsQuiet order := by
    intro hquiet
    have hle : before + 1 ≤ earlier + 1 := hleast ⟨Nat.succ_pos earlier, hquiet⟩
    omega
  have hsettle := settleFrom_of_isQuiet 0 (Nat.lt_of_succ_le hlimit) hquiet hbusy
  rw [settle, hsettle, Nat.zero_add]
  exact congrArg (·, some (before + 1)) (afterPasses_succ_of_isQuiet hquiet).symm

theorem settle_eq_some_iff : (network.settle order limit).2 = some passes ↔
    passes ≤ limit ∧ IsLeast {number | network.IsQuietPass order number} passes := by
  constructor
  · intro hsettle
    by_cases hfound : ∃ before < limit, (network.afterPasses order before).IsQuiet order
    · classical
      obtain ⟨before, ⟨hlt, hquiet⟩, hleast⟩ :
          ∃ before, (before < limit ∧ (network.afterPasses order before).IsQuiet order) ∧
            ∀ earlier < before,
              ¬ (earlier < limit ∧ (network.afterPasses order earlier).IsQuiet order) :=
        ⟨Nat.find hfound, Nat.find_spec hfound, fun _ => Nat.find_min hfound⟩
      have hbusy (earlier : Nat) (hearlier : earlier < before) :
          ¬ (network.afterPasses order earlier).IsQuiet order :=
        fun hquiet => hleast earlier hearlier ⟨hearlier.trans hlt, hquiet⟩
      rw [settle, settleFrom_of_isQuiet 0 hlt hquiet hbusy, Nat.zero_add,
        Option.some.injEq] at hsettle
      subst hsettle
      refine ⟨hlt, ⟨Nat.succ_pos before, hquiet⟩, ?_⟩
      rintro number ⟨hpositive, hquietPass⟩
      by_contra hearlier
      exact hbusy (number - 1) (by omega) hquietPass
    · have hbusy : ∀ earlier < limit, ¬ (network.afterPasses order earlier).IsQuiet order :=
        fun earlier hearlier hquiet => hfound ⟨earlier, hearlier, hquiet⟩
      rw [settle, settleFrom_of_busy 0 hbusy] at hsettle
      cases hsettle
  · rintro ⟨hlimit, hfirst⟩
    rw [settle_of_isLeast hfirst hlimit]

theorem settle_of_le {settled : Network} {higher : Nat}
    (hsettle : network.settle order limit = (settled, some passes)) (hhigher : limit ≤ higher) :
    network.settle order higher = (settled, some passes) := by
  obtain ⟨hlimit, hfirst⟩ := settle_eq_some_iff.1 (congrArg Prod.snd hsettle)
  calc network.settle order higher
    _ = (network.afterPasses order passes, some passes) :=
        settle_of_isLeast hfirst (hlimit.trans hhigher)
    _ = network.settle order limit := (settle_of_isLeast hfirst hlimit).symm
    _ = (settled, some passes) := hsettle

end LogicBench.Network
