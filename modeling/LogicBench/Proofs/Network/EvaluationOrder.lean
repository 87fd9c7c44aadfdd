import LogicBench.Proofs.Network.Wiring
import Mathlib.Data.Fintype.EquivFin
import Mathlib.Logic.Relation

/-!
# The evaluation order

The worklist keeps an invariant: the counts are those of the drivers still to be placed, and the
devices that are placed or ready are those whose drivers are all placed. Without feedback nothing
is left over in the end, and no device of the order drives one before it.
-/

namespace LogicBench

namespace Worklist

theorem pending_release (work : Worklist) (id other : DeviceId) :
    (work.release id).pending[other]? =
      (work.pending[other]?).map (· - [id].count other) := by
  by_cases hother : other = id
  · subst hother
    unfold release
    cases hcount : work.pending[other]? with
    | none => simp [hcount]
    | some count =>
        have hlt := (List.getElem?_eq_some_iff.1 hcount).1
        rcases count with _ | _ | count
        · simp [hcount]
        · simp [hlt]
        · simp [hlt]
  · have hcount : [id].count other = 0 := List.count_eq_zero.2 (by simpa using hother)
    have hsame : (work.release id).pending[other]? = work.pending[other]? := by
      unfold release
      split
      · exact List.getElem?_set_ne (Ne.symm hother)
      · exact List.getElem?_set_ne (Ne.symm hother)
      · rfl
    rw [hsame, hcount]
    simp

theorem pending_releases (work : Worklist) (released : List DeviceId) (other : DeviceId) :
    (released.foldl release work).pending[other]? =
      (work.pending[other]?).map (· - released.count other) := by
  induction released generalizing work with
  | nil => simp
  | cons id rest ih =>
      rw [List.foldl_cons, ih, pending_release, Option.map_map]
      congr 1
      ext count
      have hsplit : (id :: rest).count other = [id].count other + rest.count other := by
        rw [← List.count_append]
        rfl
      simp only [Function.comp_apply, hsplit]
      omega

@[simp] theorem placed_release (work : Worklist) (id : DeviceId) :
    (work.release id).placed = work.placed := by
  unfold release
  split <;> rfl

@[simp] theorem placed_releases (work : Worklist) (released : List DeviceId) :
    (released.foldl release work).placed = work.placed := by
  induction released generalizing work with
  | nil => rfl
  | cons id rest ih => rw [List.foldl_cons, ih, placed_release]

theorem ready_release (work : Worklist) (id : DeviceId) :
    (work.release id).ready =
      if work.pending[id]? = some 1 then work.ready ++ [id] else work.ready := by
  unfold release
  split <;> simp_all

theorem mem_ready_releases (work : Worklist) (released : List DeviceId) (other : DeviceId) :
    other ∈ (released.foldl release work).ready ↔
      other ∈ work.ready ∨
        ∃ count, work.pending[other]? = some count ∧ 0 < count ∧ count ≤ released.count other := by
  induction released generalizing work with
  | nil => simp
  | cons id rest ih =>
      rw [List.foldl_cons, ih, ready_release, pending_release]
      have hsplit : (id :: rest).count other = [id].count other + rest.count other := by
        rw [← List.count_append]
        rfl
      rw [hsplit]
      cases hcount : work.pending[other]? with
      | none =>
          by_cases hid : work.pending[id]? = some 1
          · have hne : other ≠ id := by
              rintro rfl
              rw [hcount] at hid
              cases hid
            simp [hid, hne]
          · simp [hid]
      | some count =>
          by_cases hother : other = id
          · subst hother
            simp only [hcount, Option.some.injEq, Option.map_some, exists_eq_left',
              List.count_singleton_self]
            by_cases hone : count = 1
            · simp [hone]
            · rw [if_neg hone]
              apply or_congr_right
              omega
          · have hzero : [id].count other = 0 := List.count_eq_zero.2 (by simpa using hother)
            have hmem : other ∈ (if work.pending[id]? = some 1 then work.ready ++ [id]
                else work.ready) ↔ other ∈ work.ready := by
              split <;> simp [hother]
            rw [hmem, hzero]
            simp

theorem nodup_ready_releases (work : Worklist) (released : List DeviceId)
    (hnodup : (work.placed ++ work.ready).Nodup)
    (hdue : ∀ id ∈ work.placed ++ work.ready, (work.pending[id]?).getD 0 = 0) :
    (work.placed ++ (released.foldl release work).ready).Nodup := by
  induction released generalizing work with
  | nil => exact hnodup
  | cons id rest ih =>
      rw [List.foldl_cons, ← placed_release work id]
      have hready := ready_release work id
      apply ih
      · rw [hready, placed_release]
        split
        · next hone =>
          have hnew : id ∉ work.placed ++ work.ready := fun hmem => by
            have := hdue id hmem
            simp [hone] at this
          rw [← List.append_assoc]
          exact List.nodup_append.2 ⟨hnodup, by simp, fun a ha b hb => by
            rw [List.mem_singleton.1 hb]
            rintro rfl
            exact hnew ha⟩
        · exact hnodup
      · intro other hother
        rw [pending_release]
        rw [hready, placed_release] at hother
        split at hother
        · next hone =>
          rw [← List.append_assoc, List.mem_append, List.mem_singleton] at hother
          rcases hother with hold | rfl
          · have := hdue other hold
            cases hcount : work.pending[other]? <;> simp_all
          · simp [hone]
        · have := hdue other hother
          cases hcount : work.pending[other]? <;> simp_all

end Worklist

namespace Network

theorem isCombinationalAt_iff {network : Network} {id : DeviceId} :
    network.isCombinationalAt id ↔
      ∃ device, network.device? id = some device ∧ device.isCombinational := by
  simp [isCombinationalAt, Option.any_eq_true]

theorem mem_combinational_iff {network : Network} {id : DeviceId} :
    id ∈ network.combinational ↔ network.isCombinationalAt id := by
  simp only [combinational, idsWhere, ids, List.mem_filter, List.mem_range]
  constructor
  · exact fun h => h.2
  · intro h
    obtain ⟨device, hdevice, -⟩ := isCombinationalAt_iff.1 h
    exact ⟨(List.getElem?_eq_some_iff.1 hdevice).1, h⟩

theorem nodup_combinational (network : Network) : network.combinational.Nodup :=
  List.nodup_range.filter _

theorem isCombinationalAt_of_mem_feedersAt {network : Network} {feeder id : DeviceId}
    (h : feeder ∈ network.feedersAt id) :
    network.isCombinationalAt feeder ∧ network.isCombinationalAt id := by
  unfold feedersAt at h
  split at h
  · next device hdevice =>
    split at h
    · next hcombinational =>
      exact ⟨(List.mem_filter.1 h).2, isCombinationalAt_iff.2 ⟨device, hdevice, hcombinational⟩⟩
    · cases h
  · cases h

private theorem count_flatMap_of_nodup {ids : List DeviceId} (h : ids.Nodup)
    (f : DeviceId → List DeviceId) (weight : Nat) (other : DeviceId)
    (hf : ∀ id, (f id).count other = if id = other then weight else 0) :
    (ids.flatMap f).count other = if other ∈ ids then weight else 0 := by
  induction ids with
  | nil => rfl
  | cons id rest ih =>
      have hid : id ∉ rest := (List.nodup_cons.1 h).1
      rw [List.flatMap_cons, List.count_append, hf, ih (List.nodup_cons.1 h).2]
      by_cases hother : id = other
      · subst hother
        simp [hid]
      · simp [hother, Ne.symm hother]

theorem count_dependents (network : Network) (id other : DeviceId) :
    (network.dependents id).count other = (network.feedersAt other).count id := by
  have hmap (fed : DeviceId) : (((network.feedersAt fed).filter (· = id)).map fun _ => fed).count
      other = if fed = other then (network.feedersAt other).count id else 0 := by
    rw [List.map_const', List.count_replicate, ← List.countP_eq_length_filter]
    by_cases h : fed = other
    · subst h
      simp only [beq_self_eq_true, if_true, List.count]
      rfl
    · simp [h]
  rw [dependents, count_flatMap_of_nodup network.nodup_combinational _ _ other hmap]
  split
  · rfl
  · next hnot =>
    refine (List.count_eq_zero.2 fun hmem => hnot ?_).symm
    exact mem_combinational_iff.2 (isCombinationalAt_of_mem_feedersAt hmem).2

/-- What the worklist keeps: the counts are those of the feeders still to be placed, and a device is
placed or ready once its feeders are placed. -/
structure Sound (network : Network) (work : Worklist) : Prop where
  pending : ∀ id < network.devices.length,
    work.pending[id]? = some ((network.feedersAt id).countP (· ∉ work.placed))
  nodup : (work.placed ++ work.ready).Nodup
  due : ∀ id, id ∈ work.placed ++ work.ready ↔
    network.isCombinationalAt id ∧ ∀ feeder ∈ network.feedersAt id, feeder ∈ work.placed
  ordered : work.placed.Pairwise fun earlier later => later ∉ network.feedersAt earlier

theorem lt_length_of_isCombinationalAt {network : Network} {id : DeviceId}
    (h : network.isCombinationalAt id) : id < network.devices.length := by
  obtain ⟨device, hdevice, -⟩ := isCombinationalAt_iff.1 h
  exact (List.getElem?_eq_some_iff.1 hdevice).1

theorem sound_startWork (network : Network) : network.Sound network.startWork := by
  have hmem (id : DeviceId) : id ∈ network.startWork.placed ++ network.startWork.ready ↔
      network.isCombinationalAt id ∧ network.feedersAt id = [] := by
    simp [startWork, mem_combinational_iff]
  constructor
  · intro id hid
    have hall : (network.feedersAt id).countP (· ∉ network.startWork.placed) =
        (network.feedersAt id).length := List.countP_eq_length.2 (by simp [startWork])
    rw [hall]
    simp only [startWork, ids, List.getElem?_map, List.getElem?_range hid, Option.map_some]
  · simpa [startWork] using network.nodup_combinational.filter _
  · intro id
    rw [hmem]
    apply and_congr_right
    intro _
    simp [startWork, List.eq_nil_iff_forall_not_mem]
  · exact List.Pairwise.nil

private theorem countP_not_mem_append {placed : List DeviceId} {id : DeviceId} (h : id ∉ placed)
    (feeders : List DeviceId) :
    feeders.countP (· ∉ placed) = feeders.countP (· ∉ placed ++ [id]) + feeders.count id := by
  induction feeders with
  | nil => rfl
  | cons feeder rest ih =>
      rw [List.countP_cons, List.countP_cons, List.count_cons, ih]
      by_cases hfeeder : feeder = id
      · subst hfeeder
        simp [h]
        omega
      · by_cases hplaced : feeder ∈ placed
        · simp [hfeeder, hplaced]
        · simp [hfeeder, hplaced]
          omega

private theorem countP_not_mem_eq_zero_iff {placed feeders : List DeviceId} :
    feeders.countP (· ∉ placed) = 0 ↔ ∀ feeder ∈ feeders, feeder ∈ placed := by
  simp [List.countP_eq_zero]

theorem Sound.not_mem_placed {network : Network} {work : Worklist} {id : DeviceId}
    (h : network.Sound work) (hready : id ∈ work.ready) : id ∉ work.placed :=
  fun hplaced => (List.nodup_append.1 h.nodup).2.2 id hplaced id hready rfl

/-- Placing a ready device and releasing its dependents keeps the invariant. -/
theorem Sound.place {network : Network} {work : Worklist} {id : DeviceId} {rest : List DeviceId}
    (h : network.Sound work) (hready : work.ready = id :: rest) :
    network.Sound ((network.dependents id).foldl Worklist.release
      { work with ready := rest, placed := work.placed ++ [id] }) := by
  have hnodup := h.nodup
  rw [hready] at hnodup
  have hid := h.not_mem_placed (hready ▸ List.mem_cons_self)
  have hidDue := (h.due id).1 (by simp [hready])
  have hpending (other : DeviceId) (hlt : other < network.devices.length) :
      work.pending[other]? = some ((network.feedersAt other).countP (· ∉ work.placed ++ [id]) +
        (network.feedersAt other).count id) := by
    rw [h.pending other hlt, countP_not_mem_append hid]
  constructor
  · intro other hother
    rw [Worklist.pending_releases, Worklist.placed_releases, hpending other hother,
      count_dependents]
    simp
  · rw [Worklist.placed_releases]
    apply Worklist.nodup_ready_releases { work with ready := rest, placed := work.placed ++ [id] }
    · simpa using hnodup
    · intro other hother
      have hmem : other ∈ work.placed ++ work.ready := by simpa [hready] using hother
      obtain ⟨hcombinational, hplaced⟩ := (h.due other).1 hmem
      rw [h.pending other (lt_length_of_isCombinationalAt hcombinational)]
      simpa using hplaced
  · intro other
    rw [Worklist.placed_releases, List.mem_append, Worklist.mem_ready_releases, count_dependents]
    have hdue : other ∈ work.placed ++ [id] ∨ other ∈ rest ↔ other ∈ work.placed ++ work.ready := by
      simp [hready, or_assoc]
    rw [← or_assoc, hdue, h.due]
    constructor
    · rintro (⟨hcombinational, hplaced⟩ | ⟨count, hcount, hpos, hle⟩)
      · exact ⟨hcombinational, fun feeder hfeeder =>
          List.mem_append_left _ (hplaced feeder hfeeder)⟩
      · have hfed : id ∈ network.feedersAt other := List.count_pos_iff.1 (by omega)
        have hcombinational := (isCombinationalAt_of_mem_feedersAt hfed).2
        rw [hpending other (lt_length_of_isCombinationalAt hcombinational),
          Option.some.injEq] at hcount
        have hnone : (network.feedersAt other).countP (· ∉ work.placed ++ [id]) = 0 := by omega
        exact ⟨hcombinational, countP_not_mem_eq_zero_iff.1 hnone⟩
    · rintro ⟨hcombinational, hplaced⟩
      have hlt := lt_length_of_isCombinationalAt hcombinational
      have hnone : (network.feedersAt other).countP (· ∉ work.placed ++ [id]) = 0 :=
        countP_not_mem_eq_zero_iff.2 hplaced
      by_cases hbefore : ∀ feeder ∈ network.feedersAt other, feeder ∈ work.placed
      · exact .inl ⟨hcombinational, hbefore⟩
      · refine .inr ⟨_, hpending other hlt, ?_, by omega⟩
        rw [← countP_not_mem_append hid, List.countP_pos_iff]
        simpa using hbefore
  · rw [Worklist.placed_releases]
    refine List.pairwise_append.2 ⟨h.ordered, List.pairwise_singleton _ _, ?_⟩
    intro earlier hearlier later hlater hfeeds
    rw [List.mem_singleton.1 hlater] at hfeeds
    exact hid (((h.due earlier).1 (List.mem_append_left _ hearlier)).2 id hfeeds)

theorem Sound.drain {network : Network} {work : Worklist} (h : network.Sound work) :
    network.Sound (work.drain network.dependents) ∧
      (work.drain network.dependents).ready = [] := by
  fun_induction Worklist.drain network.dependents work with
  | case1 work hready => exact ⟨h, hready⟩
  | case2 work id rest hready ih => exact ih (h.place hready)

def CombinationalWire (network : Network) (source target : DeviceId) : Prop :=
  network.isCombinationalAt source ∧ network.isCombinationalAt target ∧
    ∃ wire ∈ network.wires, wire.source.device = source ∧ wire.device = target

/-- Whether no way along wires between combinational devices leads back to where it began. -/
def Acyclic (network : Network) : Prop :=
  ∀ id, ¬ Relation.TransGen network.CombinationalWire id id

theorem Acyclic.of_rank {network : Network} (rank : DeviceId → Nat)
    (h : ∀ wire ∈ network.wires, network.isCombinationalAt wire.source.device →
      network.isCombinationalAt wire.device → rank wire.source.device < rank wire.device) :
    network.Acyclic := by
  have hrank {source target : DeviceId}
      (hway : Relation.TransGen network.CombinationalWire source target) :
      rank source < rank target := by
    induction hway with
    | single hwire =>
        obtain ⟨hsource, htarget, wire, hmem, rfl, rfl⟩ := hwire
        exact h wire hmem hsource htarget
    | tail _ hwire ih =>
        obtain ⟨hsource, htarget, wire, hmem, rfl, rfl⟩ := hwire
        exact Nat.lt_trans ih (h wire hmem hsource htarget)
  intro id hway
  exact Nat.lt_irrefl _ (hrank hway)

theorem mem_feedersAt_iff {network : Network} {feeder id : DeviceId} :
    feeder ∈ network.feedersAt id ↔
      network.isCombinationalAt feeder ∧ network.isCombinationalAt id ∧
        ∃ device, network.device? id = some device ∧
          ∃ pin driver, device.driver? pin = some driver ∧ driver.device = feeder := by
  constructor
  · intro h
    obtain ⟨hfeeder, hid⟩ := isCombinationalAt_of_mem_feedersAt h
    obtain ⟨device, hdevice, hcombinational⟩ := isCombinationalAt_iff.1 hid
    simp only [feedersAt, hdevice, hcombinational, if_true, feeders, List.mem_filter,
      List.mem_map, List.mem_filterMap] at h
    obtain ⟨⟨driver, ⟨pin, -, hdriver⟩, hdriving⟩, -⟩ := h
    exact ⟨hfeeder, hid, device, hdevice, pin, driver, hdriver, hdriving⟩
  · rintro ⟨hfeeder, hid, device, hdevice, pin, driver, hdriver, hdriving⟩
    obtain ⟨same, hsame, hcombinational⟩ := isCombinationalAt_iff.1 hid
    cases hdevice.symm.trans hsame
    simp only [feedersAt, hdevice, hcombinational, if_true, feeders, List.mem_filter,
      List.mem_map, List.mem_filterMap]
    exact ⟨⟨driver, ⟨pin, Device.mem_inputs_of_driver? hdriver, hdriver⟩, hdriving⟩, hfeeder⟩

theorem Wired.mem_feedersAt_iff_wire {network : Network} (h : network.Wired)
    {feeder id : DeviceId} :
    feeder ∈ network.feedersAt id ↔ network.CombinationalWire feeder id := by
  rw [mem_feedersAt_iff, CombinationalWire]
  apply and_congr_right
  intro _
  apply and_congr_right
  intro _
  constructor
  · rintro ⟨device, hdevice, pin, driver, hdriver, hdriving⟩
    exact ⟨⟨driver, id, pin⟩, (h.wires driver id pin).2 ⟨device, hdevice, hdriver⟩, hdriving, rfl⟩
  · rintro ⟨⟨driver, target, pin⟩, hwire, hdriving, rfl⟩
    obtain ⟨device, hdevice, hdriver⟩ := (h.wires driver target pin).1 hwire
    exact ⟨device, hdevice, pin, driver, hdriver, hdriving⟩

theorem WellWired.mem_feedersAt_iff_wire {network : Network} (h : network.WellWired)
    {feeder id : DeviceId} :
    feeder ∈ network.feedersAt id ↔ network.CombinationalWire feeder id :=
  h.toWired.mem_feedersAt_iff_wire

/-- Whether a device lies on a loop of wires between combinational devices, or behind one. -/
def BehindLoop (network : Network) (id : DeviceId) : Prop :=
  ∃ looped, Relation.TransGen network.CombinationalWire looped looped ∧
    Relation.ReflTransGen network.CombinationalWire looped id

/-- Going back along wires from a device ends, unless it leads into a loop: there are only so many
devices. -/
theorem acc_of_not_behindLoop {network : Network} {id : DeviceId} (h : ¬ network.BehindLoop id) :
    Acc network.CombinationalWire id := by
  let reaches (a b : Fin network.devices.length) : Prop :=
    Relation.TransGen network.CombinationalWire a b ∧
      Relation.ReflTransGen network.CombinationalWire b id
  have : IsTrans _ reaches := ⟨fun _ _ _ hab hbc => ⟨hab.1.trans hbc.1, hbc.2⟩⟩
  have : Std.Irrefl reaches := ⟨fun looped hloop => h ⟨looped, hloop⟩⟩
  have hfinite : WellFounded reaches := Finite.wellFounded_of_trans_of_irrefl reaches
  have hacc (target : Fin network.devices.length)
      (hleads : Relation.ReflTransGen network.CombinationalWire target id) :
      Acc network.CombinationalWire target := by
    induction target using hfinite.induction with
    | _ target ih =>
        refine Acc.intro _ fun source hsource => ?_
        exact ih ⟨source, lt_length_of_isCombinationalAt hsource.1⟩ ⟨.single hsource, hleads⟩
          (.head hsource hleads)
  refine Acc.intro _ fun source hsource => ?_
  exact hacc ⟨source, lt_length_of_isCombinationalAt hsource.1⟩ (.single hsource)

theorem BehindLoop.exists_driver {network : Network} {id : DeviceId} (h : network.BehindLoop id) :
    ∃ driver, network.CombinationalWire driver id ∧ network.BehindLoop driver := by
  obtain ⟨looped, hloop, hleads⟩ := h
  obtain ⟨driver, hreached, hdriver⟩ := Relation.TransGen.tail'_iff.1 (hloop.trans_left hleads)
  exact ⟨driver, hdriver, looped, hloop, hreached⟩

theorem BehindLoop.isCombinationalAt {network : Network} {id : DeviceId}
    (h : network.BehindLoop id) : network.isCombinationalAt id := by
  obtain ⟨_, hdriver, -⟩ := h.exists_driver
  exact hdriver.2.1

theorem behindLoop_iff_not_acc {network : Network} {id : DeviceId} :
    network.BehindLoop id ↔ ¬ Acc network.CombinationalWire id := by
  constructor
  · intro h hacc
    induction hacc with
    | intro id _ ih =>
        obtain ⟨driver, hdriver, hbehind⟩ := h.exists_driver
        exact ih driver hdriver hbehind
  · exact not_imp_comm.1 acc_of_not_behindLoop

theorem Acyclic.wellFounded {network : Network} (h : network.Acyclic) :
    WellFounded network.CombinationalWire :=
  ⟨fun _ => acc_of_not_behindLoop fun ⟨looped, hloop, _⟩ => h looped hloop⟩

theorem Sound.any_pending_iff {network : Network} {work : Worklist} (h : network.Sound work)
    (hready : work.ready = []) {id : DeviceId} (hid : network.isCombinationalAt id) :
    (work.pending[id]?).any (0 < ·) ↔ id ∉ work.placed := by
  have hdue := h.due id
  rw [hready, List.append_nil, ← countP_not_mem_eq_zero_iff] at hdue
  rw [h.pending id (lt_length_of_isCombinationalAt hid), Option.any_some, decide_eq_true_iff, hdue,
    Nat.pos_iff_ne_zero]
  simp [hid]

/-- With feedback or without, no combinational device is missing in the order: what the worklist
does not place still waits for a feeder. -/
theorem mem_evaluationOrder {network : Network} {id : DeviceId} (h : network.isCombinationalAt id) :
    id ∈ network.evaluationOrder := by
  obtain ⟨hsound, hready⟩ := network.sound_startWork.drain
  by_cases hplaced : id ∈ (network.startWork.drain network.dependents).placed
  · exact List.mem_append_left _ hplaced
  · exact List.mem_append_right _ (List.mem_filter.2
      ⟨mem_combinational_iff.2 h, (hsound.any_pending_iff hready h).2 hplaced⟩)

/-- Without feedback the order has all combinational devices, each once, and none of them drives one
before it. -/
theorem WellWired.evaluationOrder_of_acyclic {network : Network} (h : network.WellWired)
    (hacyclic : network.Acyclic) :
    (∀ id, id ∈ network.evaluationOrder ↔ network.isCombinationalAt id) ∧
      network.evaluationOrder.Nodup ∧
      network.evaluationOrder.Pairwise fun earlier later =>
        later ∉ network.feedersAt earlier := by
  obtain ⟨hsound, hready⟩ := network.sound_startWork.drain
  set work := network.startWork.drain network.dependents with hwork
  have hplaced (id : DeviceId) : network.isCombinationalAt id → id ∈ work.placed := by
    induction id using hacyclic.wellFounded.induction with
    | _ id ih =>
        intro hid
        have hdue := (hsound.due id).2 ⟨hid, fun feeder hfeeder =>
          ih feeder (h.mem_feedersAt_iff_wire.1 hfeeder)
            (isCombinationalAt_of_mem_feedersAt hfeeder).1⟩
        simpa [hready] using hdue
  have hnone : (network.combinational.filter fun id => (work.pending[id]?).any (0 < ·)) = [] := by
    refine List.filter_eq_nil_iff.2 fun id hid => ?_
    have hcombinational := mem_combinational_iff.1 hid
    rw [hsound.any_pending_iff hready hcombinational, not_not]
    exact hplaced id hcombinational
  have horder : network.evaluationOrder = work.placed := by
    rw [evaluationOrder, evaluationPlan, ← hwork]
    simp only [hnone, List.append_nil]
  rw [horder]
  refine ⟨fun id => ⟨fun hid => ?_, hplaced id⟩, ?_, hsound.ordered⟩
  · exact ((hsound.due id).1 (List.mem_append_left _ hid)).1
  · exact (List.nodup_append.1 hsound.nodup).1

end Network

end LogicBench
