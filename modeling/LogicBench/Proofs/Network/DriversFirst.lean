import LogicBench.Proofs.Network.Consistency
import LogicBench.Proofs.Network.EvaluationOrder

/-!
# Drivers first, loops last

With feedback the evaluation order has two parts. In front stand the devices that no loop leads to,
each after its feeders; the tail has the others, in declaration order. On the way there no count of
feeders to be placed is taken below zero.
-/

namespace LogicBench

namespace Worklist

/-! ## Counts that are not taken below zero -/

/-- `release`, but only of a device that still waits. -/
def release? (work : Worklist) (id : DeviceId) : Option Worklist :=
  match work.pending[id]? with
  | some (_ + 1) => some (work.release id)
  | _ => none

theorem eq_release_of_release? {work next : Worklist} {id : DeviceId}
    (h : work.release? id = some next) : next = work.release id := by
  unfold release? at h
  split at h
  · exact (Option.some.inj h).symm
  · cases h

theorem eq_releases_of_releases? {work next : Worklist} {released : List DeviceId}
    (h : released.foldlM release? work = some next) : next = released.foldl release work := by
  induction released generalizing work with
  | nil => exact (Option.some.inj h).symm
  | cons id rest ih =>
      rw [List.foldlM_cons] at h
      obtain ⟨first, hfirst, hrest⟩ := Option.bind_eq_some_iff.1 h
      rw [List.foldl_cons, ← eq_release_of_release? hfirst]
      exact ih hrest

theorem releases?_eq_some {work : Worklist} {released : List DeviceId}
    (h : ∀ id ∈ released, ∃ count, work.pending[id]? = some count ∧ released.count id ≤ count) :
    released.foldlM release? work = some (released.foldl release work) := by
  induction released generalizing work with
  | nil => rfl
  | cons id rest ih =>
      obtain ⟨count, hcount, hle⟩ := h id List.mem_cons_self
      have hfirst : work.release? id = some (work.release id) := by
        rw [List.count_cons_self] at hle
        obtain ⟨more, rfl⟩ := Nat.exists_eq_add_of_lt (Nat.lt_of_lt_of_le (Nat.succ_pos _) hle)
        rw [release?, hcount]
      rw [List.foldlM_cons, hfirst, List.foldl_cons]
      apply ih
      intro other hother
      obtain ⟨count, hcount, hle⟩ := h other (List.mem_cons_of_mem _ hother)
      refine ⟨count - [id].count other, by rw [pending_release, hcount, Option.map_some], ?_⟩
      have hsplit : (id :: rest).count other = [id].count other + rest.count other := by
        rw [← List.count_append]
        rfl
      omega

/-- `drain`, but without a result when a device is released that waits for nothing. -/
def drain? (dependents : DeviceId → List DeviceId) (work : Worklist) : Option Worklist :=
  match _hready : work.ready with
  | [] => some work
  | id :: rest =>
    match _hnext : (dependents id).foldlM release?
        { work with ready := rest, placed := work.placed ++ [id] } with
    | some next => drain? dependents next
    | none => none
termination_by work.weight
decreasing_by
  rw [eq_releases_of_releases? _hnext]
  refine Nat.lt_of_le_of_lt (weight_releases_le _ _) ?_
  simp only [weight, _hready, List.length_cons]
  omega

theorem drain?_of_ready_eq_nil {dependents : DeviceId → List DeviceId} {work : Worklist}
    (h : work.ready = []) : work.drain? dependents = some work := by
  unfold drain?
  split
  · rfl
  · next hready => cases h.symm.trans hready

theorem drain?_of_releases {dependents : DeviceId → List DeviceId} {work next : Worklist}
    {id : DeviceId} {rest : List DeviceId} (hready : work.ready = id :: rest)
    (hnext : (dependents id).foldlM release?
      { work with ready := rest, placed := work.placed ++ [id] } = some next) :
    work.drain? dependents = next.drain? dependents := by
  rw [drain?]
  split
  · next hnil => cases hready.symm.trans hnil
  · next other others hcons =>
    obtain ⟨rfl, rfl⟩ := List.cons.inj (hready.symm.trans hcons)
    split
    · next first hfirst => rw [Option.some.inj (hnext.symm.trans hfirst)]
    · next hnone => cases hnext.symm.trans hnone

end Worklist

namespace Network

variable {network : Network}

theorem Sound.releases?_dependents {work : Worklist} {id : DeviceId} {rest : List DeviceId}
    (h : network.Sound work) (hready : work.ready = id :: rest) :
    (network.dependents id).foldlM Worklist.release?
        { work with ready := rest, placed := work.placed ++ [id] } =
      some ((network.dependents id).foldl Worklist.release
        { work with ready := rest, placed := work.placed ++ [id] }) := by
  apply Worklist.releases?_eq_some
  intro other hother
  have hfed : id ∈ network.feedersAt other := by
    rw [← List.count_pos_iff, ← count_dependents]
    exact List.count_pos_iff.2 hother
  have hlt := lt_length_of_isCombinationalAt (isCombinationalAt_of_mem_feedersAt hfed).2
  have hid : id ∉ work.placed := h.not_mem_placed (hready ▸ List.mem_cons_self)
  refine ⟨_, h.pending other hlt, ?_⟩
  rw [count_dependents]
  apply List.countP_mono_left
  intro feeder _ heq
  rw [eq_of_beq heq]
  exact decide_eq_true hid

/-- Draining the worklist, no count is taken below zero. -/
theorem Sound.drain?_eq_drain {work : Worklist} (h : network.Sound work) :
    work.drain? network.dependents = some (work.drain network.dependents) := by
  fun_induction Worklist.drain network.dependents work with
  | case1 work hready => exact Worklist.drain?_of_ready_eq_nil hready
  | case2 work id rest hready ih =>
      rw [Worklist.drain?_of_releases hready (h.releases?_dependents hready)]
      exact ih (h.place hready)

def DriversFirst (network : Network) (placed : List DeviceId) : Prop :=
  ∀ before id after, placed = before ++ id :: after →
    ∀ feeder ∈ network.feedersAt id, feeder ∈ before

theorem driversFirst_nil : network.DriversFirst [] := by
  intro before id after hsplit
  simp at hsplit

theorem driversFirst_concat_iff {placed : List DeviceId} {id : DeviceId} :
    network.DriversFirst (placed ++ [id]) ↔
      network.DriversFirst placed ∧ ∀ feeder ∈ network.feedersAt id, feeder ∈ placed := by
  constructor
  · intro h
    refine ⟨fun before other after hsplit => ?_, h placed id [] rfl⟩
    apply h before other (after ++ [id])
    rw [hsplit, List.append_assoc, List.cons_append]
  · rintro ⟨h, hid⟩ before other after hsplit
    rcases after.eq_nil_or_concat with rfl | ⟨init, last, rfl⟩
    · obtain ⟨rfl, hlast⟩ := List.append_inj' hsplit rfl
      obtain rfl : id = other := by simpa using hlast
      exact hid
    · rw [List.concat_eq_append, ← List.cons_append, ← List.append_assoc] at hsplit
      exact h before other init (List.append_inj' hsplit rfl).1

theorem Sound.driversFirst_drain {work : Worklist} (h : network.Sound work)
    (hfirst : network.DriversFirst work.placed) :
    network.DriversFirst (work.drain network.dependents).placed := by
  fun_induction Worklist.drain network.dependents work with
  | case1 work hready => exact hfirst
  | case2 work id rest hready ih =>
      apply ih (h.place hready)
      rw [Worklist.placed_releases]
      exact driversFirst_concat_iff.2 ⟨hfirst, ((h.due id).1 (by simp [hready])).2⟩

theorem DriversFirst.acc {placed : List DeviceId} (h : network.DriversFirst placed)
    {id : DeviceId} (hid : id ∈ placed) : Acc (· ∈ network.feedersAt ·) id := by
  induction placed using List.reverseRecOn generalizing id with
  | nil => cases hid
  | append_singleton init last ih =>
      obtain ⟨hinit, hlast⟩ := driversFirst_concat_iff.1 h
      rcases List.mem_append.1 hid with hmem | hmem
      · exact ih hinit hmem
      · rw [List.mem_singleton.1 hmem]
        exact Acc.intro _ fun feeder hfeeder => ih hinit (hlast feeder hfeeder)

/-- What the worklist has placed in the end are the combinational devices from which going back
along feeders ends. -/
theorem Sound.mem_placed_drain_iff {work : Worklist} (h : network.Sound work)
    (hfirst : network.DriversFirst work.placed) {id : DeviceId} :
    id ∈ (work.drain network.dependents).placed ↔
      network.isCombinationalAt id ∧ Acc (· ∈ network.feedersAt ·) id := by
  obtain ⟨hdrained, hready⟩ := h.drain
  have hdue (other : DeviceId) : other ∈ (work.drain network.dependents).placed ↔
      network.isCombinationalAt other ∧ ∀ feeder ∈ network.feedersAt other,
        feeder ∈ (work.drain network.dependents).placed := by
    rw [← hdrained.due, hready, List.append_nil]
  constructor
  · intro hid
    exact ⟨((hdue id).1 hid).1, (h.driversFirst_drain hfirst).acc hid⟩
  · rintro ⟨hcombinational, hacc⟩
    induction hacc with
    | intro id _ ih =>
        refine (hdue id).2 ⟨hcombinational, fun feeder hfeeder => ?_⟩
        exact ih feeder hfeeder (isCombinationalAt_of_mem_feedersAt hfeeder).1

/-! ## The two parts of the order -/

structure SplitsAtLoops (network : Network) (front tail : List DeviceId) : Prop where
  order : network.evaluationOrder = front ++ tail
  length : network.evaluationPlan.2 = tail.length
  mem : ∀ id, id ∈ front ++ tail ↔ network.isCombinationalAt id
  once : (front ++ tail).Nodup
  driven : ∀ before id after, front = before ++ id :: after →
    ∀ driver, network.CombinationalWire driver id → driver ∈ before
  looped : ∀ id, id ∈ tail ↔ network.BehindLoop id
  declared : tail.Pairwise (· < ·)

theorem Sound.perm_combinational {work : Worklist} (h : network.Sound work) :
    (work.placed ++ network.combinational.filter (· ∉ work.placed)).Perm network.combinational := by
  have honce : work.placed.Nodup := (List.nodup_append.1 h.nodup).1
  have hdisjoint : List.Disjoint work.placed (network.combinational.filter (· ∉ work.placed)) := by
    intro id hplaced hleft
    simp [hplaced] at hleft
  apply (List.perm_ext_iff_of_nodup
    (honce.append (network.nodup_combinational.filter _) hdisjoint) network.nodup_combinational).2
  intro id
  have hplaced : id ∈ work.placed → id ∈ network.combinational := fun hid =>
    mem_combinational_iff.2 ((h.due id).1 (List.mem_append_left _ hid)).1
  by_cases hid : id ∈ work.placed
  · simp [hid, hplaced hid]
  · simp [hid]

theorem evaluationPlan_eq (network : Network) {front tail : List DeviceId}
    (hfront : front = (network.startWork.drain network.dependents).placed)
    (htail : tail = network.combinational.filter (· ∉ front)) :
    network.evaluationPlan = (front ++ tail, tail.length) := by
  obtain ⟨hsound, hready⟩ := network.sound_startWork.drain
  subst hfront htail
  have hlength := hsound.perm_combinational.length_eq
  rw [List.length_append] at hlength
  rw [evaluationPlan]
  congr 1
  · congr 1
    apply List.filter_congr
    intro id hid
    rw [Bool.eq_iff_iff, hsound.any_pending_iff hready (mem_combinational_iff.1 hid),
      decide_eq_true_iff]
  · omega

theorem Wired.exists_splitsAtLoops (h : network.Wired) :
    ∃ front tail, network.SplitsAtLoops front tail := by
  have hfeeds : (fun feeder id => feeder ∈ network.feedersAt id) = network.CombinationalWire := by
    ext feeder id
    exact h.mem_feedersAt_iff_wire
  have hplaced (id : DeviceId) :
      id ∈ (network.startWork.drain network.dependents).placed ↔
        network.isCombinationalAt id ∧ Acc network.CombinationalWire id := by
    rw [← hfeeds]
    exact network.sound_startWork.mem_placed_drain_iff driversFirst_nil
  have hdriven := network.sound_startWork.driversFirst_drain driversFirst_nil
  have hperm := network.sound_startWork.drain.1.perm_combinational
  have hplan := network.evaluationPlan_eq rfl rfl
  set front := (network.startWork.drain network.dependents).placed
  refine ⟨front, network.combinational.filter (· ∉ front), ?_, ?_, ?_, ?_, ?_, ?_, ?_⟩
  · rw [evaluationOrder, hplan]
  · rw [hplan]
  · intro id
    rw [hperm.mem_iff, mem_combinational_iff]
  · exact hperm.nodup_iff.2 network.nodup_combinational
  · intro before id after hsplit driver hdriver
    exact hdriven before id after hsplit driver (h.mem_feedersAt_iff_wire.2 hdriver)
  · intro id
    rw [List.mem_filter, mem_combinational_iff, decide_eq_true_iff, hplaced, behindLoop_iff_not_acc]
    constructor
    · rintro ⟨hid, hnot⟩ hacc
      exact hnot ⟨hid, hacc⟩
    · intro hnot
      exact ⟨(behindLoop_iff_not_acc.2 hnot).isCombinationalAt, fun hboth => hnot hboth.2⟩
  · exact (List.pairwise_lt_range.filter _).filter _

/-- Whatever is done to a network, its combinational devices are ordered drivers first, those on or
behind loops last, and ordering them takes no count below zero. -/
theorem splitsAtLoops_applyAll (changes : List Change) :
    let network := applyAll {} changes
    (∃ front tail, network.SplitsAtLoops front tail) ∧
      network.startWork.drain? network.dependents =
        some (network.startWork.drain network.dependents) :=
  ⟨(consistent_empty.applyAll changes).toWired.exists_splitsAtLoops,
    (sound_startWork _).drain?_eq_drain⟩

end Network

end LogicBench
