import LogicBench.Network.Basic

/-!
# Evaluation order

Combinational devices are evaluated drivers first. `Worklist.drain` places a device once the last
of the combinational drivers of its inputs has been placed, first come first served; what is left
lies on or behind a feedback loop and follows in declaration order.
-/

namespace LogicBench

/-- The state of the ordering: for each device how many of its inputs wait for a driver to be
placed, the devices that wait for none, and the placed ones. -/
structure Worklist where
  pending : List Nat
  ready : List DeviceId
  placed : List DeviceId
  deriving DecidableEq, Repr

namespace Worklist

/-- One input of a device waits no longer. The device is ready when that was its last. -/
def release (work : Worklist) (id : DeviceId) : Worklist :=
  match work.pending[id]? with
  | some 1 => { work with pending := work.pending.set id 0, ready := work.ready ++ [id] }
  | some (count + 2) => { work with pending := work.pending.set id (count + 1) }
  | _ => work

def total : List Nat → Nat
  | [] => 0
  | count :: rest => count + total rest

/-- Bounds the number of devices still to be placed from the queue. -/
def weight (work : Worklist) : Nat :=
  total work.pending + work.ready.length

private theorem total_set_add (new : Nat) {counts : List Nat} {i old : Nat}
    (h : counts[i]? = some old) : total (counts.set i new) + old = total counts + new := by
  induction counts generalizing i with
  | nil => simp at h
  | cons count rest ih =>
    cases i with
    | zero =>
      simp only [List.getElem?_cons_zero, Option.some.injEq] at h
      simp only [List.set_cons_zero, total]
      omega
    | succ i =>
      simp only [List.getElem?_cons_succ] at h
      have := ih h
      simp only [List.set_cons_succ, total]
      omega

theorem weight_release_le (work : Worklist) (id : DeviceId) :
    (work.release id).weight ≤ work.weight := by
  unfold release
  split
  · next h =>
    have := total_set_add 0 h
    simp only [weight, List.length_append, List.length_cons, List.length_nil]
    omega
  · next count h =>
    have := total_set_add (count + 1) h
    simp only [weight]
    omega
  · exact Nat.le_refl _

theorem weight_releases_le (work : Worklist) (released : List DeviceId) :
    (released.foldl release work).weight ≤ work.weight := by
  induction released generalizing work with
  | nil => exact Nat.le_refl _
  | cons id rest ih => exact Nat.le_trans (ih (work.release id)) (work.weight_release_le id)

/-- Places ready devices until none is left. `dependents` lists the devices that wait for a
device, once for each input that does. -/
def drain (dependents : DeviceId → List DeviceId) (work : Worklist) : Worklist :=
  match _h : work.ready with
  | [] => work
  | id :: rest =>
    drain dependents
      ((dependents id).foldl release { work with ready := rest, placed := work.placed ++ [id] })
termination_by work.weight
decreasing_by
  refine Nat.lt_of_le_of_lt (weight_releases_le _ _) ?_
  simp only [weight, _h, List.length_cons]
  omega

end Worklist

namespace Network

def isCombinationalAt (network : Network) (id : DeviceId) : Bool :=
  (network.device? id).any Device.isCombinational

/-- The combinational devices, in declaration order. -/
def combinational (network : Network) : List DeviceId :=
  network.idsWhere Device.isCombinational

/-- The combinational devices that drive the inputs of a device, input by input. -/
def feeders (network : Network) (device : Device) : List DeviceId :=
  (device.inputs.pins.filterMap device.driver?).map (·.device) |>.filter network.isCombinationalAt

/-- The feeders of the combinational device at a place; the other devices wait for none. -/
def feedersAt (network : Network) (id : DeviceId) : List DeviceId :=
  match network.device? id with
  | some device => if device.isCombinational then network.feeders device else []
  | none => []

/-- The combinational devices that a device feeds, once for each input it feeds. -/
def dependents (network : Network) (id : DeviceId) : List DeviceId :=
  network.combinational.flatMap fun fed =>
    ((network.feedersAt fed).filter (· = id)).map fun _ => fed

/-- Nothing placed: the devices without feeders are ready. -/
def startWork (network : Network) : Worklist where
  pending := network.ids.map fun id => (network.feedersAt id).length
  ready := network.combinational.filter fun id => (network.feedersAt id).isEmpty
  placed := []

/-- The combinational devices in the order in which drivers come first, as far as they do, and how
many of them, at the end, could not be placed so. -/
def evaluationPlan (network : Network) : List DeviceId × Nat :=
  let work := network.startWork.drain network.dependents
  let looped := network.combinational.filter fun id => (work.pending[id]?).any (0 < ·)
  (work.placed ++ looped, network.combinational.length - work.placed.length)

def evaluationOrder (network : Network) : List DeviceId :=
  network.evaluationPlan.1

end Network

end LogicBench
