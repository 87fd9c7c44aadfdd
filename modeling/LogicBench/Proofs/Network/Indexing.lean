import LogicBench.Index
import LogicBench.Proofs.Network.Consistency

/-!
# Networks with an index

A network can keep an index of its devices by their names. Devices are found through the index, and
a device that is added is entered in it; whatever else is done to the network leaves the index
alone. Such a network and one that searches its devices find the same ones and refuse the same
changes.
-/

namespace LogicBench

namespace Network

variable {network : Network}

theorem deviceId?_eq_findIdx? (network : Network) (name : String) :
    network.deviceId? name = (network.devices.map Device.name).findIdx? (· = name) := by
  rw [deviceId?, List.findIdx?_map]
  rfl

def Change.addsDevice : Change → Bool
  | addDevice .. => true
  | _ => false

/-- Only adding a device changes the names. -/
theorem names_apply {change : Change} (h : change.addsDevice = false) :
    (network.apply change).1.devices.map Device.name = network.devices.map Device.name := by
  cases change with
  | addDevice name kind => cases h
  | connect source id pin =>
      refine keepOnError_congr (fun next : Network => next.devices.map Device.name) fun hmade => ?_
      obtain ⟨-, driven, hdriven, -, rfl⟩ := connect_eq_ok_iff.1 hmade
      exact map_name_set _ hdriven rfl
  | setSwitch id state =>
      refine keepOnError_congr (fun next : Network => next.devices.map Device.name) fun hset => ?_
      exact names_of_bare_eq (bare_of_setSwitch hset)
  | coldStart => exact names_of_bare_eq network.bare_coldStart
  | settle order maxPasses => exact names_of_bare_eq (network.bare_settle order maxPasses)
  | cycle simulator =>
      exact names_of_bare_eq { simulator with network }.sameCircuit_executeCycle.bare

end Network

/-- A network with an index of the places of its devices. -/
structure IndexedNetwork where
  network : Network := {}
  places : Index := {}
  deriving DecidableEq, Repr

namespace IndexedNetwork

def deviceId? (indexed : IndexedNetwork) (name : String) : Option DeviceId :=
  indexed.places.get? name

def deviceNamed? (indexed : IndexedNetwork) (name : String) : Option Device :=
  (indexed.deviceId? name).bind indexed.network.device?

def addDevice (indexed : IndexedNetwork) (name : String) (kind : DeviceKind) :
    Except NetworkError (IndexedNetwork × DeviceId) :=
  match indexed.deviceId? name with
  | some _ => .error .alreadyDeclared
  | none =>
    let id := indexed.network.devices.length
    let devices := indexed.network.devices ++ [Device.ofKind name kind]
    .ok ({ network := { indexed.network with devices }, places := indexed.places.insert name id },
      id)

def apply (indexed : IndexedNetwork) : Network.Change → IndexedNetwork × Bool
  | .addDevice name kind =>
    let (next, result) := keepOnError indexed ((indexed.addDevice name kind).map Prod.fst)
    (next, result.toBool)
  | change =>
    let (network, succeeded) := indexed.network.apply change
    ({ indexed with network }, succeeded)

def applyAll (indexed : IndexedNetwork) (changes : List Network.Change) : IndexedNetwork :=
  changes.foldl (fun indexed change => (indexed.apply change).1) indexed

theorem apply_of_addsDevice {indexed : IndexedNetwork} {change : Network.Change}
    (h : change.addsDevice = false) :
    indexed.apply change = ({ indexed with network := (indexed.network.apply change).1 },
      (indexed.network.apply change).2) := by
  cases change with
  | addDevice name kind => cases h
  | _ => rfl

/-- Whether a network with an index stands for one without. -/
structure Represents (indexed : IndexedNetwork) (network : Network) : Prop where
  same : indexed.network = network
  places : indexed.places.Agrees (network.devices.map Device.name)

namespace Represents

variable {indexed : IndexedNetwork} {network : Network}

theorem empty : Represents {} {} :=
  ⟨rfl, Index.agrees_empty⟩

theorem deviceId? (h : indexed.Represents network) (name : String) :
    indexed.deviceId? name = network.deviceId? name := by
  rw [network.deviceId?_eq_findIdx?]
  exact h.places name

theorem deviceNamed? (h : indexed.Represents network) (name : String) :
    indexed.deviceNamed? name = network.deviceNamed? name := by
  rw [IndexedNetwork.deviceNamed?, h.deviceId?, h.same, network.deviceNamed?_eq_bind]

theorem addDevice (h : indexed.Represents network) (name : String) (kind : DeviceKind) :
    (∃ cause, indexed.addDevice name kind = .error cause ∧
      network.addDevice name kind = .error cause) ∨
    ∃ larger next id, indexed.addDevice name kind = .ok (larger, id) ∧
      network.addDevice name kind = .ok (next, id) ∧ larger.Represents next := by
  rw [IndexedNetwork.addDevice, Network.addDevice, h.deviceId?, h.same]
  cases hid : network.deviceId? name with
  | some id => exact .inl ⟨_, rfl, rfl⟩
  | none =>
      refine .inr ⟨_, _, _, rfl, rfl, rfl, ?_⟩
      have hnew : name ∉ network.devices.map Device.name := Network.deviceId?_eq_none_iff.1 hid
      have hplaces := h.places.insert hnew
      simpa using hplaces

/-- One change, whether it is refused or not. -/
theorem apply (h : indexed.Represents network) (change : Network.Change) :
    (indexed.apply change).2 = (network.apply change).2 ∧
      (indexed.apply change).1.Represents (network.apply change).1 := by
  cases hadds : change.addsDevice with
  | false =>
      rw [apply_of_addsDevice hadds, h.same]
      refine ⟨rfl, rfl, ?_⟩
      rw [Network.names_apply hadds]
      exact h.places
  | true =>
      cases change with
      | addDevice name kind =>
          rw [IndexedNetwork.apply, Network.apply]
          rcases h.addDevice name kind with ⟨cause, hrefused, hsame⟩ | ⟨_, _, _, hadd, hsame, hnext⟩
          · rw [hrefused, hsame]
            exact ⟨rfl, h⟩
          · rw [hadd, hsame]
            exact ⟨rfl, hnext⟩
      | _ => cases hadds

theorem applyAll (h : indexed.Represents network) (changes : List Network.Change) :
    (indexed.applyAll changes).Represents (network.applyAll changes) := by
  induction changes generalizing indexed network with
  | nil => exact h
  | cons change rest ih => exact ih (h.apply change).2

end Represents

/-- Whatever has been done to a network with an index, successfully or not: it is the network that
is without one, finds the same devices, and refuses what that refuses. A name leads to a place
exactly if the device there carries it. -/
theorem applyAll_agrees (changes : List Network.Change) :
    let indexed := applyAll {} changes
    let network := Network.applyAll {} changes
    indexed.network = network ∧
      (∀ name, indexed.deviceId? name = network.deviceId? name) ∧
      (∀ name, indexed.deviceNamed? name = network.deviceNamed? name) ∧
      (∀ change, (indexed.apply change).2 = (network.apply change).2) ∧
      ∀ name id, indexed.deviceId? name = some id ↔
        ∃ device, indexed.network.device? id = some device ∧ device.name = name := by
  intro indexed network
  have h : indexed.Represents network := Represents.empty.applyAll changes
  refine ⟨h.same, h.deviceId?, h.deviceNamed?, fun change => (h.apply change).1, ?_⟩
  intro name id
  rw [h.deviceId?, h.same]
  exact Network.deviceId?_eq_some_iff (Network.consistent_empty.applyAll changes).names

end IndexedNetwork

end LogicBench
