import LogicBench.Network.Cycle

/-!
# Settling

A pass updates the devices of an order one after another, each seeing what the ones before it have
just made. The network has settled when a pass changes nothing; that pass counts too.
-/

namespace LogicBench.Network

/-- One pass, and whether it changed anything. -/
def pass (network : Network) (order : List DeviceId) : Network × Bool :=
  order.foldl
    (fun (now, changed) id =>
      let (next, hasChanged) := now.update id
      (next, changed || hasChanged))
    (network, false)

/-- Passes until one changes nothing, `fuel` of them at most, when `done` have been made before. -/
def settleFrom (order : List DeviceId) : Nat → Nat → Network → Network × Option Nat
  | 0, _, network => (network, none)
  | fuel + 1, done, network =>
    match network.pass order with
    | (next, false) => (next, some (done + 1))
    | (next, true) => settleFrom order fuel (done + 1) next

/-- Settles the network, and tells in how many passes, or `none` if `maxPasses` were not enough. -/
def settle (network : Network) (order : List DeviceId) (maxPasses : Nat) : Network × Option Nat :=
  settleFrom order maxPasses 0 network

end LogicBench.Network
