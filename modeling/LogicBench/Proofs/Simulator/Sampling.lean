import LogicBench.Proofs.Network.Consistency
import LogicBench.Proofs.Simulator.Points

/-!
# Samples taken, doubled and lost

A recorder that observes a network from outside knows cycles by their numbers only, and a cold start
gives the same numbers again. A ledger written next to it tells when a sample is owed. None is taken
that is not owed. One that is owed is lost exactly if the last sample was of a cycle with the same
number before a cold start.
-/

namespace LogicBench

inductive Event where
  | add (name : SignalName)
  | remove (name : SignalName)
  | reset
  | sample
  | change (change : Network.Change)
  deriving DecidableEq, Repr

structure Observation where
  network : Network := {}
  recorder : Recorder := {}
  deriving DecidableEq, Repr

/-- What has happened to a recorder and its network, as far as it matters for the next sample. -/
structure Ledger where
  /-- The number of cycles completed since the last cold start. -/
  completed : Nat := 0
  /-- Whether a sample was taken since the last completed cycle and since the last reset. -/
  recorded : Bool := false
  /-- The number of the cycle of the last sample since the last reset. -/
  last : Option Nat := none
  /-- Whether there was a cold start since that sample. -/
  restarted : Bool := false
  deriving DecidableEq, Repr

namespace Observation

def apply (observation : Observation) : Event → Observation × Bool
  | .add name =>
    let (recorder, result) :=
      keepOnError observation.recorder (observation.recorder.add observation.network name)
    ({ observation with recorder }, result.toBool)
  | .remove name =>
    let (recorder, result) :=
      keepOnError observation.recorder (observation.recorder.remove name)
    ({ observation with recorder }, result.toBool)
  | .reset => ({ observation with recorder := observation.recorder.reset }, true)
  | .sample =>
    let recorder := observation.recorder.sample observation.network
    ({ observation with recorder }, recorder ≠ observation.recorder)
  | .change change =>
    let (network, succeeded) := observation.network.apply change
    ({ observation with network }, succeeded)

end Observation

namespace Ledger

/-- The ledger after an event that did what it was to do, or did not. -/
def enter (ledger : Ledger) : Event → Bool → Ledger
  | .change (.cycle _), true => { ledger with completed := ledger.completed + 1, recorded := false }
  | .change .coldStart, _ => { ledger with completed := 0, restarted := true }
  | .reset, _ => { ledger with recorded := false, last := none }
  | .sample, true =>
    { ledger with recorded := true, last := some ledger.completed, restarted := false }
  | _, _ => ledger

def isOwed (ledger : Ledger) : Bool :=
  ledger.completed ≠ 0 && !ledger.recorded

/-- Whether the last completed cycle has the number of one sampled before a cold start. -/
def isConfused (ledger : Ledger) : Bool :=
  ledger.restarted && ledger.last = some ledger.completed

end Ledger

namespace Observation

def applyAll (events : List Event) : Observation × Ledger :=
  events.foldl
    (fun (observation, ledger) event =>
      let (next, succeeded) := observation.apply event
      (next, ledger.enter event succeeded))
    ({}, {})

end Observation

/-! ## One event -/

namespace Recorder

variable {recorder next : Recorder} {network : Network}

theorem lastSampled_of_add {name : SignalName} (h : recorder.add network name = .ok next) :
    next.lastSampled = recorder.lastSampled := by
  obtain ⟨-, -, -, rfl⟩ := add_eq_ok_iff.1 h
  rfl

theorem lastSampled_of_remove {name : SignalName} (h : recorder.remove name = .ok next) :
    next.lastSampled = recorder.lastSampled := by
  obtain ⟨-, rfl⟩ := remove_eq_ok_iff.1 h
  rfl

theorem isDue_iff : recorder.isDue network ↔
    network.cycle ≠ 0 ∧ recorder.lastSampled ≠ some network.cycle := by
  simp [isDue]

theorem sample_ne_self_iff : recorder.sample network ≠ recorder ↔ recorder.isDue network := by
  unfold sample
  split
  · next hdue =>
    refine iff_of_true (fun hsame => ?_) hdue
    exact (isDue_iff.1 hdue).2 (congrArg lastSampled hsame).symm
  · next hnot => exact iff_of_false (fun hne => hne rfl) hnot

end Recorder

namespace Observation

variable {observation : Observation}

theorem apply_sample_of_isDue (h : observation.recorder.isDue observation.network) :
    observation.apply .sample =
      ({ observation with
        recorder :=
          { entries := observation.recorder.entries.map fun entry =>
              (entry.1, Recorder.extend observation.network entry.1 entry.2)
            lastSampled := some observation.network.cycle } }, true) := by
  have htaken := decide_eq_true (Recorder.sample_ne_self_iff.2 h)
  rw [apply, htaken, Recorder.sample, if_pos h]

theorem apply_sample_of_not_isDue (h : ¬observation.recorder.isDue observation.network) :
    observation.apply .sample = (observation, false) := by
  have hsame : observation.recorder.sample observation.network = observation.recorder := by
    rw [Recorder.sample, if_neg h]
  simp only [apply, hsame, ne_eq, not_true_eq_false, decide_false]

end Observation

namespace Network

variable {network : Network} {change : Change}

theorem cycle_apply (network : Network) (change : Change) :
    (network.apply change).1.cycle =
      match change, (network.apply change).2 with
      | .cycle _, true => network.cycle + 1
      | .coldStart, _ => 0
      | _, _ => network.cycle := by
  cases change with
  | addDevice name kind =>
      refine keepOnError_congr Network.cycle fun hmap => ?_
      obtain ⟨id, hadd⟩ := map_addDevice_eq_ok_iff.1 hmap
      obtain ⟨-, -, rfl⟩ := addDevice_eq_ok_iff.1 hadd
      rfl
  | connect source id pin =>
      refine keepOnError_congr Network.cycle fun hconnect => ?_
      obtain ⟨-, _, -, -, rfl⟩ := connect_eq_ok_iff.1 hconnect
      rfl
  | setSwitch id state => exact keepOnError_congr Network.cycle cycle_of_setSwitch
  | coldStart => rfl
  | settle order maxPasses => exact network.cycle_settle order maxPasses
  | cycle simulator =>
      cases hcycle : { simulator with network }.executeCycle.2 with
      | ok passes =>
          have hcount := Simulator.cycleCount_of_ok hcycle
          simp only [apply, hcycle]
          exact hcount
      | error cause =>
          have hsame := (Simulator.executeCycle_eq_of_error hcycle).1
          simp only [apply, hcycle]
          rw [hsame]
          rfl

end Network

namespace Ledger

/-- What a ledger tells about a recorder and its network. Unless there was a cold start since, the
cycle sampled last is an earlier one or the one that the ledger has as recorded. -/
structure Tracks (ledger : Ledger) (observation : Observation) : Prop where
  cycle : observation.network.cycle = ledger.completed
  last : observation.recorder.lastSampled = ledger.last
  recorded : ledger.recorded → ledger.completed ≠ 0 → ledger.last = some ledger.completed
  earlier : ledger.restarted = false → ∀ number, ledger.last = some number →
    number < ledger.completed ∨ ledger.recorded ∧ number = ledger.completed

variable {ledger : Ledger} {observation : Observation}

theorem tracks_start : Tracks {} {} where
  cycle := rfl
  last := rfl
  recorded := fun h => nomatch h
  earlier := fun _ _ h => nomatch h

/-- A sample is due if it is owed and the number of the cycle is a new one. -/
theorem Tracks.isDue_iff (h : ledger.Tracks observation) :
    observation.recorder.isDue observation.network ↔
      ledger.isOwed = true ∧ ledger.isConfused = false := by
  rw [Recorder.isDue_iff, h.cycle, h.last]
  constructor
  · rintro ⟨hcompleted, hlast⟩
    have hrecorded : ledger.recorded = false := by
      rw [← Bool.not_eq_true]
      exact fun hrecorded => hlast (h.recorded hrecorded hcompleted)
    simp [isOwed, isConfused, hcompleted, hrecorded, hlast]
  · rintro ⟨howed, hnew⟩
    simp only [isOwed, isConfused, Bool.and_eq_true, decide_eq_true_eq, Bool.not_eq_true',
      Bool.and_eq_false_iff, decide_eq_false_iff_not] at howed hnew
    refine ⟨howed.1, fun hlast => ?_⟩
    rcases hnew with hstarted | hother
    · rcases h.earlier hstarted _ hlast with hlt | ⟨hrecorded, -⟩
      · exact Nat.lt_irrefl _ hlt
      · rw [howed.2] at hrecorded
        cases hrecorded
    · exact hother hlast

theorem Tracks.of_eq {next : Observation} (h : ledger.Tracks observation)
    (hcycle : next.network.cycle = observation.network.cycle)
    (hlast : next.recorder.lastSampled = observation.recorder.lastSampled) :
    ledger.Tracks next :=
  ⟨hcycle.trans h.cycle, hlast.trans h.last, h.recorded, h.earlier⟩

theorem Tracks.reset (h : ledger.Tracks observation) :
    (ledger.enter .reset (observation.apply .reset).2).Tracks (observation.apply .reset).1 where
  cycle := h.cycle
  last := rfl
  recorded := fun hrecorded => nomatch hrecorded
  earlier := fun _ _ hlast => nomatch hlast

theorem Tracks.sample (h : ledger.Tracks observation) :
    (ledger.enter .sample (observation.apply .sample).2).Tracks (observation.apply .sample).1 := by
  by_cases hdue : observation.recorder.isDue observation.network
  · rw [Observation.apply_sample_of_isDue hdue]
    refine ⟨h.cycle, congrArg some h.cycle, fun _ _ => rfl, ?_⟩
    rintro - number ⟨⟩
    exact .inr ⟨rfl, rfl⟩
  · rw [Observation.apply_sample_of_not_isDue hdue]
    exact h

theorem Tracks.change (h : ledger.Tracks observation) (change : Network.Change) :
    (ledger.enter (.change change) (observation.apply (.change change)).2).Tracks
      (observation.apply (.change change)).1 := by
  have hcycle := observation.network.cycle_apply change
  have hresult : (observation.apply (.change change)).2 =
      (observation.network.apply change).2 := rfl
  cases change with
  | cycle simulator =>
      cases hsucceeded : (observation.network.apply (.cycle simulator)).2 with
      | true =>
          rw [hsucceeded] at hcycle hresult
          rw [hresult]
          refine ⟨hcycle.trans (congrArg (· + 1) h.cycle), h.last, ?_, ?_⟩
          · intro hrecorded
            cases hrecorded
          · intro hstarted number hlast
            left
            rcases h.earlier hstarted number hlast with hlt | ⟨-, rfl⟩
            · exact Nat.lt_succ_of_lt hlt
            · exact Nat.lt_succ_self _
      | false =>
          rw [hsucceeded] at hcycle hresult
          rw [hresult]
          exact h.of_eq hcycle rfl
  | coldStart => exact ⟨rfl, h.last, fun _ hcompleted => absurd rfl hcompleted, fun h => nomatch h⟩
  | _ => exact h.of_eq hcycle rfl

theorem Tracks.apply (h : ledger.Tracks observation) (event : Event) :
    (ledger.enter event (observation.apply event).2).Tracks (observation.apply event).1 := by
  cases event with
  | add name =>
      exact h.of_eq rfl (keepOnError_congr Recorder.lastSampled Recorder.lastSampled_of_add)
  | remove name =>
      exact h.of_eq rfl (keepOnError_congr Recorder.lastSampled Recorder.lastSampled_of_remove)
  | reset => exact h.reset
  | sample => exact h.sample
  | change change => exact h.change change

theorem tracks_applyAll (events : List Event) :
    (Observation.applyAll events).2.Tracks (Observation.applyAll events).1 := by
  induction events using List.reverseRecOn with
  | nil => exact tracks_start
  | append_singleton events event ih =>
      rw [Observation.applyAll, List.foldl_concat]
      exact ih.apply event

end Ledger

namespace Observation

/-- After any events a call for a sample appends the present level to each trace, or does nothing.
It does nothing when no sample is owed; of those that are owed it takes all but the ones of cycles
whose number is that of the cycle sampled last, before a cold start. -/
theorem sample_applyAll (events : List Event) :
    let observation := (applyAll events).1
    let ledger := (applyAll events).2
    observation.recorder.sample observation.network =
      if ledger.isOwed && !ledger.isConfused then
        { entries := observation.recorder.entries.map fun (name, trace) =>
            (name, Recorder.extend observation.network name trace)
          lastSampled := some observation.network.cycle }
      else observation.recorder := by
  intro observation ledger
  have hdue : observation.recorder.isDue observation.network =
      (ledger.isOwed && !ledger.isConfused) := by
    rw [Bool.eq_iff_iff, (Ledger.tracks_applyAll events).isDue_iff, Bool.and_eq_true,
      Bool.not_eq_true']
  rw [Recorder.sample, hdue]

/-- The level of a switch is sampled in the first cycle, the network starts again, and the other
level is not sampled in the first cycle then. -/
theorem owed_sample_is_lost :
    let simulator : Simulator := ⟨{}, {}, {}, defaultMaxPasses, []⟩
    let events : List Event := [.change (.addDevice "S1" (.switch ⟨true⟩)), .add ⟨"S1", .out⟩,
      .change .coldStart, .change (.cycle simulator), .sample, .change (.setSwitch 0 false),
      .change .coldStart, .change (.cycle simulator)]
    let observation := (applyAll events).1
    let ledger := (applyAll events).2
    ledger.isOwed = true ∧ observation.recorder.entries = [(⟨"S1", .out⟩, ⟨0, #[.high]⟩)] ∧
      observation.recorder.sample observation.network = observation.recorder := by
  decide

end Observation

end LogicBench
