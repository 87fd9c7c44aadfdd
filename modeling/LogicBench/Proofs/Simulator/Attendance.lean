import LogicBench.Proofs.Simulator.History
import LogicBench.Proofs.Simulator.Sampling

/-!
# The cycles that an output was sampled in

A recorder samples all its outputs at once, so an output has every sample taken since it was added.
A roll kept next to the recorder tells which these are. They are of later cycles than those that had
been completed, unless a sample was due when the output was added: it gets that one as well, and the
sample stands one column to the right of its cycle.
-/

namespace LogicBench

/-- How things stood when an output was added to a recorder, or when the recorder was last reset. -/
structure Arrival where
  /-- The number of completed cycles, or zero for a reset. -/
  cycle : Nat := 0
  /-- The number of samples that the recorder had taken since the last reset. -/
  taken : Nat := 0
  /-- The number of cold starts. -/
  starts : Nat := 0
  /-- Whether the recorder had still to take a sample of the last completed cycle. -/
  isDue : Bool := false
  deriving DecidableEq, Repr

/-- The first cycle that can be sampled after an arrival. -/
def Arrival.first (arrival : Arrival) : Nat :=
  if arrival.isDue then arrival.cycle else arrival.cycle + 1

/-- The network at each sample since the last reset, the number of cold starts, and how things stood
when each output was added. -/
structure Roll where
  sampled : List Network := []
  starts : Nat := 0
  arrival : SignalName → Arrival := fun _ => {}

namespace Roll

def now (observation : Observation) (roll : Roll) : Arrival where
  cycle := observation.network.cycle
  taken := roll.sampled.length
  starts := roll.starts
  isDue := observation.recorder.isDue observation.network

def enrol (observation : Observation) (roll : Roll) (name : SignalName) : Roll :=
  { roll with arrival := Function.update roll.arrival name (roll.now observation) }

/-- The roll after an event that did what it was to do, or did not. -/
def enter (observation : Observation) (roll : Roll) : Event → Bool → Roll
  | .add name, true => roll.enrol observation name
  | .reset, _ => { roll with sampled := [], arrival := fun _ => { starts := roll.starts } }
  | .sample, true => { roll with sampled := roll.sampled ++ [observation.network] }
  | .change .coldStart, _ => { roll with starts := roll.starts + 1 }
  | _, _ => roll

def call (events : List Event) : Observation × Roll :=
  events.foldl
    (fun (observation, roll) event =>
      let (next, succeeded) := observation.apply event
      (next, roll.enter observation event succeeded))
    ({}, {})

/-- The samples that an output has by the roll, each as the network at the time. -/
def since (roll : Roll) (name : SignalName) : List Network :=
  roll.sampled.drop (roll.arrival name).taken

def traceOf (roll : Roll) (name : SignalName) : Trace where
  startCycle := (roll.arrival name).cycle
  samples := ((roll.since name).map fun network => network.sampleOf name).toArray

end Roll

/-! ## Cycles in order -/

namespace Arrival

variable {arrival : Arrival} {sampled : List Network} {observation next : Observation}

theorem first_le (arrival : Arrival) : arrival.first ≤ arrival.cycle + 1 := by
  unfold first
  split <;> omega

theorem first_add_isDue (arrival : Arrival) :
    arrival.first + arrival.isDue.toNat = arrival.cycle + 1 := by
  unfold first
  cases arrival.isDue <;> rfl

/-- The samples since an arrival, with no cold start in between, are of cycles in order, the first
that can be sampled or later ones. A sample that is due is of a cycle behind all of these. -/
structure Orders (arrival : Arrival) (sampled : List Network) (observation : Observation) :
    Prop where
  ordered : sampled.Pairwise fun earlier later => earlier.cycle < later.cycle
  first : ∀ network ∈ sampled, arrival.first ≤ network.cycle
  cycle : arrival.cycle ≤ observation.network.cycle
  upTo : ∀ network ∈ sampled, network.cycle ≤ observation.network.cycle
  due : observation.recorder.isDue observation.network →
    arrival.first ≤ observation.network.cycle ∧
      ∀ network ∈ sampled, network.cycle < observation.network.cycle

theorem Orders.of_eq (h : arrival.Orders sampled observation)
    (hcycle : next.network.cycle = observation.network.cycle)
    (hlast : next.recorder.lastSampled = observation.recorder.lastSampled) :
    arrival.Orders sampled next := by
  have hdue : next.recorder.isDue next.network =
      observation.recorder.isDue observation.network := by
    rw [Recorder.isDue, hcycle, hlast, Recorder.isDue]
  obtain ⟨hordered, hfirst, harrival, hupTo, hnext⟩ := h
  rw [← hcycle] at harrival
  simp only [← hcycle, ← hdue] at hupTo hnext
  exact ⟨hordered, hfirst, harrival, hupTo, hnext⟩

theorem Orders.cycle_succ (h : arrival.Orders sampled observation)
    (hcycle : next.network.cycle = observation.network.cycle + 1) :
    arrival.Orders sampled next where
  ordered := h.ordered
  first := h.first
  cycle := by
    have hle := h.cycle
    omega
  upTo := fun network hnetwork => by
    have hle := h.upTo network hnetwork
    omega
  due := fun _ => by
    have hle := h.cycle
    have hfirst := arrival.first_le
    refine ⟨by omega, fun network hnetwork => ?_⟩
    have hle := h.upTo network hnetwork
    omega

theorem Orders.append (h : arrival.Orders sampled observation)
    (hdue : observation.recorder.isDue observation.network)
    (hcycle : next.network.cycle = observation.network.cycle)
    (hlast : next.recorder.lastSampled = some next.network.cycle) :
    arrival.Orders (sampled ++ [observation.network]) next := by
  obtain ⟨hfirst, hearlier⟩ := h.due hdue
  refine ⟨?_, ?_, ?_, ?_, ?_⟩
  · refine List.pairwise_append.2 ⟨h.ordered, List.pairwise_singleton _ _, ?_⟩
    intro network hnetwork last hlast
    rw [List.mem_singleton.1 hlast]
    exact hearlier network hnetwork
  · simpa [or_imp, forall_and] using ⟨h.first, hfirst⟩
  · rw [hcycle]
    exact h.cycle
  · rw [hcycle]
    simpa [or_imp, forall_and] using h.upTo
  · intro hagain
    exact absurd hlast (Recorder.isDue_iff.1 hagain).2

theorem add_le_cycle {first : Nat}
    (h : sampled.Pairwise fun earlier later => earlier.cycle < later.cycle)
    (hfirst : ∀ network ∈ sampled, first ≤ network.cycle) {i : Nat} {network : Network}
    (hi : sampled[i]? = some network) : first + i ≤ network.cycle := by
  induction sampled generalizing first i with
  | nil => cases hi
  | cons head rest ih =>
      obtain ⟨hhead, hrest⟩ := List.pairwise_cons.1 h
      have hle := hfirst head List.mem_cons_self
      cases i with
      | zero =>
          cases hi
          exact hle
      | succ i =>
          have hbehind : first + 1 + i ≤ network.cycle := by
            refine ih hrest (fun later hlater => ?_) hi
            have hlt := hhead later hlater
            omega
          omega

variable {i j : Nat} {network other : Network}

theorem Orders.add_le (h : arrival.Orders sampled observation) (hi : sampled[i]? = some network) :
    arrival.cycle + i + 1 ≤ network.cycle + arrival.isDue.toNat := by
  have hle := add_le_cycle h.ordered h.first hi
  have hfirst := arrival.first_add_isDue
  omega

theorem Orders.lt_of_lt (h : arrival.Orders sampled observation) (hi : sampled[i]? = some network)
    (hj : sampled[j]? = some other) (hlt : i < j) : network.cycle < other.cycle := by
  obtain ⟨hilt, rfl⟩ := List.getElem?_eq_some_iff.1 hi
  obtain ⟨hjlt, rfl⟩ := List.getElem?_eq_some_iff.1 hj
  exact List.pairwise_iff_getElem.1 h.ordered i j hilt hjlt hlt

theorem Orders.index_eq (h : arrival.Orders sampled observation) (hi : sampled[i]? = some network)
    (hj : sampled[j]? = some other) (hsame : network.cycle = other.cycle) : i = j := by
  rcases Nat.lt_trichotomy i j with hlt | heq | hlt
  · exact absurd hsame (h.lt_of_lt hi hj hlt).ne
  · exact heq
  · exact absurd hsame (h.lt_of_lt hj hi hlt).ne'

/-- A sample is of a cycle after the arrival, or it is the one that was due then. -/
theorem Orders.lt_or_due (h : arrival.Orders sampled observation)
    (hi : sampled[i]? = some network) :
    arrival.cycle < network.cycle ∨ arrival.isDue ∧ i = 0 ∧ network.cycle = arrival.cycle := by
  have hle := add_le_cycle h.ordered h.first hi
  unfold Arrival.first at hle
  split at hle
  · next hdue =>
    rcases Nat.lt_or_ge arrival.cycle network.cycle with hlt | hge
    · exact .inl hlt
    · exact .inr ⟨hdue, by omega, by omega⟩
  · exact .inl (by omega)

theorem Orders.length_le (h : arrival.Orders sampled observation) :
    arrival.cycle + sampled.length ≤ observation.network.cycle + arrival.isDue.toNat := by
  cases hlast : sampled.getLast? with
  | none =>
      rw [List.getLast?_eq_none_iff.1 hlast]
      exact Nat.le_add_right_of_le h.cycle
  | some last =>
      have hpositive : 0 < sampled.length :=
        List.length_pos_of_mem (List.mem_of_getLast? hlast)
      rw [List.getLast?_eq_getElem?] at hlast
      have hle := h.add_le hlast
      have hupTo := h.upTo last (List.mem_of_getElem? hlast)
      omega

end Arrival

/-! ## One event -/

namespace Roll

variable {observation : Observation} {roll : Roll}

structure Lists (roll : Roll) (observation : Observation) (entry : SignalName × Trace) : Prop where
  trace : entry.2 = roll.traceOf entry.1
  taken : (roll.arrival entry.1).taken ≤ roll.sampled.length
  starts : (roll.arrival entry.1).starts ≤ roll.starts
  orders : (roll.arrival entry.1).starts = roll.starts →
    (roll.arrival entry.1).Orders (roll.since entry.1) observation

def Tells (roll : Roll) (observation : Observation) : Prop :=
  ∀ entry ∈ observation.recorder.entries, roll.Lists observation entry

theorem Lists.of_eq {next : Roll} {after : Observation} {entry : SignalName × Trace}
    (h : roll.Lists observation entry) (harrival : next.arrival entry.1 = roll.arrival entry.1)
    (hsampled : next.sampled = roll.sampled) (hstarts : next.starts = roll.starts)
    (hcycle : after.network.cycle = observation.network.cycle)
    (hlast : after.recorder.lastSampled = observation.recorder.lastSampled) :
    next.Lists after entry := by
  obtain ⟨htrace, htaken, hearlier, horders⟩ := h
  have hsince : next.since entry.1 = roll.since entry.1 := by
    rw [since, since, harrival, hsampled]
  refine ⟨?_, ?_, ?_, ?_⟩
  · rw [htrace, traceOf, traceOf, harrival, hsince]
  · rwa [harrival, hsampled]
  · rwa [harrival, hstarts]
  · rw [harrival, hstarts, hsince]
    exact fun hsame => (horders hsame).of_eq hcycle hlast

theorem Tells.of_eq {after : Observation} (h : roll.Tells observation)
    (hentries : ∀ entry ∈ after.recorder.entries, entry ∈ observation.recorder.entries)
    (hcycle : after.network.cycle = observation.network.cycle)
    (hlast : after.recorder.lastSampled = observation.recorder.lastSampled) : roll.Tells after :=
  fun entry hentry => (h entry (hentries entry hentry)).of_eq rfl rfl rfl hcycle hlast

theorem arrival_enrol_self (observation : Observation) (roll : Roll) (name : SignalName) :
    (roll.enrol observation name).arrival name = roll.now observation := by
  simp [enrol]

theorem arrival_enrol_of_ne {name other : SignalName} (h : other ≠ name) :
    (roll.enrol observation name).arrival other = roll.arrival other := by
  simp [enrol, h]

theorem since_enrol_self (observation : Observation) (roll : Roll) (name : SignalName) :
    (roll.enrol observation name).since name = [] := by
  rw [since, arrival_enrol_self]
  exact List.drop_length

theorem orders_now (observation : Observation) (roll : Roll) :
    (roll.now observation).Orders [] observation := by
  refine ⟨.nil, by simp, Nat.le_refl _, by simp, fun hdue => ⟨?_, by simp⟩⟩
  have hnow : (roll.now observation).isDue = true := hdue
  rw [Arrival.first, if_pos hnow]
  rfl

theorem lists_enrol (observation : Observation) (roll : Roll) (name : SignalName)
    {after : Observation} (hcycle : after.network.cycle = observation.network.cycle)
    (hlast : after.recorder.lastSampled = observation.recorder.lastSampled) :
    (roll.enrol observation name).Lists after
      (name, { startCycle := observation.network.cycle }) := by
  refine ⟨?_, ?_, ?_, fun _ => ?_⟩
  · rw [traceOf, since_enrol_self, arrival_enrol_self]
    rfl
  · rw [arrival_enrol_self]
    exact Nat.le_refl _
  · rw [arrival_enrol_self]
    exact Nat.le_refl _
  · rw [since_enrol_self, arrival_enrol_self]
    exact (orders_now observation roll).of_eq hcycle hlast

theorem Tells.add (h : roll.Tells observation) (name : SignalName) :
    (roll.enter observation (.add name) (observation.apply (.add name)).2).Tells
      (observation.apply (.add name)).1 := by
  rw [Observation.apply]
  cases hadd : observation.recorder.add observation.network name with
  | error cause => exact h
  | ok next =>
      obtain ⟨-, hnew, -, rfl⟩ := Recorder.add_eq_ok_iff.1 hadd
      intro entry hentry
      rcases List.mem_append.1 hentry with hold | hlast
      · have hne : entry.1 ≠ name := by
          rintro rfl
          exact hnew (List.mem_map_of_mem hold)
        exact (h entry hold).of_eq (arrival_enrol_of_ne hne) rfl rfl rfl rfl
      · rw [List.mem_singleton.1 hlast]
        exact lists_enrol observation roll name rfl rfl

theorem Tells.remove (h : roll.Tells observation) (name : SignalName) :
    (roll.enter observation (.remove name) (observation.apply (.remove name)).2).Tells
      (observation.apply (.remove name)).1 := by
  rw [Observation.apply]
  cases hremove : observation.recorder.remove name with
  | error cause => exact h
  | ok next =>
      exact h.of_eq (fun _ hentry => (Recorder.entries_remove_sublist hremove).subset hentry) rfl
        (Recorder.lastSampled_of_remove hremove)

theorem tells_reset (observation : Observation) (roll : Roll) :
    (roll.enter observation .reset (observation.apply .reset).2).Tells
      (observation.apply .reset).1 := by
  intro entry hentry
  obtain ⟨old, -, rfl⟩ := List.mem_map.1 hentry
  refine ⟨rfl, Nat.le_refl _, Nat.le_refl _, fun _ => ⟨.nil, by simp [since, enter],
    Nat.zero_le _, by simp [since, enter], fun hdue => ⟨?_, by simp [since, enter]⟩⟩⟩
  exact Nat.one_le_iff_ne_zero.2 (Recorder.isDue_iff.1 hdue).1

theorem Tells.sample (h : roll.Tells observation) :
    (roll.enter observation .sample (observation.apply .sample).2).Tells
      (observation.apply .sample).1 := by
  by_cases hdue : observation.recorder.isDue observation.network
  · rw [Observation.apply_sample_of_isDue hdue]
    intro entry hentry
    obtain ⟨old, hold, rfl⟩ := List.mem_map.1 hentry
    obtain ⟨htrace, htaken, hstarts, horders⟩ := h old hold
    have hsince : (roll.enter observation .sample true).since old.1 =
        roll.since old.1 ++ [observation.network] := by
      simp only [since, enter]
      rw [List.drop_append_of_le_length htaken]
    constructor
    · simp only [traceOf, hsince, htrace, Recorder.extend, List.map_append, List.push_toArray]
      rfl
    · simp only [enter, List.length_append]
      omega
    · exact hstarts
    · intro hsame
      rw [hsince]
      exact (horders hsame).append hdue rfl rfl
  · rw [Observation.apply_sample_of_not_isDue hdue]
    exact h

theorem Tells.change (h : roll.Tells observation) (change : Network.Change) :
    (roll.enter observation (.change change) (observation.apply (.change change)).2).Tells
      (observation.apply (.change change)).1 := by
  have hcycle := observation.network.cycle_apply change
  cases change with
  | cycle simulator =>
      cases hsucceeded : (observation.network.apply (.cycle simulator)).2 with
      | true =>
          rw [hsucceeded] at hcycle
          intro entry hentry
          obtain ⟨htrace, htaken, hstarts, horders⟩ := h entry hentry
          exact ⟨htrace, htaken, hstarts, fun hsame => (horders hsame).cycle_succ hcycle⟩
      | false =>
          rw [hsucceeded] at hcycle
          exact h.of_eq (fun _ hentry => hentry) hcycle rfl
  | coldStart =>
      intro entry hentry
      obtain ⟨htrace, htaken, hstarts, -⟩ := h entry hentry
      exact ⟨htrace, htaken, Nat.le_succ_of_le hstarts,
        fun hsame => absurd hsame (Nat.lt_succ_of_le hstarts).ne⟩
  | _ => exact h.of_eq (fun _ hentry => hentry) hcycle rfl

theorem Tells.apply (h : roll.Tells observation) (event : Event) :
    (roll.enter observation event (observation.apply event).2).Tells
      (observation.apply event).1 := by
  cases event with
  | add name => exact h.add name
  | remove name => exact h.remove name
  | reset => exact tells_reset observation roll
  | sample => exact h.sample
  | change change => exact h.change change

/-! ## All events -/

theorem fst_call (events : List Event) : (call events).1 = (Observation.applyAll events).1 := by
  induction events using List.reverseRecOn with
  | nil => rfl
  | append_singleton events event ih =>
      rw [call, Observation.applyAll, List.foldl_concat, List.foldl_concat]
      exact congrArg (fun observation : Observation => (observation.apply event).1) ih

theorem tells_call (events : List Event) : (call events).2.Tells (call events).1 := by
  induction events using List.reverseRecOn with
  | nil =>
      intro entry hentry
      cases hentry
  | append_singleton events event ih =>
      rw [call, List.foldl_concat]
      exact ih.apply event

/-- Samples of the same cycle in two traces were taken by the same call. -/
theorem Tells.index_eq (h : roll.Tells observation) {entry other : SignalName × Trace}
    (hentry : entry ∈ observation.recorder.entries)
    (hsame : (roll.arrival entry.1).starts = roll.starts)
    (hle : (roll.arrival entry.1).taken ≤ (roll.arrival other.1).taken) {i j : Nat}
    {network network' : Network} (hi : (roll.since entry.1)[i]? = some network)
    (hj : (roll.since other.1)[j]? = some network') (hcycle : network.cycle = network'.cycle) :
    (roll.arrival entry.1).taken + i = (roll.arrival other.1).taken + j := by
  have hshift : (roll.since entry.1)[(roll.arrival other.1).taken + j -
      (roll.arrival entry.1).taken]? = some network' := by
    rw [← hj, since, since, List.getElem?_drop, List.getElem?_drop]
    congr 1
    omega
  have hindex := ((h entry hentry).orders hsame).index_eq hi hshift hcycle
  omega

end Roll

namespace Observation

/-- After any events a trace has the levels of its output at the samples taken since it was added.
If there was no cold start since then, they are of different cycles in order, later ones than those
completed when the output was added. Only if a sample was due at that time, the first one can be of
the last of those. A sample stands in the column of its cycle or further left, or in the next column
at most if a sample was due. Samples of one cycle stand in the same column of two traces exactly if
as many cycles were completed as samples were taken between the additions of their outputs. -/
theorem samples_since_added (events : List Event) :
    let observation := (applyAll events).1
    let roll := (Roll.call events).2
    ∀ entry ∈ observation.recorder.entries,
      let arrival := roll.arrival entry.1
      let sampled := roll.sampled.drop arrival.taken
      entry.2 =
        { startCycle := arrival.cycle
          samples := (sampled.map fun network => network.sampleOf entry.1).toArray } ∧
      (arrival.starts = roll.starts →
        (∀ i network, sampled[i]? = some network →
          (arrival.cycle < network.cycle ∨
            arrival.isDue ∧ i = 0 ∧ network.cycle = arrival.cycle) ∧
          entry.2.startCycle + i + 1 ≤ network.cycle + arrival.isDue.toNat ∧
          network.cycle ≤ observation.network.cycle) ∧
        entry.2.startCycle + entry.2.samples.size ≤
          observation.network.cycle + arrival.isDue.toNat ∧
        ∀ other ∈ observation.recorder.entries,
          let otherArrival := roll.arrival other.1
          otherArrival.starts = roll.starts →
            ∀ i j network network', sampled[i]? = some network →
              (roll.sampled.drop otherArrival.taken)[j]? = some network' →
              network.cycle = network'.cycle →
              (entry.2.startCycle + i = other.2.startCycle + j ↔
                arrival.cycle + otherArrival.taken = otherArrival.cycle + arrival.taken)) := by
  intro observation roll entry hentry arrival sampled
  have htells : roll.Tells observation := by
    have h := Roll.tells_call events
    rwa [Roll.fst_call] at h
  have htrace := (htells entry hentry).trace
  have hstart : entry.2.startCycle = arrival.cycle := congrArg Trace.startCycle htrace
  refine ⟨htrace, fun hsame => ⟨fun i network hi => ?_, ?_, ?_⟩⟩
  · have horders := (htells entry hentry).orders hsame
    rw [hstart]
    exact ⟨horders.lt_or_due hi, horders.add_le hi, horders.upTo network (List.mem_of_getElem? hi)⟩
  · have hsize : entry.2.samples.size = sampled.length := by
      rw [htrace]
      simp [Roll.traceOf, Roll.since, sampled, arrival]
    rw [hstart, hsize]
    exact ((htells entry hentry).orders hsame).length_le
  · intro other hother otherArrival hothersame i j network network' hi hj hcycle
    have hotherstart : other.2.startCycle = otherArrival.cycle :=
      congrArg Trace.startCycle (htells other hother).trace
    have hindex : arrival.taken + i = otherArrival.taken + j := by
      rcases Nat.le_total arrival.taken otherArrival.taken with hle | hle
      · exact htells.index_eq hentry hsame hle hi hj hcycle
      · exact (htells.index_eq hother hothersame hle hj hi hcycle.symm).symm
    rw [hstart, hotherstart]
    omega

/-- The second switch is added after the first cycle and gets a sample of it all the same. That one
stands in the second column, and the one of the first switch in the first. -/
theorem added_output_gets_past_sample :
    let simulator : Simulator := ⟨{}, {}, {}, defaultMaxPasses, []⟩
    let events : List Event := [.change (.addDevice "S1" (.switch ⟨true⟩)),
      .change (.addDevice "S2" (.switch ⟨false⟩)), .change .coldStart, .add ⟨"S1", .out⟩,
      .change (.cycle simulator), .add ⟨"S2", .out⟩]
    let observation := (applyAll events).1
    observation.network.cycle = 1 ∧
      observation.recorder.entries = [(⟨"S1", .out⟩, ⟨0, #[]⟩), (⟨"S2", .out⟩, ⟨1, #[]⟩)] ∧
      (observation.recorder.sample observation.network).entries =
        [(⟨"S1", .out⟩, ⟨0, #[.high]⟩), (⟨"S2", .out⟩, ⟨1, #[.low]⟩)] := by
  decide

end Observation

end LogicBench
