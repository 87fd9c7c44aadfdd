import LogicBench.Device.FlipFlop
import Mathlib.Data.List.Induction

/-!
# What a flip-flop remembers

Of all the levels that a flip-flop has been given, one latching decides what it stores: the last one
in which set or clear was high or the clock rose. A rise of the clock that set or clear has hidden
is lost. As long as the clock stays high afterwards, the stored bit is made by set and clear alone.
-/

namespace LogicBench.FlipFlop

structure Levels where
  data : Bool
  clock : Bool
  set : Bool
  clear : Bool
  deriving DecidableEq, Repr

/-- Whether set or clear is high, so that the clock does not matter. -/
def Levels.isForced (levels : Levels) : Bool :=
  levels.set || levels.clear

def latchAll (cell : FlipFlop) (history : List Levels) : FlipFlop :=
  history.foldl
    (fun cell levels => cell.latch levels.data levels.clock levels.set levels.clear) cell

/-- The level of the clock right before a latching; it is low before the first one. -/
def clockBefore (history : List Levels) : Nat → Bool
  | 0 => false
  | i + 1 => history[i]?.any (·.clock)

/-- Whether a latching of a history decides what is stored: set or clear is high, or the clock is
high and was low before. -/
def Decides (history : List Levels) (i : Nat) (levels : Levels) : Prop :=
  history[i]? = some levels ∧
    (levels.set ∨ levels.clear ∨ levels.clock ∧ clockBefore history i = false)

/-- Whether a history leaves a bit in a flip-flop that held zero: the bit that the last deciding
latching asks for, or zero if there is none. -/
def Leaves (history : List Levels) (bit : Bool) : Prop :=
  (∃ i levels, Decides history i levels ∧
    (∀ later other, i < later → ¬ Decides history later other) ∧
    bit = if levels.set then true else if levels.clear then false else levels.data) ∨
  (∀ i levels, ¬ Decides history i levels) ∧ bit = false

variable {history : List Levels} {last levels : Levels} {i : Nat} {bit : Bool}

theorem latchAll_append (cell : FlipFlop) (first second : List Levels) :
    cell.latchAll (first ++ second) = (cell.latchAll first).latchAll second :=
  List.foldl_append

theorem latchAll_concat (cell : FlipFlop) (history : List Levels) (last : Levels) :
    cell.latchAll (history ++ [last]) =
      (cell.latchAll history).latch last.data last.clock last.set last.clear := by
  rw [latchAll_append]
  rfl

theorem clockBefore_concat (h : i ≤ history.length) (last : Levels) :
    clockBefore (history ++ [last]) i = clockBefore history i := by
  cases i with
  | zero => rfl
  | succ i => rw [clockBefore, clockBefore, List.getElem?_append_left (by omega)]

/-- A flip-flop remembers the clock level of the last latching, whatever else happened in it. -/
theorem lastClock_latchAll_reset (cell : FlipFlop) (history : List Levels) :
    (cell.reset.latchAll history).lastClock = clockBefore history history.length := by
  induction history using List.reverseRecOn with
  | nil => rfl
  | append_singleton history last _ =>
      rw [latchAll_concat, lastClock_latch, List.length_append, List.length_singleton, clockBefore,
        List.getElem?_concat_length, Option.any_some]

/-! ## Deciding latchings -/

theorem Decides.lt_length (h : Decides history i levels) : i < history.length :=
  (List.getElem?_eq_some_iff.1 h.1).1

theorem decides_concat_of_lt (h : i < history.length) (last : Levels) :
    Decides (history ++ [last]) i levels ↔ Decides history i levels := by
  rw [Decides, Decides, List.getElem?_append_left h, clockBefore_concat (Nat.le_of_lt h)]

theorem decides_concat_length (history : List Levels) (last : Levels) :
    Decides (history ++ [last]) history.length last ↔
      last.set ∨ last.clear ∨ last.clock ∧ clockBefore history history.length = false := by
  rw [Decides, List.getElem?_concat_length, clockBefore_concat (Nat.le_refl _)]
  exact and_iff_right rfl

theorem Decides.of_concat (h : Decides (history ++ [last]) i levels) :
    Decides history i levels ∨ i = history.length ∧ levels = last := by
  by_cases hlt : i < history.length
  · exact .inl ((decides_concat_of_lt hlt last).1 h)
  · have hbound := h.lt_length
    rw [List.length_append, List.length_singleton] at hbound
    obtain rfl : i = history.length := by omega
    have hlast := h.1
    rw [List.getElem?_concat_length] at hlast
    exact .inr ⟨rfl, (Option.some.inj hlast).symm⟩

theorem leaves_concat_of_decides (h : Decides (history ++ [last]) history.length last) :
    Leaves (history ++ [last])
      (if last.set then true else if last.clear then false else last.data) := by
  refine .inl ⟨history.length, last, h, fun later other hlater hdecides => ?_, rfl⟩
  have hbound := hdecides.lt_length
  rw [List.length_append, List.length_singleton] at hbound
  omega

theorem Leaves.concat (h : Leaves history bit)
    (hlast : ¬ Decides (history ++ [last]) history.length last) :
    Leaves (history ++ [last]) bit := by
  have hsame {i : Nat} {levels : Levels} (hdecides : Decides (history ++ [last]) i levels) :
      Decides history i levels := by
    rcases hdecides.of_concat with hold | ⟨rfl, rfl⟩
    · exact hold
    · exact absurd hdecides hlast
  rcases h with ⟨i, levels, hdecides, hnone, hbit⟩ | ⟨hnone, hbit⟩
  · refine .inl ⟨i, levels, (decides_concat_of_lt hdecides.lt_length last).2 hdecides, ?_, hbit⟩
    exact fun later other hlater hother => hnone later other hlater (hsame hother)
  · exact .inr ⟨fun i levels hdecides => hnone i levels (hsame hdecides), hbit⟩

theorem leaves_latchAll_reset (cell : FlipFlop) (history : List Levels) :
    Leaves history (cell.reset.latchAll history).stored := by
  induction history using List.reverseRecOn with
  | nil =>
      refine .inr ⟨fun i levels hdecides => ?_, rfl⟩
      exact absurd hdecides.lt_length (Nat.not_lt_zero i)
  | append_singleton history last ih =>
      have hclock := lastClock_latchAll_reset cell history
      have hlast := decides_concat_length history last
      rw [latchAll_concat, latch, hclock]
      by_cases hdecides : Decides (history ++ [last]) history.length last
      · have hleaves := leaves_concat_of_decides hdecides
        rw [hlast] at hdecides
        -- Without set and clear the latching decides by a rise, and then data is stored.
        have hdata : last.set = false → last.clear = false →
            (last.clock && !clockBefore history history.length) = true := by
          intro hset hclear
          simpa [hset, hclear] using hdecides
        cases hset : last.set <;> cases hclear : last.clear <;>
          simp_all
      · have hold := ih.concat hdecides
        rw [hlast] at hdecides
        simp only [not_or] at hdecides
        obtain ⟨hset, hclear, hrise⟩ := hdecides
        have hstill : (last.clock && !clockBefore history history.length) = false := by
          simpa using hrise
        simpa [hset, hclear, hstill] using hold

theorem Leaves.unique {other : Bool} (h : Leaves history bit) (hother : Leaves history other) :
    bit = other := by
  rcases h with ⟨i, levels, hdecides, hnone, rfl⟩ | ⟨hnone, rfl⟩ <;>
    rcases hother with ⟨j, others, hdecidesOther, hnoneOther, rfl⟩ | ⟨hnoneOther, rfl⟩
  · have hnotLater : ¬ i < j := fun hlt => hnone j others hlt hdecidesOther
    have hnotEarlier : ¬ j < i := fun hlt => hnoneOther i levels hlt hdecides
    obtain rfl : i = j := by omega
    obtain rfl : levels = others := Option.some.inj (hdecides.1.symm.trans hdecidesOther.1)
    rfl
  · exact absurd hdecides (hnoneOther i levels)
  · exact absurd hdecidesOther (hnone j others)
  · rfl

/-- The history since the reset leaves the bit that is stored, and no other. -/
theorem stored_eq_iff_leaves (cell : FlipFlop) (history : List Levels) (bit : Bool) :
    (cell.reset.latchAll history).stored = bit ↔ Leaves history bit := by
  constructor
  · rintro rfl
    exact leaves_latchAll_reset cell history
  · exact (leaves_latchAll_reset cell history).unique

/-! ## Hidden rises -/

theorem stored_latch_of_isForced (cell : FlipFlop) (h : levels.isForced) :
    (cell.latch levels.data levels.clock levels.set levels.clear).stored = levels.set := by
  rw [Levels.isForced, Bool.or_eq_true] at h
  cases hset : levels.set with
  | true => rfl
  | false =>
      have hclear : levels.clear = true := by simpa [hset] using h
      simp [latch, hclear]

theorem stored_latch_of_lastClock {cell : FlipFlop} (h : levels.isForced = false)
    (hclock : cell.lastClock) :
    (cell.latch levels.data levels.clock levels.set levels.clear).stored = cell.stored := by
  obtain ⟨hset, hclear⟩ := Bool.or_eq_false_iff.1 h
  simp [latch, hset, hclear, hclock]

theorem lastClock_latchAll_cons (cell : FlipFlop) {held : List Levels} (hclock : levels.clock)
    (hheld : ∀ later ∈ held, later.clock) : (cell.latchAll (levels :: held)).lastClock := by
  cases held using List.reverseRecOn with
  | nil => exact hclock
  | append_singleton earlier last =>
      rw [← List.cons_append, latchAll_concat, lastClock_latch]
      exact hheld last (by simp)

/-- Once set or clear has hidden a rise, the stored bit is what the last of set and clear has made
it, as long as the clock stays high. -/
theorem stored_latchAll_of_hidden (cell : FlipFlop) {hidden : Levels} {held : List Levels}
    (hclock : hidden.clock) (hhidden : hidden.isForced) (hheld : ∀ later ∈ held, later.clock) :
    (cell.latchAll (hidden :: held)).stored =
      ((hidden :: held).filter Levels.isForced).getLast?.any (·.set) := by
  induction held using List.reverseRecOn with
  | nil =>
      rw [List.filter_cons_of_pos hhidden]
      exact stored_latch_of_isForced cell hhidden
  | append_singleton held last ih =>
      have hbefore : ∀ later ∈ held, later.clock := fun later hlater =>
        hheld later (List.mem_append_left _ hlater)
      rw [← List.cons_append, latchAll_concat, List.filter_append]
      by_cases hforced : last.isForced
      · rw [stored_latch_of_isForced _ hforced, List.filter_cons_of_pos hforced, List.filter_nil,
          List.getLast?_concat, Option.any_some]
      · have hhigh := lastClock_latchAll_cons cell hclock hbefore
        rw [stored_latch_of_lastClock (by simpa using hforced) hhigh, ih hbefore,
          List.filter_cons_of_neg hforced, List.filter_nil, List.append_nil]

end LogicBench.FlipFlop
