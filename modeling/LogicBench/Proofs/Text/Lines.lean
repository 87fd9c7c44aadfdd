import LogicBench.Text.Lines
import Mathlib.Data.List.TakeWhile
import Mathlib.Data.List.DropRight

/-!
# The lines of a text

A line is a run of characters up to a line feed. What stands before a line feed are lines of their
own, whatever stands behind it.
-/

namespace LogicBench.Text

theorem takeWhile_dropWhile_append {p : Char → Bool} {run after : List Char}
    (hrun : ∀ c ∈ run, p c) (hafter : ∀ c ∈ after.head?, p c = false) :
    (run ++ after).takeWhile p = run ∧ (run ++ after).dropWhile p = after := by
  rw [List.takeWhile_append_of_pos hrun, List.dropWhile_append_of_pos hrun]
  cases after with
  | nil => simp
  | cons c after => simp [hafter c rfl]

theorem head?_dropWhile {p : Char → Bool} (text : List Char) :
    ∀ c ∈ (text.dropWhile p).head?, p c = false := by
  intro c hc
  have hnot := List.head?_dropWhile_not p text
  rw [Option.mem_def.1 hc] at hnot
  simpa using hnot

variable {line earlier later : List Char}

theorem ne_feed_of_mem (h : '\n' ∉ line) : ∀ c ∈ line, decide (c ≠ '\n') = true := by
  intro c hc
  apply decide_eq_true
  rintro rfl
  exact h hc

theorem lines_nil : lines [] = [] := by
  rw [lines, if_pos (show ([] : List Char).isEmpty from rfl)]

theorem lines_feed (h : '\n' ∉ line) (rest : List Char) :
    lines (line ++ '\n' :: rest) = dropReturn line :: lines rest := by
  have hfeed : ∀ c ∈ ('\n' :: rest).head?, decide (c ≠ '\n') = false := by simp
  obtain ⟨htake, hdrop⟩ := takeWhile_dropWhile_append (ne_feed_of_mem h) hfeed
  rw [lines, if_neg (by simp)]
  simp only [htake]
  split
  · next hnil =>
    rw [hdrop] at hnil
    cases hnil
  · next hcons =>
    rw [hdrop] at hcons
    cases hcons
    rfl

/-- A text without a line feed is one line, or none if it is empty. -/
theorem getD_lines (h : '\n' ∉ line) : (lines line)[0]?.getD [] = line := by
  by_cases hnil : line = []
  · rw [hnil, lines_nil]
    rfl
  · have hend : ∀ c ∈ ([] : List Char).head?, decide (c ≠ '\n') = false := by simp
    obtain ⟨htake, hdrop⟩ := takeWhile_dropWhile_append (ne_feed_of_mem h) hend
    rw [List.append_nil] at htake hdrop
    rw [lines, if_neg (by simpa using hnil)]
    simp only [htake]
    split
    · rfl
    · next hcons =>
      rw [hdrop] at hcons
      cases hcons

theorem lines_cons (hfeed : '\n' ∉ line) (hreturn : '\r' ∉ line) (rest : List Char) :
    lines (line ++ '\n' :: rest) = line :: lines rest := by
  have hlast : line.getLast? ≠ some '\r' := fun h => hreturn (List.mem_of_getLast? h)
  rw [lines_feed hfeed, dropReturn, if_neg hlast]

theorem lines_join {rows : List String}
    (h : ∀ row ∈ rows, '\n' ∉ row.toList ∧ '\r' ∉ row.toList) :
    lines (String.join (rows.map (· ++ "\n"))).toList = rows.map String.toList := by
  induction rows with
  | nil => exact lines_nil
  | cons row rest ih =>
      obtain ⟨⟨hfeed, hreturn⟩, hrest⟩ := List.forall_mem_cons.1 h
      have htext : (String.join ((row :: rest).map (· ++ "\n"))).toList =
          row.toList ++ '\n' :: (String.join (rest.map (· ++ "\n"))).toList := by
        simp
      rw [htext, lines_cons hfeed hreturn, ih hrest, List.map_cons]

theorem lines_append (h : ∀ c ∈ earlier.getLast?, c = '\n') (text : List Char) :
    lines (earlier ++ text) = lines earlier ++ lines text ∧
      (lines earlier).length = earlier.count '\n' := by
  generalize hlength : earlier.length = length
  induction length using Nat.strongRecOn generalizing earlier with
  | ind length ih =>
      by_cases hfeed : '\n' ∈ earlier
      · obtain ⟨line, rest, rfl, hline⟩ := List.eq_append_cons_of_mem hfeed
        have hrest : ∀ c ∈ rest.getLast?, c = '\n' := by
          intro c hc
          apply h c
          rw [List.getLast?_append, List.getLast?_cons, Option.mem_def.1 hc]
          rfl
        have hshorter : rest.length < length := by
          rw [← hlength]
          simp
          omega
        obtain ⟨hlines, hcount⟩ := ih rest.length hshorter hrest rfl
        rw [List.append_assoc, List.cons_append, lines_feed hline, lines_feed hline, hlines,
          List.count_append, List.count_cons_self, List.count_eq_zero.2 hline, List.length_cons,
          hcount]
        exact ⟨rfl, (Nat.zero_add _).symm⟩
      · have hnil : earlier = [] := by
          by_contra hne
          have hlast := h _ (List.getLast?_eq_some_getLast hne)
          exact hfeed (hlast ▸ List.getLast_mem hne)
        subst hnil
        rw [lines_nil, List.nil_append]
        exact ⟨rfl, rfl⟩

end LogicBench.Text
