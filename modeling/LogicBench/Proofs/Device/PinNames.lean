import LogicBench.Pin
import LogicBench.Proofs.Text.Decimal
import Mathlib.Tactic.SplitIfs

/-!
# Names of pins

Every pin that can be referred to by a name has one name, and reading the name gives the pin back.
No other text denotes a pin, with one exception: the number of an input may be written behind a plus
sign, and then with zeros in front of it.
-/

namespace LogicBench

namespace Pin

/-- The name of a pin, as it is printed; a sole output has none. -/
def name? : Pin → Option String
  | input pin => some pin.name
  | output pin => pin.suffix?

def HasName (pin : Pin) (text : String) : Prop :=
  pin.name? = some text ∧ ∀ index, pin = input (.numbered index) → 1 ≤ index ∧ index ≤ 255

/-- Whether a text is the name of an input of a gate with a plus sign before the number, and then
any zeros. -/
def IsSigned (text : String) (index : Nat) : Prop :=
  1 ≤ index ∧ index ≤ 255 ∧
    ∃ zeros, text.toList = 'I' :: '+' :: (List.replicate zeros '0' ++ Nat.toDigits 10 index)

variable {pin : Pin} {text : String}

/-! ## Numbered inputs -/

theorem numbered?_of_read {digits : List Char} {index : Nat} (hfront : ∀ rest, digits ≠ '0' :: rest)
    (hread : Decimal.read maxIndex digits = .ok (index + 1)) :
    numbered? ('I' :: digits) = some (input (.numbered (index + 1))) := by
  unfold numbered?
  split
  · next rest heq => exact absurd (List.cons.inj heq).2 (hfront rest)
  · next run _ heq =>
    obtain rfl := (List.cons.inj heq).2
    rw [hread]
  · next hother => exact absurd rfl (hother digits)

/-- The number of an input is written by its digits, or else behind a plus sign and any zeros. -/
theorem numbered?_eq_some_iff {chars : List Char} : numbered? chars = some pin ↔
    ∃ index, 1 ≤ index ∧ index ≤ 255 ∧ pin = input (.numbered index) ∧
      (chars = 'I' :: Nat.toDigits 10 index ∨
        ∃ zeros, chars = 'I' :: '+' :: (List.replicate zeros '0' ++ Nat.toDigits 10 index)) := by
  constructor
  · intro h
    unfold numbered? at h
    split at h
    · cases h
    · next digits hfront =>
      split at h
      · next index hread =>
        obtain rfl := Option.some.inj h
        obtain ⟨run, hrun, -, hdigits, hvalue, hle⟩ := Decimal.read_eq_ok_iff.1 hread
        refine ⟨index + 1, Nat.le_add_left 1 index, hle, rfl, ?_⟩
        obtain ⟨zeros, hzeros⟩ := Decimal.exists_zeros_append hdigits (by omega)
        rw [hvalue] at hzeros
        rcases hrun with rfl | rfl
        · -- Without a plus sign, zeros in front have been refused before.
          cases zeros with
          | zero => exact .inl (congrArg _ hzeros)
          | succ zeros => exact (hfront _ hzeros).elim
        · exact .inr ⟨zeros, congrArg _ (congrArg _ hzeros)⟩
      · cases h
    · cases h
  · rintro ⟨index, hpos, hle, rfl, htext⟩
    obtain ⟨before, rfl⟩ := Nat.exists_eq_add_of_le' hpos
    have hvalue (zeros : Nat) : Nat.ofDigitChars 10
        (List.replicate zeros '0' ++ Nat.toDigits 10 (before + 1)) 0 = before + 1 :=
      Decimal.ofDigitChars_zeros_append zeros (before + 1)
    rcases htext with rfl | ⟨zeros, rfl⟩
    · apply numbered?_of_read (Decimal.toDigits_ne_zero_cons hpos)
      exact Decimal.read_eq_ok_iff.2 ⟨_, .inl rfl, Nat.toDigits_ne_nil,
        fun c hc => Nat.isDigit_of_mem_toDigits (by omega) (by omega) hc, hvalue 0, hle⟩
    · apply numbered?_of_read (by simp)
      exact Decimal.read_eq_ok_iff.2 ⟨_, .inr rfl, by simp [Nat.toDigits_ne_nil],
        fun c hc => Decimal.isDigit_of_mem_zeros_append hc, hvalue zeros, hle⟩

/-! ## All pins -/

theorem ofName?_of_head?_eq (h : text.toList.head? = some 'I') :
    ofName? text = numbered? text.toList := by
  have hother {word : String} (hword : word.toList.head? ≠ some 'I') : text ≠ word := by
    rintro rfl
    exact hword h
  unfold ofName?
  rw [if_neg (hother (by decide)), if_neg (hother (by decide)), if_neg (hother (by decide)),
    if_neg (hother (by decide)), if_neg (hother (by decide)), if_neg (hother (by decide))]

theorem toList_name_numbered (index : Nat) :
    (InputPin.numbered index).name.toList = 'I' :: Nat.toDigits 10 index := by
  simp [InputPin.name]

theorem HasName.ofName?_eq (h : pin.HasName text) : ofName? text = some pin := by
  obtain ⟨hname, hindex⟩ := h
  cases pin with
  | input pin =>
      obtain rfl := Option.some.inj hname
      cases pin with
      | numbered index =>
          obtain ⟨hpos, hle⟩ := hindex index rfl
          have hchars := toList_name_numbered index
          rw [ofName?_of_head?_eq (by rw [hchars]; rfl)]
          exact numbered?_eq_some_iff.2 ⟨index, hpos, hle, rfl, .inl hchars⟩
      | data | clock | set | clear => decide
  | output pin =>
      cases pin with
      | out => cases hname
      | q | qBar =>
          obtain rfl := Option.some.inj hname
          decide

theorem ofName?_eq_some_iff : ofName? text = some pin ↔
    pin.HasName text ∨ ∃ index, pin = input (.numbered index) ∧ IsSigned text index := by
  constructor
  · intro h
    have hnamed {named : Pin} (hname : named.name? = some text)
        (hsome : some named = some pin) (hindex : ∀ index, named ≠ input (.numbered index)) :
        pin.HasName text := by
      obtain rfl := Option.some.inj hsome
      exact ⟨hname, fun index heq => absurd heq (hindex index)⟩
    unfold ofName? at h
    split_ifs at h with hdata hclock hset hclear hq hqBar
    · exact .inl (hnamed (hdata ▸ rfl) h (by simp))
    · exact .inl (hnamed (hclock ▸ rfl) h (by simp))
    · exact .inl (hnamed (hset ▸ rfl) h (by simp))
    · exact .inl (hnamed (hclear ▸ rfl) h (by simp))
    · exact .inl (hnamed (hq ▸ rfl) h (by simp))
    · exact .inl (hnamed (hqBar ▸ rfl) h (by simp))
    · obtain ⟨index, hpos, hle, rfl, hchars | ⟨zeros, hchars⟩⟩ := numbered?_eq_some_iff.1 h
      · have htext : (InputPin.numbered index).name = text := by
          rw [← String.toList_inj, toList_name_numbered, hchars]
        refine .inl ⟨congrArg some htext, fun other heq => ?_⟩
        cases heq
        exact ⟨hpos, hle⟩
      · exact .inr ⟨index, rfl, hpos, hle, zeros, hchars⟩
  · rintro (hname | ⟨index, rfl, hpos, hle, zeros, hchars⟩)
    · exact hname.ofName?_eq
    · rw [ofName?_of_head?_eq (by rw [hchars]; rfl)]
      exact numbered?_eq_some_iff.2 ⟨index, hpos, hle, rfl, .inr ⟨zeros, hchars⟩⟩

theorem HasName.not_isSigned (h : pin.HasName text) (index : Nat) : ¬ IsSigned text index := by
  rintro ⟨hpos, hle, zeros, hchars⟩
  have hnumbered : ofName? text = some (input (.numbered index)) :=
    ofName?_eq_some_iff.2 (.inr ⟨index, rfl, hpos, hle, zeros, hchars⟩)
  obtain rfl := Option.some.inj (hnumbered.symm.trans h.ofName?_eq)
  have hname : (InputPin.numbered index).name = text := Option.some.inj h.1
  rw [← hname, toList_name_numbered] at hchars
  have hplus : '+'.isDigit := Nat.isDigit_of_mem_toDigits (n := index) (b := 10) (by omega)
    (by omega) (by rw [(List.cons.inj hchars).2]; exact List.mem_cons_self)
  cases hplus

theorem exists_toList_name_numbered {index : Nat} (hpos : 1 ≤ index) : ∃ first rest,
    (InputPin.numbered index).name.toList = 'I' :: first :: rest ∧ first ≠ '0' ∧
      (∀ c ∈ first :: rest, c.isDigit) ∧ Nat.ofDigitChars 10 (first :: rest) 0 = index := by
  obtain ⟨first, rest, hdigits⟩ := List.exists_cons_of_ne_nil (Nat.toDigits_ne_nil (b := 10)
    (n := index))
  have hfirst : first ≠ '0' := by
    rintro rfl
    exact Decimal.toDigits_ne_zero_cons hpos rest hdigits
  refine ⟨first, rest, by rw [toList_name_numbered, hdigits], hfirst, fun c hc => ?_, ?_⟩
  · rw [← hdigits] at hc
    exact Nat.isDigit_of_mem_toDigits (by omega) (by omega) hc
  · rw [← hdigits, Nat.ofDigitChars_ten_toDigits]

/-- Exactly the texts that are no signed names denote a pin only by its name. A signed name denotes
the input with its number, and every pin is denoted by its name. -/
theorem names_canonical_up_to_plus (text : String) :
    ((∀ pin, ofName? text = some pin ↔ pin.HasName text) ↔ ∀ index, ¬ IsSigned text index) ∧
    (∀ pin, ofName? text = some pin ↔
      pin.HasName text ∨ ∃ index, pin = input (.numbered index) ∧ IsSigned text index) ∧
    (∀ pin, pin.HasName text → ofName? text = some pin) ∧
    ∀ index, 1 ≤ index → ∃ first rest,
      (InputPin.numbered index).name.toList = 'I' :: first :: rest ∧ first ≠ '0' ∧
        (∀ c ∈ first :: rest, c.isDigit) ∧ Nat.ofDigitChars 10 (first :: rest) 0 = index := by
  refine ⟨⟨fun hcanonical index hsigned => ?_, fun hunsigned pin => ?_⟩,
    fun pin => ofName?_eq_some_iff, fun pin hname => hname.ofName?_eq,
    fun index => exists_toList_name_numbered⟩
  · have hread := ofName?_eq_some_iff.2 (.inr ⟨index, rfl, hsigned⟩)
    exact ((hcanonical _).1 hread).not_isSigned index hsigned
  · rw [ofName?_eq_some_iff]
    refine ⟨fun h => h.resolve_right ?_, .inl⟩
    rintro ⟨index, -, hsigned⟩
    exact hunsigned index hsigned

/-- The third input has a second spelling. -/
theorem signed_number_denotes_input :
    ¬ ∀ text pin, ofName? text = some pin ↔ pin.HasName text := by
  intro h
  have hread : ofName? "I+3" = some (input (.numbered 3)) := by decide
  obtain ⟨hname, -⟩ := (h _ _).1 hread
  revert hname
  decide

end Pin

end LogicBench
