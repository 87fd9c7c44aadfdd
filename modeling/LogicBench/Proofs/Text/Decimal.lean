import LogicBench.Text.Decimal
import Mathlib.Data.List.Induction

/-!
# Numerals

A run of digits stands for a number, its value. Counting gives the value, however long the run is,
but nothing above the largest count; reading gives it if it is within the limit. Runs of the same
value differ in the zeros in front.
-/

namespace LogicBench

namespace Decimal

variable {c : Char} {digits : List Char}

/-! ## Single digits -/

theorem digitValue_lt (h : c.isDigit) : digitValue c < 10 := by
  have hcode : 48 ≤ c.toNat ∧ c.toNat ≤ 57 := Char.isDigit_iff_toNat.1 h
  have hzero : '0'.toNat = 48 := rfl
  unfold digitValue
  omega

theorem digitChar_digitValue (h : c.isDigit) : (digitValue c).digitChar = c := by
  have hcode : 48 ≤ c.toNat ∧ c.toNat ≤ 57 := Char.isDigit_iff_toNat.1 h
  have hzero : '0'.toNat = 48 := rfl
  apply Char.toNat_inj.1
  rw [Nat.toNat_digitChar_of_lt_ten (digitValue_lt h), digitValue]
  omega

theorem ofDigitChars_concat (digits : List Char) (c : Char) :
    Nat.ofDigitChars 10 (digits ++ [c]) 0 = 10 * Nat.ofDigitChars 10 digits 0 + digitValue c := by
  rw [Nat.ofDigitChars_append, Nat.ofDigitChars_cons, Nat.ofDigitChars_nil]
  rfl

theorem le_ofDigitChars (digits : List Char) (value : Nat) :
    value ≤ Nat.ofDigitChars 10 digits value := by
  induction digits generalizing value with
  | nil => exact Nat.le_refl _
  | cons c rest ih =>
      rw [Nat.ofDigitChars_cons]
      have hrest := ih (10 * value + (c.toNat - '0'.toNat))
      omega

/-! ## Counting -/

def value (digits : String) : Nat :=
  Nat.ofDigitChars 10 digits.toList 0

theorem utf8Size_of_isDigit (h : c.isDigit) : c.utf8Size = 1 := by
  rw [Char.utf8Size_eq_one_iff, UInt32.le_iff_toNat_le]
  exact Nat.le_trans (Char.isDigit_iff_toNat.1 h).2 (by decide)

theorem countStep_of_isDigit (h : c.isDigit) (sum : Nat) :
    countStep sum c.val.toUInt8 = min (sum * 10 + (c.toNat - '0'.toNat)) maxCount := by
  have hrange : 48 ≤ c.val.toNat ∧ c.val.toNat ≤ 57 := Char.isDigit_iff_toNat.1 h
  have hbyte : c.val.toUInt8.toNat = c.val.toNat := by
    rw [UInt32.toNat_toUInt8]
    omega
  have hdigit : (c.val.toUInt8 - 48).toNat = c.toNat - '0'.toNat := by
    rw [UInt8.toNat_sub_of_le]
    · rw [hbyte]
      rfl
    · rw [UInt8.le_iff_toNat_le, hbyte]
      exact hrange.1
  rw [countStep, hdigit]
  omega

/-- A count that has reached its limit on the way is at its limit in the end, and one that has not
is exact. -/
theorem foldl_countStep (h : ∀ c ∈ digits, c.isDigit) (sum : Nat) :
    (digits.flatMap String.utf8EncodeChar).foldl countStep (min sum maxCount) =
      min (Nat.ofDigitChars 10 digits sum) maxCount := by
  induction digits generalizing sum with
  | nil => rfl
  | cons c rest ih =>
      have hc := h c List.mem_cons_self
      have hstep : countStep (min sum maxCount) c.val.toUInt8 =
          min (10 * sum + (c.toNat - '0'.toNat)) maxCount := by
        rw [countStep_of_isDigit hc]
        omega
      rw [List.flatMap_cons, String.utf8EncodeChar_eq_singleton (utf8Size_of_isDigit hc),
        List.singleton_append, List.foldl_cons, hstep, Nat.ofDigitChars_cons]
      exact ih (fun other hother => h other (List.mem_cons_of_mem c hother)) _

theorem count_eq_min_value {digits : String} (h : ∀ c ∈ digits.toList, c.isDigit) :
    count digits = min (value digits) maxCount :=
  foldl_countStep h 0

/-! ## Reading -/

theorem readDigits_eq_ok_iff {limit value n : Nat} (hvalue : value ≤ limit) :
    readDigits limit value digits = .ok n ↔
      (∀ c ∈ digits, c.isDigit) ∧ Nat.ofDigitChars 10 digits value = n ∧ n ≤ limit := by
  induction digits generalizing value with
  | nil =>
      simp only [readDigits, Except.ok.injEq, Nat.ofDigitChars_nil, List.not_mem_nil,
        false_imp_iff, implies_true, true_and]
      omega
  | cons c rest ih =>
      have hnext : value * 10 + digitValue c = 10 * value + (c.toNat - '0'.toNat) := by
        rw [Nat.mul_comm, digitValue]
      rw [readDigits, Nat.ofDigitChars_cons, List.forall_mem_cons, hnext]
      dsimp only
      split
      · next hdigit =>
        split
        · next hle =>
          simp only [hdigit, true_and]
          exact ih hle
        · next hgt =>
          -- Further digits do not make the number smaller.
          have hgrows := le_ofDigitChars rest (10 * value + (c.toNat - '0'.toNat))
          constructor
          · intro h
            cases h
          · rintro ⟨-, heq, hle⟩
            omega
      · next hdigit => simp [hdigit]

theorem read_eq_ok_iff {limit n : Nat} {text : List Char} :
    read limit text = .ok n ↔ ∃ digits, (text = digits ∨ text = '+' :: digits) ∧ digits ≠ [] ∧
      (∀ c ∈ digits, c.isDigit) ∧ Nat.ofDigitChars 10 digits 0 = n ∧ n ≤ limit := by
  have hplus : '+'.isDigit = false := rfl
  unfold read
  split
  · simp
  · constructor
    · intro h
      cases h
    · rintro ⟨digits, htext | htext, hne, hdigits, -⟩
      · subst htext
        simp [hplus] at hdigits
      · exact absurd (List.cons.inj htext).2.symm hne
  · next digits hne =>
    rw [readDigits_eq_ok_iff (Nat.zero_le _)]
    constructor
    · intro h
      exact ⟨digits, .inr rfl, fun hnil => hne (hnil ▸ rfl), h⟩
    · rintro ⟨other, htext | htext, -, hdigits, h⟩
      · subst htext
        simp [hplus] at hdigits
      · obtain rfl := (List.cons.inj htext).2
        exact ⟨hdigits, h⟩
  · next hnil _ hsigned =>
    rw [readDigits_eq_ok_iff (Nat.zero_le _)]
    constructor
    · intro h
      exact ⟨_, .inl rfl, hnil, h⟩
    · rintro ⟨digits, rfl | htext, -, h⟩
      · exact h
      · exact absurd htext (hsigned digits)

/-! ## Zeros in front -/

theorem eq_replicate_zero (h : ∀ c ∈ digits, c.isDigit)
    (hzero : Nat.ofDigitChars 10 digits 0 = 0) :
    digits = List.replicate digits.length '0' := by
  induction digits using List.reverseRecOn with
  | nil => rfl
  | append_singleton front last ih =>
      rw [ofDigitChars_concat] at hzero
      have hfront := ih (fun c hc => h c (List.mem_append_left _ hc)) (by omega)
      have hlast : last = '0' := by
        rw [← digitChar_digitValue (h last (by simp)), show digitValue last = 0 by omega]
        rfl
      rw [hlast, List.length_append, List.length_singleton, List.replicate_succ', ← hfront]

theorem exists_zeros_append (h : ∀ c ∈ digits, c.isDigit)
    (hpos : 0 < Nat.ofDigitChars 10 digits 0) : ∃ zeros,
      digits = List.replicate zeros '0' ++ Nat.toDigits 10 (Nat.ofDigitChars 10 digits 0) := by
  induction digits using List.reverseRecOn with
  | nil => exact absurd hpos (Nat.lt_irrefl 0)
  | append_singleton front last ih =>
      have hfront : ∀ c ∈ front, c.isDigit := fun c hc => h c (List.mem_append_left _ hc)
      have hdigit : last.isDigit := h last (by simp)
      have hlast : Nat.toDigits 10 (digitValue last) = [last] := by
        rw [Nat.toDigits_of_lt_base (digitValue_lt hdigit), digitChar_digitValue hdigit]
      rw [ofDigitChars_concat]
      by_cases hzero : Nat.ofDigitChars 10 front 0 = 0
      · refine ⟨front.length, ?_⟩
        rw [hzero, Nat.mul_zero, Nat.zero_add, hlast, ← eq_replicate_zero hfront hzero]
      · obtain ⟨zeros, hzeros⟩ := ih hfront (Nat.pos_of_ne_zero hzero)
        refine ⟨zeros, ?_⟩
        rw [← Nat.toDigits_append_toDigits (by omega) (Nat.pos_of_ne_zero hzero)
          (digitValue_lt hdigit), hlast, ← List.append_assoc, ← hzeros]

theorem toDigits_ne_zero_cons {n : Nat} (hpos : 0 < n) (rest : List Char) :
    Nat.toDigits 10 n ≠ '0' :: rest := by
  intro h
  have hvalue : Nat.ofDigitChars 10 rest 0 = n := by
    have hwhole : Nat.ofDigitChars 10 ('0' :: rest) 0 = n := by
      rw [← h, Nat.ofDigitChars_ten_toDigits]
    exact hwhole
  have hdigits : ∀ c ∈ rest, c.isDigit := fun c hc =>
    Nat.isDigit_of_mem_toDigits (by omega) (by omega) (h ▸ List.mem_cons_of_mem _ hc)
  obtain ⟨zeros, hzeros⟩ := exists_zeros_append hdigits (by omega)
  have hlength := congrArg List.length hzeros
  rw [hvalue, List.length_append, h, List.length_cons] at hlength
  omega

theorem ofDigitChars_zeros_append (zeros n : Nat) :
    Nat.ofDigitChars 10 (List.replicate zeros '0' ++ Nat.toDigits 10 n) 0 = n := by
  rw [Nat.ofDigitChars_append, Nat.ofDigitChars_replicate_zero, Nat.mul_zero,
    Nat.ofDigitChars_ten_toDigits]

theorem isDigit_of_mem_zeros_append {zeros n : Nat}
    (h : c ∈ List.replicate zeros '0' ++ Nat.toDigits 10 n) : c.isDigit := by
  rcases List.mem_append.1 h with hzero | hdigit
  · rw [List.eq_of_mem_replicate hzero]
    rfl
  · exact Nat.isDigit_of_mem_toDigits (by omega) (by omega) hdigit

end Decimal

end LogicBench
