import LogicBench.Device.Basic
import LogicBench.Device.Declaration
import LogicBench.Proofs.Text.Decimal
import Mathlib.Algebra.Group.Nat.Defs

/-!
# Qualifiers

A qualifier is a run of digits of any length. Where it is a number, the number decides whether the
device is accepted and what it is like; a number that is too large for the machine is taken for the
largest one, and so never for a small one.
-/

namespace LogicBench

/-! ## Waveforms -/

namespace Generator

theorem bit?_eq_ite (c : Char) :
    bit? c = if c = '0' ∨ c = '1' then some (decide (c = '1')) else none := by
  unfold bit?
  split
  · rfl
  · rfl
  · next hzero hone => rw [if_neg (not_or.2 ⟨hzero, hone⟩)]

theorem mapM_bit?_eq_ite (chars : List Char) :
    chars.mapM bit? =
      if chars.all fun c => c = '0' ∨ c = '1' then some (chars.map fun c => decide (c = '1'))
      else none := by
  induction chars with
  | nil => rfl
  | cons c rest ih =>
      rw [List.mapM_cons, ih, bit?_eq_ite, List.all_cons]
      by_cases hfirst : c = '0' ∨ c = '1'
      · rw [if_pos hfirst, decide_eq_true hfirst, Bool.true_and]
        cases rest.all fun c => c = '0' ∨ c = '1' <;> rfl
      · rw [if_neg hfirst, decide_eq_false hfirst, Bool.false_and]
        rfl

end Generator

namespace DeviceKind

variable {digits : String}

/-! ## Numbers -/

theorem gateOfArity_count (h : ∀ c ∈ digits.toList, c.isDigit) (op : GateOp) :
    gateOfArity op (Decimal.count digits) =
      let value := Decimal.value digits
      if 1 ≤ value ∧ value ≤ 16 then .ok (gate op value)
      else .error (.invalidArity (min value (2 ^ 64 - 1))) := by
  have hmax : Decimal.maxCount = 2 ^ 64 - 1 := rfl
  have hgate : maxGateInputs = 16 := rfl
  rw [Decimal.count_eq_min_value h, gateOfArity, hmax, hgate]
  generalize Decimal.value digits = value
  dsimp only
  by_cases hvalue : 1 ≤ value ∧ value ≤ 16
  · have hexact : min value (2 ^ 64 - 1) = value := by omega
    rw [hexact, if_pos hvalue]
  · have hlarge : ¬ (1 ≤ min value (2 ^ 64 - 1) ∧ min value (2 ^ 64 - 1) ≤ 16) := by omega
    rw [if_neg hlarge, if_neg hvalue]

/-- The half-period of a clock is cut twice, and the second cut is the deeper one. -/
theorem clockOfHalfPeriod_count (h : ∀ c ∈ digits.toList, c.isDigit) :
    clockOfHalfPeriod (Decimal.count digits) =
      let value := Decimal.value digits
      if 1 ≤ value then .ok (clock ⟨min value (2 ^ 32 - 1), min value (2 ^ 32 - 1), false⟩)
      else .error .zeroHalfPeriod := by
  have hmax : Decimal.maxCount = 2 ^ 64 - 1 := rfl
  have hlongest : Clock.maxHalfPeriod = 2 ^ 32 - 1 := rfl
  rw [Decimal.count_eq_min_value h, clockOfHalfPeriod, Clock.ofHalfPeriod, hmax, hlongest]
  generalize Decimal.value digits = value
  dsimp only
  by_cases hvalue : 1 ≤ value
  · have hpositive : min value (2 ^ 64 - 1) ≠ 0 := by omega
    have hcut : max (min (min value (2 ^ 64 - 1)) (2 ^ 32 - 1)) 1 = min value (2 ^ 32 - 1) := by
      omega
    rw [if_neg hpositive, if_pos hvalue, hcut]
  · have hzero : min value (2 ^ 64 - 1) = 0 := by omega
    rw [if_pos hzero, if_neg hvalue]

/-! ## Devices -/

theorem pins_ofKind_gate (name : String) (op : GateOp) (arity : Nat) :
    (Device.ofKind name (gate op arity)).inputs =
        (List.range' 1 arity).map (fun index => (.numbered index, none)) ∧
      (Device.ofKind name (gate op arity)).outputs.pins = [.out] := by
  constructor
  · simp [Device.ofKind, inputPins]
  · simp [Device.ofKind, Device.coldStart, outputPins, PinMap.pins]

theorem generatorOfBits_eq_ite (h : digits.toList ≠ []) :
    generatorOfBits digits =
      if digits.toList.all fun c => c = '0' ∨ c = '1' then
        .ok (generator ⟨digits.toList.map fun c => decide (c = '1'), 0⟩)
      else .error .invalidWaveform := by
  have hempty : digits.isEmpty = false := by
    rw [Bool.eq_false_iff]
    simpa using h
  rw [generatorOfBits, Generator.ofBits?, hempty, Generator.mapM_bit?_eq_ite]
  cases digits.toList.all fun c => c = '0' ∨ c = '1' <;> rfl

/-- What a run of digits tells as a qualifier. It is counted exactly up to the largest count. A gate
has as many inputs as the number says if it is from 1 to 16, and the number is in the error
otherwise. A clock takes any half-period but zero, and the longest it can for a longer one. The
waveform of a generator is the digits, if they are all bits, and a switch takes one bit. The other
types take no qualifier. -/
theorem qualifiers_are_read_exactly (hne : digits.toList ≠ [])
    (hdigits : ∀ c ∈ digits.toList, c.isDigit) :
    let value := Decimal.value digits
    Decimal.count digits = min value (2 ^ 64 - 1) ∧
    (∀ op, ofDeclaration (.gate op) (some digits) =
      if 1 ≤ value ∧ value ≤ 16 then .ok (gate op value)
      else .error (.invalidArity (min value (2 ^ 64 - 1)))) ∧
    (∀ op name, (Device.ofKind name (gate op value)).inputs =
        (List.range' 1 value).map (fun index => (.numbered index, none)) ∧
      (Device.ofKind name (gate op value)).outputs.pins = [.out]) ∧
    ofDeclaration .clock (some digits) =
      (if 1 ≤ value then .ok (clock ⟨min value (2 ^ 32 - 1), min value (2 ^ 32 - 1), false⟩)
      else .error .zeroHalfPeriod) ∧
    ofDeclaration .generator (some digits) =
      (if digits.toList.all fun c => c = '0' ∨ c = '1' then
        .ok (generator ⟨digits.toList.map fun c => decide (c = '1'), 0⟩)
      else .error .invalidWaveform) ∧
    ofDeclaration .switch (some digits) =
      (if digits = "0" then .ok (switch ⟨false⟩)
      else if digits = "1" then .ok (switch ⟨true⟩)
      else .error .invalidBit) ∧
    ∀ type ∈ [DeviceType.xor, .not, .flipFlop],
      ofDeclaration type (some digits) = .error (.unexpectedQualifier type) := by
  refine ⟨Decimal.count_eq_min_value hdigits, fun op => gateOfArity_count hdigits op,
    fun op name => pins_ofKind_gate name op _, clockOfHalfPeriod_count hdigits,
    generatorOfBits_eq_ite hne, rfl, fun type htype => ?_⟩
  simp only [List.mem_cons, List.not_mem_nil, or_false] at htype
  rcases htype with rfl | rfl | rfl <;> rfl

/-- A number that has 2 as its remainder in 64 bits, and 2 in 32 bits, is no number of inputs, and
makes the slowest clock. -/
theorem qualifiers_are_read_exactly_wide :
    let digits := "0018446744073709551618"
    digits.toList ≠ [] ∧ (∀ c ∈ digits.toList, c.isDigit) ∧
      Decimal.count digits = 18446744073709551615 ∧
      ofDeclaration (.gate .nand) (some digits) =
        .error (.invalidArity 18446744073709551615) ∧
      ofDeclaration .clock (some digits) = .ok (clock ⟨4294967295, 4294967295, false⟩) ∧
      ofDeclaration .generator (some digits) = .error .invalidWaveform := by
  intro digits
  have hne : digits.toList ≠ [] := by decide
  have hdigits : ∀ c ∈ digits.toList, c.isDigit := List.all_eq_true.1 (by decide)
  have hvalue : Decimal.value digits = 18446744073709551618 := by decide
  obtain ⟨hcount, hgate, -, hclock, hgenerator, -⟩ := qualifiers_are_read_exactly hne hdigits
  rw [hvalue] at hcount hclock
  refine ⟨hne, hdigits, hcount, ?_, ?_, ?_⟩
  · rw [hgate, hvalue]
    rfl
  · exact hclock
  · rw [hgenerator]
    decide

end DeviceKind

end LogicBench
