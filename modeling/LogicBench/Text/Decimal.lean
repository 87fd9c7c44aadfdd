/-!
# Decimal numbers

Two ways to read a number: `Decimal.read` accepts a run of digits, a plus sign before it or not,
up to a given limit and reports what is wrong otherwise; `Decimal.count` takes the digits for
granted and stops growing at the largest 64-bit value.
-/

namespace LogicBench

namespace Decimal

/-- Why a text is not a number within the limit. -/
inductive Flaw where
  | empty
  | notADigit
  | tooLarge
  deriving DecidableEq, Repr

def Flaw.message : Flaw → String
  | .empty => "cannot parse integer from empty string"
  | .notADigit => "invalid digit found in string"
  | .tooLarge => "number too large to fit in target type"

def digitValue (c : Char) : Nat :=
  c.toNat - '0'.toNat

/-- Reads on from the value of the digits before; the first character that is not a digit or takes
the value past the limit decides. -/
def readDigits (limit : Nat) : Nat → List Char → Except Flaw Nat
  | value, [] => .ok value
  | value, c :: rest =>
    if c.isDigit then
      let next := value * 10 + digitValue c
      if next ≤ limit then readDigits limit next rest else .error .tooLarge
    else .error .notADigit

/-- Reads a number of at most `limit`; one plus sign may precede the digits. -/
def read (limit : Nat) : List Char → Except Flaw Nat
  | [] => .error .empty
  | ['+'] => .error .notADigit
  | '+' :: digits => readDigits limit 0 digits
  | digits => readDigits limit 0 digits

def maxCount : Nat := 18446744073709551615

/-- One step of a count: each byte is taken for a digit, and the sum stays at `maxCount` once
there. -/
def countStep (value : Nat) (byte : UInt8) : Nat :=
  min (min (value * 10) maxCount + (byte - 48).toNat) maxCount

/-- The number that a run of digits stands for, at most `maxCount`. -/
def count (text : String) : Nat :=
  (text.toList.flatMap String.utf8EncodeChar).foldl countStep 0

end Decimal

end LogicBench
