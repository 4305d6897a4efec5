/-!
# Signed decimal numerals

A numeral is an optional sign and at least one of the ten ASCII digits. Nothing else may stand
beside them, neither blanks nor separators, and any number of leading zeros is allowed.
-/

namespace TraceLink.Decimal

/-- The value of an ASCII digit. -/
def digit? (c : Char) : Option Nat :=
  if '0' ≤ c ∧ c ≤ '9' then some (c.toNat - '0'.toNat) else none

/-- Reads digits behind those that gave `value`. -/
def readFrom? (value : Nat) : List Char → Option Nat
  | [] => some value
  | c :: cs => (digit? c).bind fun d => readFrom? (value * 10 + d) cs

/-- Reads a numeral without a sign. -/
def readNat? : List Char → Option Nat
  | [] => none
  | c :: cs => readFrom? 0 (c :: cs)

/-- Reads a numeral with at most one sign. -/
def readInt? : List Char → Option Int
  | '-' :: cs => (readNat? cs).map fun n => -(n : Int)
  | '+' :: cs => (readNat? cs).map fun n => (n : Int)
  | cs => (readNat? cs).map fun n => (n : Int)

example : readInt? "-07".toList = some (-7) ∧ readInt? "+-7".toList = none ∧
    readInt? "".toList = none ∧ readInt? "1_0".toList = none := by decide +kernel

end TraceLink.Decimal
