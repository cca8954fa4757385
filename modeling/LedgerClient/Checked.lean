import LedgerClient.Text.Numeral

/-!
# Arithmetic that stays within 64 bits

Sums, products and powers of signed numbers of 64 bits, and the number that a run of digits stands
for. Each step has a result only if the exact one fits; nothing wraps around.
-/

namespace LedgerClient.Checked

/-- The number of 64 bits with a value, if there is one. -/
def ofInt? (n : Int) : Option Int64 :=
  if Int64.minValue.toInt ≤ n ∧ n ≤ Int64.maxValue.toInt then some (.ofInt n) else none

/-- The sum of two numbers. -/
def add? (x y : Int64) : Option Int64 :=
  ofInt? (x.toInt + y.toInt)

/-- The product of two numbers. -/
def mul? (x y : Int64) : Option Int64 :=
  ofInt? (x.toInt * y.toInt)

/-- A power of a number, by repeated multiplication. -/
def pow? (x : Int64) : Nat → Option Int64
  | 0 => some 1
  | n + 1 => (pow? x n).bind (mul? · x)

/-- A number with one more digit behind its own. -/
def appendDigit? (x : Int64) (c : Char) : Option Int64 :=
  (mul? x 10).bind (add? · (.ofNat (Numeral.digitValue c)))

/-- The value of one or more digits, which are taken one after the other. -/
def ofDigits? (cs : List Char) : Option Int64 :=
  if cs.isEmpty then none else cs.foldlM appendDigit? 0

end LedgerClient.Checked
