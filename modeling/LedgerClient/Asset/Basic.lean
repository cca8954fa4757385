import LedgerClient.Checked
import LedgerClient.Fault

/-!
# Assets

A fixed-point amount of some symbol: a 64-bit number of smallest units, and the number of decimal
places with which it is shown. The two symbols of the ledger itself have names and places of their
own; every other symbol states both.
-/

namespace LedgerClient

/-- The unit that an amount is counted in. -/
inductive Symbol
  /-- The liquid token, with three decimal places. -/
  | viz
  /-- Vesting shares, with six decimal places. -/
  | vests
  /-- Any other symbol, with its decimal places. -/
  | custom (name : String) (precision : UInt8)
  deriving DecidableEq, Repr

namespace Symbol

/-- The name of the liquid token. -/
def vizName : String := "VIZ"

/-- The name of vesting shares. -/
def vestsName : String := "SHARES"

/-- The symbol of a name and a number of places, one of the ledger's own if it is one of them. -/
def ofParts (name : String) (precision : UInt8) : Symbol :=
  if name = vizName ∧ precision = 3 then .viz
  else if name = vestsName ∧ precision = 6 then .vests
  else .custom name precision

/-- The name of a symbol. -/
def name : Symbol → String
  | viz => vizName
  | vests => vestsName
  | custom name _ => name

/-- The number of decimal places of a symbol. -/
def precision : Symbol → UInt8
  | viz => 3
  | vests => 6
  | custom _ precision => precision

end Symbol

/-- An amount of a symbol, counted in smallest units. -/
structure Asset where
  /-- The number of smallest units. -/
  amount : Int64
  /-- What is counted. -/
  symbol : Symbol
  deriving DecidableEq, Repr

namespace Asset

/-- An amount of the liquid token. -/
def viz (amount : Int64) : Asset := ⟨amount, .viz⟩

/-- An amount of vesting shares. -/
def vests (amount : Int64) : Asset := ⟨amount, .vests⟩

/-- The number of decimal places of an amount. -/
def precision (a : Asset) : UInt8 := a.symbol.precision

/-- The sum of two amounts of one symbol, if it fits 64 bits. -/
def add? (a b : Asset) : Option Asset :=
  if a.symbol = b.symbol then (Checked.add? a.amount b.amount).map (⟨·, a.symbol⟩) else none

/-! ### Floating-point amounts -/

/-- The amount nearest to a floating-point number of whole tokens. The number is scaled and then
rounded, a half going away from zero; the one value just beyond the range counts as the largest
amount. -/
def ofBinary64 (x : Binary64) (symbol : Symbol) : Except AssetFault Asset :=
  let scaled := x.mul (Binary64.powTen symbol.precision.toNat)
  let units := scaled.round
  if x.isFinite && scaled.isFinite && Int64.minValue.toInt ≤ units &&
      units ≤ Int64.maxValue.toInt + 1 then
    .ok ⟨.ofInt (min units Int64.maxValue.toInt), symbol⟩
  else .error (.outOfRange x symbol.name)

/-- The number of whole tokens of an amount as a floating-point number. -/
def toBinary64 (a : Asset) : Binary64 :=
  (Binary64.ofInt a.amount.toInt).div (Binary64.powTen a.precision.toNat)

end Asset

end LedgerClient
