import LedgerClient.Asset.Basic
import LedgerClient.Text.Blank
import LedgerClient.Text.Numeral

/-!
# The text of an asset

An amount is written as a decimal with exactly the places of its symbol, a space, and the name of
the symbol: `1.000 VIZ`. Reading takes any blanks around the two words and any leading zeros, and
takes the number of places from the text, which must be the right one for the ledger's own symbols.
The number of smallest units is computed in 64 bits, step by step.
-/

namespace LedgerClient.Asset

/-! ### Writing -/

/-- The text of a decimal of `n` units of which `places` stand after the point. -/
def decimalChars (places n : Nat) : List Char :=
  let ds := Numeral.padded (places + 1) n
  let whole := ds.take (ds.length - places)
  if places = 0 then whole else whole ++ '.' :: ds.drop (ds.length - places)

/-- The text of an amount. -/
def text (a : Asset) : String :=
  let sign := if a.amount.toInt < 0 then ['-'] else []
  String.ofList
    (sign ++ decimalChars a.precision.toNat a.amount.toInt.natAbs ++ ' ' :: a.symbol.name.toList)

/-! ### Reading -/

/-- The largest number of decimal places that a text may have. -/
def maxPlaces : Nat := 18

/-- The characters of the name of a symbol. -/
def isSymbolChar (c : Char) : Bool :=
  ('A' ≤ c && c ≤ 'Z') || Numeral.isDigit c

/-- A decimal without its sign: the digits before the point, and those after it, which must not be
missing if there is a point. -/
def splitDecimal? (cs : List Char) : Option (List Char × List Char) :=
  let whole := cs.takeWhile (· ≠ '.')
  let digits := !whole.isEmpty && whole.all Numeral.isDigit
  match cs.dropWhile (· ≠ '.') with
  | [] => if digits then some (whole, []) else none
  | _ :: places =>
    if digits && !places.isEmpty && places.all Numeral.isDigit then some (whole, places) else none

/-- The number of places that a symbol name demands, if it is one of the ledger's own. -/
def placesOf? (name : String) : Option Nat :=
  if name = Symbol.vizName then some 3
  else if name = Symbol.vestsName then some 6
  else none

/-- The number of units of a decimal: the digits before the point shifted by the places, and those
after it added. It is computed in 64 bits, and no step may leave them. -/
def magnitude? (whole places : List Char) : Option Int64 := do
  let scale ← Checked.pow? 10 places.length
  let whole ← Checked.ofDigits? whole
  let fraction ← (if places.isEmpty then some 0 else Checked.ofDigits? places)
  let shifted ← Checked.mul? whole scale
  Checked.add? shifted fraction

/-- Reads an amount and the name of its symbol. -/
def ofWords (number symbol : List Char) : Except AssetFlaw Asset :=
  if symbol.isEmpty || !symbol.all isSymbolChar then .error .symbol
  else
    let negative := number.head? = some '-'
    match splitDecimal? (if negative then number.drop 1 else number) with
    | none => .error .malformed
    | some (whole, places) =>
      let name := String.ofList symbol
      if maxPlaces < places.length then .error .tooManyPlaces
      else
        match (placesOf? name).filter (· ≠ places.length) with
        | some needed => .error (.places name needed)
        | none =>
          match magnitude? whole places with
          | some units =>
            .ok ⟨if negative then -units else units, .ofParts name (.ofNat places.length)⟩
          | none => .error .outOfRange

/-- Reads the text of an amount. -/
def ofText (s : String) : Except AssetFault Asset :=
  (match words s.toList with
    | [number, symbol] => ofWords number symbol
    | _ => .error .notTwoWords).mapError (.text s)

end LedgerClient.Asset
