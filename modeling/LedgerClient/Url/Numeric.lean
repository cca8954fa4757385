import LedgerClient.Text.Numeral
import LedgerClient.Url.Path

/-!
# Numeric hosts

Hosts that are numbers: four bytes, of which the last may fill the place of those that are left
out, or eight numbers of two bytes, of which a run of zeros may be left out.
-/

namespace LedgerClient.Url

/-- The number that digits of a base stand for, if all are digits of it. -/
def digits? (base : Nat) (cs : List Char) : Option Nat :=
  cs.foldlM
    (fun n c => (hexDigit? c).bind fun d => if d < base then some (base * n + d) else none) 0

/-! ### Four numbers -/

/-- The number that one part stands for, in base ten, eight or sixteen. -/
def partNumber? : List Char → Option Nat
  | [] => none
  | '0' :: 'x' :: cs | '0' :: 'X' :: cs => digits? 16 cs
  | '0' :: c :: cs => digits? 8 (c :: cs)
  | cs => digits? 10 cs

/-- The parts of a name, without an empty one at the end. -/
def nameParts (cs : List Char) : List (List Char) :=
  let parts := splitAt (· = '.') cs
  if 1 < parts.length && parts.getLast? = some [] then parts.dropLast else parts

/-- Whether the last part of a name is a number, so that the name has to be one of numbers. -/
def endsInNumber (cs : List Char) : Bool :=
  match (nameParts cs).getLast? with
  | some ('0' :: 'x' :: last) | some ('0' :: 'X' :: last) => (digits? 16 last).isSome
  | some last => !last.isEmpty && last.all Numeral.isDigit
  | none => false

/-- The address that the parts stand for: all but the last are a byte each, and the last fills what
is left of four bytes. -/
def address? (parts : List (List Char)) : Option Nat := do
  let ns ← parts.mapM partNumber?
  let last ← ns.getLast?
  let front := ns.dropLast
  if 4 < ns.length || front.any (255 < ·) || Nat.pow 256 (5 - ns.length) ≤ last then none
  else return front.foldl (fun n b => 256 * n + b) 0 * Nat.pow 256 (5 - ns.length) + last

/-- The text of an address of four bytes. -/
def addressText (n : Nat) : List Char :=
  let byte (k : Nat) : List Char := Numeral.digits (n / Nat.pow 256 k % 256)
  byte 3 ++ '.' :: byte 2 ++ '.' :: byte 1 ++ '.' :: byte 0

/-! ### Eight numbers -/

/-- A number of two bytes of one to four digits. -/
def pieceNumber? (cs : List Char) : Option Nat :=
  if cs.isEmpty || 4 < cs.length then none else digits? 16 cs

/-- A byte in base ten without needless zeros. -/
def byteNumber? (cs : List Char) : Option Nat :=
  if cs.isEmpty || !cs.all Numeral.isDigit || (1 < cs.length && cs.head? = some '0') then none
  else (digits? 10 cs).filter (· < 256)

/-- The pieces of a text: numbers between colons, the last of which may be four bytes. -/
def pieces? (last : Bool) (cs : List Char) : Option (List Nat) :=
  if cs.isEmpty then some []
  else
    let parts := splitAt (· = ':') cs
    let tail := parts.getLast?.getD []
    if last && tail.contains '.' then do
      let front ← parts.dropLast.mapM pieceNumber?
      match ← (splitAt (· = '.') tail).mapM byteNumber? with
      | [a, b, c, d] => return front ++ [256 * a + b, 256 * c + d]
      | _ => none
    else parts.mapM pieceNumber?

/-- The texts before and after the first two colons in a row. -/
def splitGap? : List Char → Option (List Char × List Char)
  | ':' :: ':' :: rest => some ([], rest)
  | c :: rest => (splitGap? rest).map fun p => (c :: p.1, p.2)
  | [] => none

/-- The eight numbers of a text; two colons stand for as many zeros as are missing. -/
def numbers? (cs : List Char) : Option (List Nat) :=
  match splitGap? cs with
  | none => (pieces? true cs).filter (·.length = 8)
  | some (front, back) => do
    let xs ← pieces? false front
    let ys ← pieces? true back
    if xs.length + ys.length < 8 then
      return xs ++ List.replicate (8 - xs.length - ys.length) 0 ++ ys
    else none

/-- The length of the run of zeros that a list starts with. -/
def zeroRun (ns : List Nat) : Nat :=
  (ns.takeWhile (· = 0)).length

/-- Where the first of the longest runs of zeros starts, and its length. -/
def longestZeros (ns : List Nat) : Nat × Nat :=
  (List.range ns.length).foldl
    (fun best i => if best.2 < zeroRun (ns.drop i) then (i, zeroRun (ns.drop i)) else best) (0, 0)

/-- Numbers in base sixteen between colons. -/
def joined (ns : List Nat) : List Char :=
  [':'].intercalate (ns.map (Nat.toDigits 16))

/-- The text of eight numbers, the longest run of zeros being left out. -/
def numbersText (ns : List Nat) : List Char :=
  let (start, length) := longestZeros ns
  if length < 2 then joined ns
  else joined (ns.take start) ++ [':', ':'] ++ joined (ns.drop (start + length))

end LedgerClient.Url
