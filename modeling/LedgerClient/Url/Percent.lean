import LedgerClient.Bytes.Hex
import LedgerClient.Text.Numeral

/-!
# Percent encoding

The parts of an address write characters that have no place there as their bytes, each a percent
sign and two capital digits in base sixteen. Which characters these are depends on the part.
-/

namespace LedgerClient.Url

/-- Whether a character controls something or lies outside ASCII. -/
def isControl (c : Char) : Bool :=
  c.toNat < 0x20 || 0x7E < c.toNat

/-- Whether a fragment encodes a character. -/
def inFragment (c : Char) : Bool :=
  isControl c || [' ', '"', '<', '>', '\x60'].contains c

/-- Whether a path encodes a character. -/
def inPath (c : Char) : Bool :=
  inFragment c || ['#', '?', '\x7b', '\x7d'].contains c

/-- Whether a name or a password encodes a character. -/
def inUser (c : Char) : Bool :=
  inPath c || ['/', ':', ';', '=', '@', '[', '\\', ']', '^', '|'].contains c

/-- Whether a query encodes a character; those of well-known schemes also encode the single
quote. -/
def inQuery (special : Bool) (c : Char) : Bool :=
  isControl c || [' ', '"', '#', '<', '>'].contains c || (special && c = '\'')

/-- A byte as a percent sign and two digits. -/
def percentByte (b : UInt8) : List Char :=
  let digit (n : UInt8) : Char := (Nat.digitChar n.toNat).toUpper
  ['%', digit (b >>> 4), digit (b &&& 15)]

/-- A text in which the characters of a set are encoded. -/
def percentEncode (set : Char → Bool) (cs : List Char) : List Char :=
  cs.flatMap fun c =>
    if set c then (Utf8.encode c.toString).flatMap percentByte else [c]

/-- The value of a digit in base sixteen. -/
def hexDigit? (c : Char) : Option Nat :=
  (Hex.digitValue? c.toNat.toUInt8).bind fun d => if c.toNat < 0x80 then some d.toNat else none

/-- Bytes in which an encoded byte stands for itself. -/
def percentDecode : Bytes → Bytes
  | 0x25 :: a :: b :: rest =>
    match Hex.digitValue? a, Hex.digitValue? b with
    | some x, some y => (16 * x + y) :: percentDecode rest
    | _, _ => 0x25 :: percentDecode (a :: b :: rest)
  | b :: rest => b :: percentDecode rest
  | [] => []

end LedgerClient.Url
