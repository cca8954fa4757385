import LedgerClient.Text.Quoted
import LedgerClient.Bytes.Endian

/-!
# Base 58

Bytes as a number written with fifty-eight digits that are hard to confuse. Zero bytes in front
are written as the zero digit `1`, one each, so that the text determines the bytes.
-/

namespace LedgerClient.Base58

/-- Why a text is not in base 58. -/
inductive Fault
  /-- A character that is no digit, at a byte position. -/
  | invalid (character : Char) (position : Nat)
  /-- A character outside ASCII, starting at a byte position. -/
  | notAscii (position : Nat)
  /-- The bytes are too few to hold a checksum. -/
  | tooShort
  /-- The last four bytes are not the checksum of the others. -/
  | checksum (calculated expected : Bytes)
  deriving DecidableEq, Repr

/-- The wording of a fault. -/
def Fault.message : Fault → String
  | .invalid c p =>
    "provided string contained invalid character " ++ Quoted.char c ++ " at byte " ++ toString p
  | .notAscii p => "provided string contained non-ascii character starting at byte " ++ toString p
  | .tooShort => "provided string is too small to contain a checksum"
  | .checksum calculated expected =>
    "invalid checksum, calculated checksum: '" ++ Quoted.numbers (calculated.map UInt8.toNat) ++
      "', expected checksum: " ++ Quoted.numbers (expected.map UInt8.toNat)

/-! ### Digits -/

/-- The fifty-eight digits in the order of their values. -/
def alphabet : List Char :=
  "123456789ABCDEFGHJKLMNPQRSTUVWXYZabcdefghijkmnopqrstuvwxyz".toList

/-- The digit of a value below fifty-eight. -/
def digit (n : Nat) : Char :=
  alphabet.getD n '1'

/-- The value of a digit. -/
def digitValue? (c : Char) : Option Nat :=
  alphabet.idxOf? c

/-- The digits of a number in a base, the lowest first; none for zero. -/
def littleDigits (base n : Nat) : List Nat :=
  if 1 < base ∧ 0 < n then n % base :: littleDigits base (n / base) else []
termination_by n
decreasing_by rename_i h; exact Nat.div_lt_self h.2 h.1

/-- The number with the given digits in a base, the highest first. -/
def ofDigits (base : Nat) (ds : List Nat) : Nat :=
  ds.foldl (fun n d => base * n + d) 0

/-! ### Writing and reading -/

/-- The text of a byte sequence. -/
def encode (bytes : Bytes) : String :=
  let zeros := (bytes.takeWhile (· = 0)).length
  let digits := (littleDigits 58 (ofBigEndian bytes)).reverse
  String.ofList ((List.replicate zeros 0 ++ digits).map digit)

/-- The values of the digits of a text whose first byte has the given position. -/
def digitValues (position : Nat) : List Char → Except Fault (List Nat)
  | [] => .ok []
  | c :: rest =>
    if 128 ≤ c.toNat then .error (.notAscii position)
    else
      match digitValue? c with
      | none => .error (.invalid c position)
      | some d => (digitValues (position + 1) rest).map (d :: ·)

/-- The bytes that a text stands for. -/
def decode (s : String) : Except Fault Bytes := do
  let ds ← digitValues 0 s.toList
  let zeros := (ds.takeWhile (· = 0)).length
  let bytes := (littleDigits 256 (ofDigits 58 ds)).reverse
  return List.replicate zeros 0 ++ bytes.map UInt8.ofNat

/-! ### Checked texts -/

/-- The text of a byte sequence followed by its checksum. -/
def encodeChecked (checksum : Bytes → Bytes) (bytes : Bytes) : String :=
  encode (bytes ++ checksum bytes)

/-- The bytes that a text stands for, less their last four, which must be the checksum. -/
def decodeChecked (checksum : Bytes → Bytes) (s : String) : Except Fault Bytes := do
  let all ← decode s
  if all.length < 4 then
    .error .tooShort
  else
    let bytes := all.take (all.length - 4)
    let expected := all.drop (all.length - 4)
    let calculated := checksum bytes
    if calculated = expected then return bytes else .error (.checksum calculated expected)

end LedgerClient.Base58
