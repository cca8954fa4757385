import LedgerClient.Text.Quoted
import LedgerClient.Text.Utf8

/-!
# Hexadecimal text

Two digits a byte. Writing uses lower case; reading takes either case.
-/

namespace LedgerClient.Hex

/-- Why a text is not the hexadecimal form of a byte sequence. -/
inductive Fault
  /-- The number of digits is odd. -/
  | oddLength
  /-- The number of digits does not fit the number of bytes asked for. -/
  | length
  /-- The byte at the position is no digit. -/
  | invalid (byte : UInt8) (position : Nat)
  deriving DecidableEq, Repr

/-- The wording of a fault. A byte that is no digit is shown as the character of that code. -/
def Fault.message : Fault → String
  | .oddLength => "Odd number of digits"
  | .length => "Invalid string length"
  | .invalid b p =>
    "Invalid character " ++ Quoted.char (Char.ofNat b.toNat) ++ " at position " ++ toString p

/-! ### Writing -/

/-- The digit of a number below sixteen. -/
def digit (n : UInt8) : Char :=
  Nat.digitChar n.toNat

/-- Two digits a byte, the high one first. -/
def chars : Bytes → List Char
  | [] => []
  | b :: rest => digit (b >>> 4) :: digit (b &&& 15) :: chars rest

/-- The hexadecimal text of a byte sequence. -/
def encode (bytes : Bytes) : String :=
  String.ofList (chars bytes)

/-! ### Reading -/

/-- The value of a digit of either case. -/
def digitValue? (b : UInt8) : Option UInt8 :=
  if 48 ≤ b && b ≤ 57 then some (b - 48)
  else if 97 ≤ b && b ≤ 102 then some (b - 87)
  else if 65 ≤ b && b ≤ 70 then some (b - 55)
  else none

/-- Reads one digit at a position. -/
def readDigit (b : UInt8) (position : Nat) : Except Fault UInt8 :=
  match digitValue? b with
  | some d => .ok d
  | none => .error (.invalid b position)

/-- Reads digits in pairs, the first of them standing at the given position. -/
def readPairs (position : Nat) : Bytes → Except Fault Bytes
  | [] => .ok []
  | [_] => .error .oddLength
  | a :: b :: rest => do
    let high ← readDigit a position
    let low ← readDigit b (position + 1)
    let tail ← readPairs (position + 2) rest
    return (16 * high + low) :: tail

/-- The bytes that a text of an even number of digits stands for. -/
def decode (s : String) : Except Fault Bytes :=
  let digits := Utf8.encode s
  if digits.length % 2 = 1 then .error .oddLength else readPairs 0 digits

/-- The `n` bytes that a text stands for. -/
def decodeExactly (n : Nat) (s : String) : Except Fault (Vector UInt8 n) := do
  let digits := Utf8.encode s
  if digits.length % 2 = 1 then
    .error .oddLength
  else if digits.length ≠ 2 * n then
    .error .length
  else
    let bytes ← readPairs 0 digits
    if h : bytes.length = n then .ok ⟨bytes.toArray, by simpa using h⟩ else .error .length

end LedgerClient.Hex
