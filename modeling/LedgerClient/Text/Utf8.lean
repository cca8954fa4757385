/-!
# UTF-8

Text as a list of bytes and back. Bytes that encode no text are refused, and the refusal says
where the first character that cannot be completed starts and how many of its bytes were read
before it went wrong.
-/

namespace LedgerClient

/-- Bytes as every reader and writer of this library handles them. -/
abbrev Bytes := List UInt8

namespace Utf8

/-- The place at which bytes stop being UTF-8. -/
structure Fault where
  /-- The number of bytes before the character at fault. -/
  index : Nat
  /-- How many bytes of that character were read before it went wrong, or `none` if the input
  ends inside it. -/
  length : Option Nat
  deriving DecidableEq, Repr

/-- The wording of a fault. -/
def Fault.message (f : Fault) : String :=
  match f.length with
  | some n => s!"invalid utf-8 sequence of {n} bytes from index {f.index}"
  | none => s!"incomplete utf-8 byte sequence from index {f.index}"

/-! ### Writing -/

/-- The bytes of a text. -/
def encode (s : String) : Bytes :=
  s.toByteArray.data.toList

/-! ### Locating a fault -/

/-- A byte that continues a character. -/
def isTail (b : UInt8) : Bool :=
  0x80 ≤ b && b ≤ 0xBF

/-- The bytes that may come second in a character that starts with `a`. -/
def isSecond (a b : UInt8) : Bool :=
  if a = 0xE0 then 0xA0 ≤ b && b ≤ 0xBF
  else if a = 0xED then 0x80 ≤ b && b ≤ 0x9F
  else if a = 0xF0 then 0x90 ≤ b && b ≤ 0xBF
  else if a = 0xF4 then 0x80 ≤ b && b ≤ 0x8F
  else isTail b

/-- The number of bytes of a character that starts with `a`, if any character does. -/
def width? (a : UInt8) : Option Nat :=
  if a < 0x80 then some 1
  else if 0xC2 ≤ a && a ≤ 0xDF then some 2
  else if 0xE0 ≤ a && a ≤ 0xEF then some 3
  else if 0xF0 ≤ a && a ≤ 0xF4 then some 4
  else none

/-- Checks the bytes that should complete a character, `n` of them being owed and `done` already
read: the error is the length that a `Fault` reports. -/
def tailFault? : (n done : Nat) → Bytes → Option (Option Nat)
  | 0, _, _ => none
  | _ + 1, _, [] => some none
  | n + 1, done, b :: rest => if isTail b then tailFault? n (done + 1) rest else some (some done)

/-- What is wrong with the character that starts with `a` and goes on with `rest`, if anything. -/
def charFault? (a : UInt8) (rest : Bytes) : Option (Option Nat) :=
  match width? a, rest with
  | none, _ => some (some 1)
  | some (_ + 2), [] => some none
  | some (n + 2), b :: rest => if isSecond a b then tailFault? n 2 rest else some (some 1)
  | some _, _ => none

/-- The first fault of a list of bytes, whose first byte has the given index and whose first
`skip` bytes belong to a character already checked. -/
def faultFrom? (index : Nat) : (skip : Nat) → Bytes → Option Fault
  | _, [] => none
  | skip + 1, _ :: rest => faultFrom? (index + 1) skip rest
  | 0, a :: rest =>
    match charFault? a rest with
    | some length => some ⟨index, length⟩
    | none => faultFrom? (index + 1) (((width? a).getD 1) - 1) rest

/-! ### Reading -/

/-- The text that the bytes encode. -/
def decode (bytes : Bytes) : Except Fault String :=
  match String.fromUTF8? ⟨bytes.toArray⟩ with
  | some s => .ok s
  | none => .error ((faultFrom? 0 0 bytes).getD ⟨0, some 1⟩)

end Utf8

end LedgerClient
