import LedgerClient.Bytes.Endian
import LedgerClient.Wire.Fault

/-!
# Reading the wire form

A reader takes bytes from the front of its input. When it fails it keeps what it has taken up to
then, so that the bytes that remain after a failure are known too.
-/

namespace LedgerClient.Wire

/-- A computation that takes bytes from the front of its input and may fail. -/
abbrev Reader := ExceptT Fault (StateM Bytes)

namespace Reader

/-- Runs a reader: its result and the bytes that remain. -/
def runOn {α : Type} (r : Reader α) (bytes : Bytes) : Except Fault α × Bytes :=
  r.run.run bytes

/-- The reader with the given effect on its input. -/
def ofFun {α : Type} (f : Bytes → Except Fault α × Bytes) : Reader α :=
  ExceptT.mk (StateT.mk f)

/-! ### Bytes -/

/-- The first `n` bytes and the others, if there are as many. -/
def split? : (n : Nat) → Bytes → Option (Bytes × Bytes)
  | 0, bytes => some ([], bytes)
  | _ + 1, [] => none
  | n + 1, b :: rest => (split? n rest).map fun p => (b :: p.1, p.2)

/-- Takes `n` bytes, or none of them if there are fewer. -/
def take (n : Nat) : Reader Bytes :=
  ofFun fun bytes =>
    if n ≤ bytes.length then
      match split? n bytes with
      | some (taken, rest) => (.ok taken, rest)
      | none => (.error (.truncated n bytes.length), bytes)
    else (.error (.truncated n bytes.length), bytes)

/-- Takes one byte. -/
def byte : Reader UInt8 :=
  ofFun fun
    | b :: rest => (.ok b, rest)
    | [] => (.error (.truncated 1 0), [])

/-- Takes all the bytes that remain. -/
def rest : Reader Bytes :=
  ofFun fun bytes => (.ok bytes, [])

/-- The number of bytes that remain. -/
def remaining : Reader Nat :=
  ofFun fun bytes => (.ok bytes.length, bytes)

/-- Succeeds if no bytes remain. -/
def finish : Reader Unit :=
  ofFun fun bytes =>
    if bytes.isEmpty then (.ok (), bytes) else (.error (.trailing bytes.length), bytes)

/-- Takes `n` bytes as a vector. -/
def vector (n : Nat) : Reader (Vector UInt8 n) := do
  let bytes ← take n
  if h : bytes.length = n then return ⟨bytes.toArray, size_toArray_of_length h⟩
  else throw (.truncated n bytes.length)

/-! ### Numbers -/

/-- A number in a fixed number of bytes, the low byte first. -/
def natural (width : Nat) : Reader Nat := do
  let bytes ← take width
  return ofLittleEndian bytes

/-- The groups of seven bits of a number, lowest first, of which `left` may still follow. The last
of ten may only hold the one bit that is left of 64. -/
def groups : (left : Nat) → Reader Nat
  | 0 => throw .varintOverflow
  | left + 1 => do
    let b ← byte
    let group := b.toNat % 128
    if left = 0 ∧ 1 < group then throw .varintOverflow
    else if b.toNat < 128 then return group
    else
      let high ← groups left
      return group + 128 * high

/-- A variable-length number. -/
def varint : Reader Nat :=
  groups 10

/-- A count of things that take at least one byte each: it may not exceed the bytes that remain. -/
def count : Reader Nat := do
  let n ← varint
  let left ← remaining
  if left < n then throw (.truncated n left) else return n

/-! ### Repetition -/

/-- Reads `n` values. -/
def times {α : Type} (r : Reader α) : (n : Nat) → Reader (List α)
  | 0 => return []
  | n + 1 => do
    let x ← r
    let xs ← times r n
    return x :: xs

/-- Reads a value that all of the bytes must belong to. -/
def readAll {α : Type} (r : Reader α) (bytes : Bytes) : Except Fault α :=
  (runOn (do let x ← r; finish; return x) bytes).1

end Reader

end LedgerClient.Wire
