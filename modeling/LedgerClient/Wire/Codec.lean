import LedgerClient.Wire.Output
import LedgerClient.Wire.Reader

/-!
# Wire forms of types

A `Codec` writes the values of a type and reads them back. Numbers have their low byte first;
texts, byte strings and lists are preceded by their count as a variable-length number; an optional
value is preceded by a mark; pairs and records are written member after member.
-/

namespace LedgerClient.Wire

/-- How the values of a type are written and read. -/
structure Codec (α : Type) where
  /-- The wire form of a value. -/
  write : α → Output
  /-- Reads a value. -/
  read : Reader α

/-- The shortest groups of seven bits of a number, lowest first, all but the last marked. -/
def varintBytes (n : Nat) : Bytes :=
  if n < 128 then [UInt8.ofNat n] else UInt8.ofNat (n % 128 + 128) :: varintBytes (n / 128)
termination_by n

namespace Codec

/-- All the bytes of the wire form of a value. -/
def toBytes {α : Type} (c : Codec α) (x : α) : Except Fault Bytes :=
  (c.write x).toExcept

/-- The value that the bytes, all of them, are the wire form of. -/
def ofBytes {α : Type} (c : Codec α) (bytes : Bytes) : Except Fault α :=
  c.read.readAll bytes

/-! ### Numbers -/

/-- A number of a fixed width, by the functions that embed a type in the naturals and back. -/
def fixed {α : Type} (width : Nat) (toNat : α → Nat) (ofNat : Nat → α) : Codec α where
  write x := .ofBytes (littleEndian width (toNat x))
  read := return ofNat (← Reader.natural width)

/-- An unsigned number of 8 bits. -/
def u8 : Codec UInt8 := fixed 1 UInt8.toNat UInt8.ofNat

/-- An unsigned number of 16 bits. -/
def u16 : Codec UInt16 := fixed 2 UInt16.toNat UInt16.ofNat

/-- An unsigned number of 32 bits. -/
def u32 : Codec UInt32 := fixed 4 UInt32.toNat UInt32.ofNat

/-- An unsigned number of 64 bits. -/
def u64 : Codec UInt64 := fixed 8 UInt64.toNat UInt64.ofNat

/-- A signed number of 8 bits, in two's complement. -/
def i8 : Codec Int8 := fixed 1 (fun x => x.toUInt8.toNat) fun n => (UInt8.ofNat n).toInt8

/-- A signed number of 16 bits, in two's complement. -/
def i16 : Codec Int16 := fixed 2 (fun x => x.toUInt16.toNat) fun n => (UInt16.ofNat n).toInt16

/-- A signed number of 32 bits, in two's complement. -/
def i32 : Codec Int32 := fixed 4 (fun x => x.toUInt32.toNat) fun n => (UInt32.ofNat n).toInt32

/-- A signed number of 64 bits, in two's complement. -/
def i64 : Codec Int64 := fixed 8 (fun x => x.toUInt64.toNat) fun n => (UInt64.ofNat n).toInt64

/-- A number of up to 64 bits in variable length. -/
def varint : Codec UInt64 where
  write x := .ofBytes (varintBytes x.toNat)
  read := return UInt64.ofNat (← Reader.varint)

/-- A truth value as the byte 0 or 1. -/
def flag : Codec Bool where
  write b := .ofBytes [if b then 1 else 0]
  read := do
    let b ← Reader.byte
    if b = 0 then return false
    else if b = 1 then return true
    else throw (.invalid (.flag b))

/-! ### Texts and bytes -/

/-- Bytes preceded by their number. -/
def blob : Codec Bytes where
  write bytes := .ofBytes (varintBytes bytes.length ++ bytes)
  read := do Reader.take (← Reader.count)

/-- Text as UTF-8, preceded by its number of bytes. -/
def text : Codec String where
  write s := blob.write (Utf8.encode s)
  read := do
    let bytes ← blob.read
    match Utf8.decode bytes with
    | .ok s => return s
    | .error fault => throw (.invalid (.text fault))

/-- A fixed number of bytes. -/
def vector (n : Nat) : Codec (Vector UInt8 n) where
  write v := .ofBytes v.toList
  read := Reader.vector n

/-! ### Compound values -/

/-- A list preceded by its length. -/
def list {α : Type} (c : Codec α) : Codec (List α) where
  write xs := .ofBytes (varintBytes xs.length) ++ Output.ofList c.write xs
  read := do c.read.times (← Reader.count)

/-- A value that may be absent, preceded by the byte 0 or 1. -/
def option {α : Type} (c : Codec α) : Codec (Option α) where
  write
    | none => .ofBytes [0]
    | some x => .ofBytes [1] ++ c.write x
  read := do
    let b ← Reader.byte
    if b = 0 then return none
    else if b = 1 then return some (← c.read)
    else throw (.invalid (.presence b))

/-- One value after another. -/
def pair {α β : Type} (c : Codec α) (d : Codec β) : Codec (α × β) where
  write p := c.write p.1 ++ d.write p.2
  read := return (← c.read, ← d.read)

/-- A type with the parts of another. -/
def via {α β : Type} (c : Codec α) (parts : β → α) (mk : α → β) : Codec β where
  write x := c.write (parts x)
  read := return mk (← c.read)

end Codec

end LedgerClient.Wire
