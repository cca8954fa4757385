import LedgerClient.Operation.Basic

/-!
# The wire form of operations

An operation is the number of its kind followed by the fields of its payload in order. Reading an
operation of a number without payload takes all the bytes that remain, because nothing tells where
it ends; an unknown operation cannot be written. A proposal nests operations, and each level takes
at least one byte, so that the number of bytes bounds the nesting of what can be read.
-/

namespace LedgerClient

open Wire

/-! ### Writing -/

mutual

/-- The wire form of the fields of a record. -/
def Record.write : {layout : Layout} → Record layout → Output
  | _, .empty => .empty
  | _, @Record.field _ shape _ value rest => shape.codec.write value ++ rest.write
  | _, .operations ops rest =>
    .ofBytes (varintBytes ops.length) ++ Operation.writeList ops ++ rest.write

/-- The wire forms of operations, one after another. -/
def Operation.writeList : List Operation → Output
  | [] => .empty
  | op :: ops => op.write ++ Operation.writeList ops

/-- The wire form of an operation. -/
def Operation.write : Operation → Output
  | .known kind _ payload => .ofBytes (varintBytes kind.tag) ++ payload.write
  | .unknown _ => .ofFault (.unsupported .unknownOperation)

end

/-! ### Reading -/

/-- Reads the fields of a layout, given how nested operations are read. -/
def Record.read (nested : Reader Operation) : (layout : Layout) → Reader (Record layout)
  | [] => return .empty
  | .field _ shape :: layout => do
    let value ← shape.codec.read
    let rest ← Record.read nested layout
    return .field value rest
  | .operations _ :: layout => do
    let ops ← nested.times (← Reader.count)
    let rest ← Record.read nested layout
    return .operations ops rest

namespace Operation

/-- What is left of an operation that has no payload here. -/
def readUnknown (tag : Nat) : Reader Operation := do
  let raw ← Reader.rest
  return .unknown ⟨some (.ofNat tag), (Kind.ofTag? tag).map Kind.name, raw, .null⟩

/-- Reads the payload that belongs to a number. -/
def readPayload (nested : Reader Operation) (tag : Nat) : Reader Operation :=
  match Kind.ofTag? tag with
  | none => readUnknown tag
  | some kind =>
    if h : kind.isReserved = false then do
      let payload ← Record.read nested kind.layout
      return .known kind h payload
    else readUnknown tag

/-- Reads an operation that nests at most `depth` levels. Without a level left there is no byte
left either. -/
def readAt : (depth : Nat) → Reader Operation
  | 0 => throw (.truncated 1 0)
  | depth + 1 => do
    let tag ← Reader.varint
    readPayload (readAt depth) tag

/-- The wire form of operations. -/
def codec : Codec Operation where
  write := write
  read := do
    let depth ← Reader.remaining
    readAt depth

end Operation

/-- The wire form of the records of a layout. -/
def Record.codec (layout : Layout) : Codec (Record layout) where
  write := Record.write
  read := Record.read Operation.codec.read layout

end LedgerClient
