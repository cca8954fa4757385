import LedgerClient.Hash.Sha256
import LedgerClient.Json.Form
import LedgerClient.Wire.Codec

/-!
# Identifiers

Blocks, chains and transactions are named by hashes of fixed lengths, and a digest is what a key
signs. All four are written in hexadecimal as text and in JSON, and as their plain bytes on the
wire. A block identifier also carries the number of its block.
-/

namespace LedgerClient

/-- What an identifier names. -/
inductive Named
  /-- A block. -/
  | block
  /-- A chain. -/
  | chain
  /-- A transaction. -/
  | transaction
  /-- A message to be signed. -/
  | digest
  deriving DecidableEq, Repr

/-- The number of bytes of an identifier. -/
def Named.size : Named → Nat
  | .block | .transaction => 20
  | .chain | .digest => 32

/-- The name of a kind of identifier. -/
def Named.label : Named → String
  | .block => "BlockId"
  | .chain => "ChainId"
  | .transaction => "TransactionId"
  | .digest => "Digest"

/-- A hash that names something. -/
structure Identifier (n : Named) where
  /-- The bytes of the hash. -/
  bytes : Vector UInt8 n.size
  deriving DecidableEq

/-- The identifier of a block. -/
abbrev BlockId := Identifier .block

/-- The identifier of a chain. -/
abbrev ChainId := Identifier .chain

/-- The identifier of a transaction. -/
abbrev TransactionId := Identifier .transaction

/-- The hash of a message to be signed. -/
abbrev Digest := Identifier .digest

namespace Identifier

variable {n : Named}

/-- The identifier with the given bytes, if they are as many as it needs. -/
def ofBytes? (bytes : Bytes) : Option (Identifier n) :=
  if h : bytes.length = n.size then some ⟨⟨bytes.toArray, by simpa using h⟩⟩ else none

/-- The identifier of zeros. -/
def zero : Identifier n := ⟨Vector.replicate n.size 0⟩

/-- The bytes in order. -/
def toBytes (i : Identifier n) : Bytes :=
  i.bytes.toList

/-- The hexadecimal text. -/
def text (i : Identifier n) : String :=
  Hex.encode i.toBytes

/-- Reads the hexadecimal text. -/
def ofText (s : String) : Except Hex.Fault (Identifier n) :=
  (Hex.decodeExactly n.size s).map mk

/-- The kind of identifier with the first eight bytes. -/
def summary (i : Identifier n) : String :=
  n.label ++ "(" ++ Hex.encode (i.toBytes.take 8) ++ ")"

/-- The wire form. -/
def codec : Wire.Codec (Identifier n) :=
  (Wire.Codec.vector n.size).via bytes mk

/-- The JSON form. -/
def form : Json.Form (Identifier n) :=
  .ofText text fun s => (ofText s).mapError .hex

end Identifier

/-! ### Blocks -/

/-- The number of a block, which its first four bytes hold. -/
def BlockId.number (i : BlockId) : UInt32 :=
  .ofNat (ofBigEndian (i.toBytes.take 4))

/-- The bytes of a block identifier by which a transaction refers to it. -/
def BlockId.mark (i : BlockId) : UInt32 :=
  .ofNat (ofLittleEndian ((i.toBytes.drop 4).take 4))

/-- The low half of the number of a block. -/
def BlockId.shortNumber (i : BlockId) : UInt16 :=
  i.number.toUInt16

/-! ### Chains and digests -/

/-- The main network. -/
def ChainId.mainnet : ChainId :=
  ⟨bigEndianVector 32 0x2040effda178d4fffff5eab7a915d4019879f5205cc5392e4bcced2b6edda0cd⟩

/-- The digest of a byte sequence. -/
def Digest.of (bytes : Bytes) : Digest :=
  ⟨Sha256.hash bytes⟩

/-- The transaction whose bytes have a digest. -/
def Digest.transactionId (d : Digest) : TransactionId :=
  ⟨(d.bytes.take 20).cast rfl⟩

end LedgerClient
