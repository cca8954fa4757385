import LedgerClient.Curve.Ecdsa
import LedgerClient.Identifier
import LedgerClient.Key.Public

/-!
# Signatures

A signature is a header byte, which holds the recovery number, and two numbers of 32 bytes. The
signer's key can be computed from it and the digest that was signed.
-/

namespace LedgerClient

/-- A recoverable signature. -/
structure Signature where
  /-- The header and the two numbers. -/
  bytes : Vector UInt8 65
  deriving DecidableEq

namespace Signature

/-- The bytes in order. -/
def toBytes (s : Signature) : Bytes :=
  s.bytes.toList

/-- The signature with the given bytes, if they are 65. -/
def ofBytes? (bytes : Bytes) : Option Signature :=
  if h : bytes.length = 65 then some ⟨⟨bytes.toArray, by simpa using h⟩⟩ else none

/-- The hexadecimal text. -/
def text (s : Signature) : String :=
  Hex.encode s.toBytes

/-- Reads the hexadecimal text. -/
def ofText (s : String) : Except Hex.Fault Signature :=
  (Hex.decodeExactly 65 s).map mk

/-- The first eight bytes, as logs show a signature. -/
def summary (s : Signature) : String :=
  "Signature(" ++ Hex.encode (s.toBytes.take 8) ++ "...)"

/-- The wire form: the plain bytes. -/
def codec : Wire.Codec Signature :=
  (Wire.Codec.vector 65).via bytes mk

/-- The JSON form: the hexadecimal text. -/
def form : Json.Form Signature :=
  .ofText text fun s => (ofText s).mapError fun fault => .value (.hex fault)

/-! ### Recovery -/

/-- The header of a signature with recovery number zero. -/
def headerBase : Nat := 31

/-- The signature with the given numbers and recovery number. -/
def ofPair (sig : Curve.Pair) (recovery : Nat) : Signature :=
  let bytes := UInt8.ofNat (headerBase + recovery) :: bigEndian 32 sig.r ++ bigEndian 32 sig.s
  ⟨⟨bytes.toArray, by simp [bytes]⟩⟩

/-- The recovery number that a header announces. -/
def recoveryNumber (header : UInt8) : Except SignatureFault Nat :=
  if 31 ≤ header && header ≤ 34 then .ok (header.toNat - 31)
  else if 27 ≤ header && header ≤ 30 then .ok (header.toNat - 27)
  else .error (.header header)

/-- The two numbers, which must be neither zero nor beyond the order. -/
def pair (s : Signature) : Except SignatureFault Curve.Pair :=
  let r := ofBigEndian ((s.toBytes.drop 1).take 32)
  let t := ofBigEndian (s.toBytes.drop 33)
  if 0 < r ∧ r < Curve.order ∧ 0 < t ∧ t < Curve.order then .ok ⟨r, t⟩ else .error .outOfRange

/-- A digest as a number of the group. -/
def messageOf (d : Digest) : Nat :=
  ofBigEndian d.toBytes % Curve.order

/-- The key that made the signature of a digest. -/
def recover (s : Signature) (d : Digest) : Except SignatureFault PublicKey := do
  let recovery ← recoveryNumber s.bytes[0]
  let sig ← s.pair
  match (Curve.recover? (messageOf d) sig recovery).bind PublicKey.ofPoint? with
  | some k => return k
  | none => throw .recovery

/-- Whether nodes take the signature: neither number is negative as a signed big-endian number, nor
starts with a zero byte that it does not need. -/
def isCanonical (s : Signature) : Bool :=
  let plain (a b : UInt8) : Bool := a &&& 0x80 = 0 && !(a = 0 && b &&& 0x80 = 0)
  plain s.bytes[1] s.bytes[2] && plain s.bytes[33] s.bytes[34]

end Signature

/-- Whether a key made the signature of a digest. -/
def PublicKey.verifies (k : PublicKey) (d : Digest) (s : Signature) : Bool :=
  !k.isNull && match s.recover d with
    | .ok signer => signer = k
    | .error _ => false

end LedgerClient
