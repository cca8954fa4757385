import LedgerClient.Curve.Point
import LedgerClient.Hash.Ripemd160
import LedgerClient.Json.Form
import LedgerClient.Wire.Codec

/-!
# Public keys

A public key is a point of the curve in 33 bytes: a tag and the first coordinate. The key of zeros
stands for no key at all. As text a key is the address tag of its network, followed by the key and
four bytes of its hash in base 58.
-/

namespace LedgerClient

/-- Whether the bytes are a tag followed by the first coordinate of a point. The tags 2 and 3 state
the parity of the second coordinate; the tag 5 leaves it open. -/
def Curve.isCompressedPoint (bytes : Bytes) : Bool :=
  match bytes with
  | tag :: x => (tag = 2 || tag = 3 || tag = 5) && (lift? (ofBigEndian x) false).isSome
  | [] => false

/-- Whether the bytes of a key are accepted: all zero, or a point. -/
def acceptsKeyBytes (bytes : Vector UInt8 33) : Bool :=
  bytes = Vector.replicate 33 0 || Curve.isCompressedPoint bytes.toList

/-- A public key, or the key of zeros that stands for none. -/
structure PublicKey where
  /-- The bytes of the key. -/
  bytes : Vector UInt8 33
  /-- The bytes are all zero or a point. -/
  accepted : acceptsKeyBytes bytes = true
  deriving DecidableEq

namespace PublicKey

/-- The key of zeros, which never verifies anything. -/
def null : PublicKey :=
  ⟨Vector.replicate 33 0, by simp [acceptsKeyBytes]⟩

/-- Whether a key is the key of zeros. -/
def isNull (k : PublicKey) : Bool :=
  k = null

/-- The key with the given bytes. -/
def ofBytes (bytes : Vector UInt8 33) : Except PublicKeyFault PublicKey :=
  if h : acceptsKeyBytes bytes = true then .ok ⟨bytes, h⟩ else .error .notPoint

/-- The bytes in order. -/
def toBytes (k : PublicKey) : Bytes :=
  k.bytes.toList

/-- The key of a point. -/
def ofPoint? (p : Curve.Affine) : Option PublicKey :=
  let bytes := (if p.y % 2 = 1 then 3 else 2) :: bigEndian 32 p.x
  if h : bytes.length = 33 then (ofBytes ⟨bytes.toArray, by simpa using h⟩).toOption else none

/-! ### Text -/

/-- The address tag of the main network. -/
def mainTag : String := "VIZ"

/-- The first four bytes of the hash of a key. -/
def checksum (key : Bytes) : Bytes :=
  (Ripemd160.hash key).take 4

/-- The text of a key under an address tag. -/
def textWithTag (tag : String) (k : PublicKey) : String :=
  tag ++ Base58.encodeChecked checksum k.toBytes

/-- The text of a key on the main network. -/
def text (k : PublicKey) : String :=
  k.textWithTag mainTag

/-- The text of a key as logs show it. -/
def summary (k : PublicKey) : String :=
  "PublicKey(" ++ k.text ++ ")"

/-- A text less the tag that it must start with. -/
def dropTag? (tag text : String) : Option String :=
  if tag.toList.isPrefixOf text.toList then some (String.ofList (text.toList.drop tag.length))
  else none

/-- Reads the bytes of a key followed by its checksum. -/
def ofChecked (bytes : Bytes) : Except PublicKeyFault PublicKey :=
  if bytes.length ≠ 37 then .error (.length bytes.length)
  else
    let key := bytes.take 33
    if checksum key ≠ bytes.drop 33 then .error .checksum
    else if h : key.length = 33 then ofBytes ⟨key.toArray, by simpa using h⟩
    else .error (.length bytes.length)

/-- Reads the text of a key under an address tag. -/
def ofTextWithTag (tag s : String) : Except PublicKeyFault PublicKey :=
  match dropTag? tag s with
  | none => .error (.tag s tag)
  | some encoded =>
    match Base58.decode encoded with
    | .error fault => .error (.base58 fault)
    | .ok bytes => ofChecked bytes

/-- Reads the text of a key of the main network. -/
def ofText (s : String) : Except PublicKeyFault PublicKey :=
  ofTextWithTag mainTag s

/-! ### Wire form and JSON form -/

/-- The wire form: the plain bytes. -/
def codec : Wire.Codec PublicKey where
  write k := (Wire.Codec.vector 33).write k.bytes
  read := do
    let bytes ← (Wire.Codec.vector 33).read
    match ofBytes bytes with
    | .ok k => return k
    | .error fault => throw (.invalid (.value (.publicKey fault)))

/-- The JSON form: the text on the main network. -/
def form : Json.Form PublicKey :=
  .ofText text fun s => (ofText s).mapError fun fault => .value (.publicKey fault)

end PublicKey

end LedgerClient
