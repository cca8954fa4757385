import LedgerClient.Hash.ChaCha
import LedgerClient.Key.Signature

/-!
# Private keys

A private key is a number below the order of the group. Its text is a version byte and the number
in checked base 58. Signing tries one nonce after another until the signature is one that nodes
take: the first is derived from the key and the digest alone, the later ones also from a stream
that is seeded by the digest and the number of the attempt, so that a key gives a digest the same
signature every time.
-/

namespace LedgerClient

/-- A secret number, neither zero nor beyond the order of the group. -/
structure PrivateKey where
  /-- The secret. -/
  secret : Nat
  /-- The secret is not zero. -/
  pos : 0 < secret
  /-- The secret is below the order. -/
  lt_order : secret < Curve.order
  deriving DecidableEq

namespace PrivateKey

/-! ### Making keys -/

/-- The key with the given secret. -/
def ofNat (n : Nat) : Except PrivateKeyFault PrivateKey :=
  if h : 0 < n ∧ n < Curve.order then .ok ⟨n, h.1, h.2⟩ else .error .outOfRange

/-- The key with the given 32 bytes. -/
def ofBytes (bytes : Bytes) : Except PrivateKeyFault PrivateKey :=
  ofNat (ofBigEndian bytes)

/-- The 32 bytes of the secret. -/
def toBytes (k : PrivateKey) : Bytes :=
  bigEndian 32 k.secret

/-- The key whose secret is the hash of a text. -/
def ofSeed (seed : String) : Except PrivateKeyFault PrivateKey :=
  ofNat (Sha256.number (Utf8.encode seed))

/-- The key of an account for a role, as wallets derive it from a password. -/
def ofLogin (account role password : String) : Except PrivateKeyFault PrivateKey :=
  ofSeed (account ++ role ++ password)

/-- The public key. -/
def publicKey (k : PrivateKey) : PublicKey :=
  ((Curve.Point.multiple (.ofAffine Curve.generator) k.secret).toAffine?.bind
    PublicKey.ofPoint?).getD .null

/-- The public key, as logs show a private key. -/
def summary (k : PrivateKey) : String :=
  "PrivateKey(" ++ k.publicKey.text ++ ")"

/-! ### Text -/

/-- The version byte of a private key. -/
def version : UInt8 := 0x80

/-- The first four bytes of the hash of the hash. -/
def checksum (bytes : Bytes) : Bytes :=
  (Sha256.hash (Sha256.hash bytes).toList).toList.take 4

/-- The text of a key. -/
def text (k : PrivateKey) : String :=
  Base58.encodeChecked checksum (version :: k.toBytes)

/-- Reads the text of a key. -/
def ofText (s : String) : Except PrivateKeyFault PrivateKey :=
  match Base58.decodeChecked checksum s with
  | .error fault => .error (.base58 fault)
  | .ok [] => .error (.length 0)
  | .ok (v :: secret) =>
    if v ≠ version then .error (.version v)
    else if secret.length = 32 then ofBytes secret
    else .error (.length (secret.length + 1))

/-! ### Signing -/

/-- How many nonces are tried. -/
def maxAttempts : Nat := 64

/-- The numbers of a signature with the nonce that the extra bytes give, and its recovery number. -/
def signPair (k : PrivateKey) (d : Digest) (extra : Bytes) :
    Except SignatureFault (Curve.Pair × Nat) :=
  ((Curve.nonce? k.secret d.toBytes extra).bind
    (Curve.sign? k.secret (Signature.messageOf d))).elim (.error .signing) .ok

/-- The extra bytes of an attempt after the first. -/
def attemptBytes (d : Digest) (attempt : Nat) : Bytes :=
  (ChaCha.firstBlock (Sha256.hash (d.toBytes ++ littleEndian 4 attempt)).toList).take 32

/-- The first recovery number with which a signature names its signer. -/
def withRecovery? (sig : Curve.Pair) (d : Digest) (own : PublicKey) : Option Signature :=
  ([0, 1, 2, 3].map (Signature.ofPair sig)).find? fun s =>
    match s.recover d with
    | .ok signer => signer = own
    | .error _ => false

/-- Makes `left` more attempts, the first of which has the given number. -/
def signAttempts (k : PrivateKey) (d : Digest) (own : PublicKey) :
    (left attempt : Nat) → Except SignatureFault Signature
  | 0, _ => .error (.notCanonical maxAttempts)
  | left + 1, attempt => do
    let (sig, _) ← k.signPair d (attemptBytes d attempt)
    match (withRecovery? sig d own).filter Signature.isCanonical with
    | some s => return s
    | none => signAttempts k d own left (attempt + 1)

/-- Signs a digest. -/
def sign (k : PrivateKey) (d : Digest) : Except SignatureFault Signature := do
  let (sig, recovery) ← k.signPair d []
  let first := Signature.ofPair sig recovery
  if first.isCanonical then return first
  else signAttempts k d k.publicKey (maxAttempts - 1) 1

end PrivateKey

end LedgerClient
