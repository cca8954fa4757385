import LedgerClient.Curve.Point
import LedgerClient.Hash.Hmac

/-!
# Recoverable signatures on the curve

A signature of a hashed message is a pair of numbers below the order of the group, together with a
recovery number that tells which point the signer's nonce gave. Nonces are derived from the secret
and the message, so that signing needs no randomness.
-/

namespace LedgerClient.Curve

/-! ### Nonces -/

/-- The key and the value of the generator that nonces are drawn from. -/
structure NonceState where
  /-- The key of the authentication code. -/
  key : Bytes
  /-- The value that is hashed on. -/
  value : Bytes

namespace NonceState

/-- Mixes a marked message into the key and hashes the value on. -/
def absorb (s : NonceState) (mark : UInt8) (message : Bytes) : NonceState :=
  let key := Hmac.sha256 s.key (s.value ++ mark :: message)
  ⟨key, Hmac.sha256 key s.value⟩

/-- The generator for a secret and a message. -/
def seeded (message : Bytes) : NonceState :=
  let s : NonceState := ⟨List.replicate 32 0, List.replicate 32 1⟩
  (s.absorb 0 message).absorb 1 message

/-- The first number drawn that is not zero and lies below the order, out of `tries`. -/
def draw? (s : NonceState) : (tries : Nat) → Option Nat
  | 0 => none
  | tries + 1 =>
    let value := Hmac.sha256 s.key s.value
    let k := ofBigEndian value
    if 0 < k ∧ k < order then some k
    else
      let key := Hmac.sha256 s.key (value ++ [0])
      draw? ⟨key, Hmac.sha256 key value⟩ tries

end NonceState

/-- How many numbers are drawn for one nonce: all but one in `2¹²⁷` are in range. -/
def nonceTries : Nat := 64

/-- The nonce for a secret, a digest and extra bytes. -/
def nonce? (secret : Nat) (digest extra : Bytes) : Option Nat :=
  (NonceState.seeded (bigEndian 32 secret ++ digest ++ extra)).draw? nonceTries

/-! ### Signing -/

/-- The two numbers of a signature. -/
structure Pair where
  /-- The first coordinate of the nonce's point, modulo the order. -/
  r : Nat
  /-- The number that ties secret, message and nonce. -/
  s : Nat
  deriving DecidableEq, Repr

/-- The largest value of `s` in a signature: of `s` and `order - s` the smaller one is used. -/
def halfOrder : Nat := order / 2

/-- Signs a message with a nonce: the signature and its recovery number. -/
def sign? (secret message k : Nat) : Option (Pair × Nat) := do
  let point ← (Point.multiple (.ofAffine generator) k).toAffine?
  let r := point.x % order
  let s := inverse order k * (message + r * secret) % order
  if r = 0 ∨ s = 0 then none
  else
    let high := halfOrder < s
    return (⟨r, if high then order - s else s⟩, if (point.y % 2 = 1) = high then 0 else 1)

/-! ### Recovery -/

/-- The point that made a signature of a message, for a recovery number from zero to three. -/
def recover? (message : Nat) (sig : Pair) (recovery : Nat) : Option Affine := do
  let x := if 2 ≤ recovery then sig.r + order else sig.r
  let point ← lift? x (recovery % 2 = 1)
  let inv := inverse order sig.r
  let a := (order - inv * message % order) % order
  let b := inv * sig.s % order
  let key ← (Point.combination (.ofAffine generator) (.ofAffine point) a b 256).toAffine?
  if sig.s ≤ halfOrder then return key else none

/-- The bytes of a point: the parity of the second coordinate and the first coordinate. -/
def compress (p : Affine) : Bytes :=
  (if p.y % 2 = 1 then 3 else 2) :: bigEndian 32 p.x

end LedgerClient.Curve
