import Mathlib.Data.List.Basic
import LedgerClient.Key.Private
import LedgerClient.Proofs.Hash.Sha256

/-!
# Keys and what they sign

A signature names its signer: from it and the digest a public key is recovered. A key *signs
soundly* if this is its own public key. Signing takes up to 64 attempts, and all but the first are
checked before they are returned, so that `signsSoundly_of_first` leaves only the first attempt to
be asked about. That this one recovers as well is a fact about the curve, which is assumed wherever
signers matter.

The last section signs and recovers once, with the key and the digest that the tests of signing
share.
-/

namespace LedgerClient

/-- The bytes of a key determine it. -/
theorem PublicKey.toBytes_injective {k l : PublicKey} (h : k.toBytes = l.toBytes) : k = l := by
  have hbytes : k.bytes = l.bytes := Vector.toList_inj.mp h
  cases k
  cases l
  cases hbytes
  rfl

/-- The first number that is drawn for a nonce, its codes computed on numbers. -/
def Curve.firstDraw (secret : Nat) (digest extra : Bytes) : Nat :=
  let message := bigEndian 32 secret ++ digest ++ extra
  let key := Hmac.sha256OnNumbers (List.replicate 32 0) (List.replicate 32 1 ++ 0 :: message)
  let value := Hmac.sha256OnNumbers key (List.replicate 32 1)
  let key := Hmac.sha256OnNumbers key (value ++ 1 :: message)
  let value := Hmac.sha256OnNumbers key value
  ofBigEndian (Hmac.sha256OnNumbers key value)

/-- The first number that is drawn is the nonce unless it is out of range. -/
theorem Curve.nonce?_eq_some {secret k : Nat} {digest extra : Bytes}
    (hdraw : firstDraw secret digest extra = k) (hrange : 0 < k ∧ k < order) :
    nonce? secret digest extra = some k := by
  subst hdraw
  rw [nonce?, nonceTries, NonceState.draw?]
  simp only [NonceState.seeded, NonceState.absorb, Hmac.sha256_eq_onNumbers]
  exact if_pos hrange

namespace PrivateKey

/-- What the key signs of a digest is recovered to its public key. -/
def SignsSoundly (key : PrivateKey) (d : Digest) : Prop :=
  ∀ signature, key.sign d = .ok signature → signature.recover d = .ok key.publicKey

/-! ### Attempts -/

/-- A signature whose recovery number was searched for is recovered to its signer. -/
theorem recover_of_withRecovery? {sig : Curve.Pair} {d : Digest} {own : PublicKey}
    {signature : Signature} (h : withRecovery? sig d own = some signature) :
    signature.recover d = .ok own := by
  have hsigner := List.find?_some h
  split at hsigner
  · rename_i signer hrecover
    rw [hrecover, of_decide_eq_true hsigner]
  · cases hsigner

/-- Whatever the attempts after the first return is recovered to the signer. -/
theorem recover_of_signAttempts {key : PrivateKey} {d : Digest} {own : PublicKey}
    {signature : Signature} : ∀ {left attempt : Nat},
      signAttempts key d own left attempt = .ok signature → signature.recover d = .ok own := by
  intro left
  induction left with
  | zero =>
    intro attempt h
    cases h
  | succ left ih =>
    intro attempt h
    unfold signAttempts at h
    cases hpair : key.signPair d (attemptBytes d attempt) with
    | error fault =>
      rw [hpair] at h
      cases h
    | ok made =>
      rw [hpair] at h
      simp only [Bind.bind, Except.bind] at h
      -- An attempt whose recovery number is not found is followed by the next.
      split at h
      · rename_i found hfound
        cases h
        exact recover_of_withRecovery? (Option.filter_eq_some_iff.mp hfound).1
      · exact ih h

/-- **Sound signing.** A key signs a digest soundly if the pair of the first attempt is recovered to
it. -/
theorem signsSoundly_of_first {key : PrivateKey} {d : Digest}
    (h : ∀ made, key.signPair d [] = .ok made →
      (Signature.ofPair made.1 made.2).recover d = .ok key.publicKey) : key.SignsSoundly d := by
  intro signature hsign
  unfold sign at hsign
  cases hpair : key.signPair d [] with
  | error fault =>
    rw [hpair] at hsign
    cases hsign
  | ok made =>
    rw [hpair] at hsign
    simp only [Bind.bind, Except.bind] at hsign
    split at hsign
    · cases hsign
      exact h made hpair
    · exact recover_of_signAttempts hsign

/-- The pair of the first attempt is the signature if nodes take it. -/
theorem sign_of_isCanonical {key : PrivateKey} {d : Digest} {made : Curve.Pair × Nat}
    (hpair : key.signPair d [] = .ok made)
    (hcanonical : (Signature.ofPair made.1 made.2).isCanonical = true) :
    key.sign d = .ok (Signature.ofPair made.1 made.2) := by
  unfold sign
  rw [hpair]
  simp only [Bind.bind, Except.bind, hcanonical]
  rfl

/-- The pair of an attempt is made with its nonce. -/
theorem signPair_of_nonce? {key : PrivateKey} {d : Digest} {extra : Bytes} {nonce : Nat}
    {made : Curve.Pair × Nat} (hnonce : Curve.nonce? key.secret d.toBytes extra = some nonce)
    (hsign : Curve.sign? key.secret (Signature.messageOf d) nonce = some made) :
    key.signPair d extra = .ok made := by
  rw [signPair, hnonce, Option.bind_some, hsign]
  rfl

/-! ### A signature -/

/-- The key whose secret is the hash of the text "alice". -/
def goldenKey : PrivateKey :=
  ⟨0x2bd806c97f0e00af1a1fc3328fa763a9269723c8db8fac4f93af71db186d6e90, by decide, by decide⟩

/-- The bytes of its public key. -/
def goldenPublic : Bytes :=
  3 :: bigEndian 32 0x9997a497d964fc1a62885b05a51166a65a90df00492c8d7cf61d6accf54803be

/-- A digest to sign. -/
def goldenDigest : Digest :=
  ⟨bigEndianVector 32 0x9514dee83641597426b3dc9ab8530657f8460bef525ef9ca9716a755dda1a8f5⟩

/-- The signature of the digest by the key. -/
def goldenSignature : Signature :=
  .ofPair ⟨0x7e624bdf49bf1be1388ff6f7a2b5115861b6ad454a85d9c614799eaae431bfc7,
    0x75dfec1f5cd88609c205b1dff074c81581fdd777180503da7c2d2fbf5cb0a986⟩ 0

theorem signPair_goldenKey : goldenKey.signPair goldenDigest [] =
    .ok (⟨0x7e624bdf49bf1be1388ff6f7a2b5115861b6ad454a85d9c614799eaae431bfc7,
      0x75dfec1f5cd88609c205b1dff074c81581fdd777180503da7c2d2fbf5cb0a986⟩, 0) := by
  have hnonce : Curve.nonce? goldenKey.secret goldenDigest.toBytes [] =
      some 0xac5da93ffea4cc2b64025f77168a5f67fd100784af359b601748613b21ef496f :=
    Curve.nonce?_eq_some (by decide +kernel) (by decide)
  exact signPair_of_nonce? hnonce (by decide +kernel)

theorem sign_goldenKey : goldenKey.sign goldenDigest = .ok goldenSignature :=
  sign_of_isCanonical signPair_goldenKey rfl

/-- The key is compared with bytes as they are written above, which is quick to decide. -/
theorem toBytes_publicKey_goldenKey : goldenKey.publicKey.toBytes = goldenPublic := by
  decide +kernel

/-- A signature is recovered to the key if it is recovered to the bytes of its public key. -/
theorem recover_eq_goldenKey {signature : Signature} {d : Digest}
    (h : (signature.recover d).map PublicKey.toBytes = .ok goldenPublic) :
    signature.recover d = .ok goldenKey.publicKey := by
  cases hrecover : signature.recover d with
  | error fault =>
    rw [hrecover] at h
    cases h
  | ok signer =>
    rw [hrecover, ← toBytes_publicKey_goldenKey] at h
    exact congrArg Except.ok (PublicKey.toBytes_injective (Except.ok.inj h))

theorem recover_goldenSignature :
    goldenSignature.recover goldenDigest = .ok goldenKey.publicKey :=
  recover_eq_goldenKey (by decide +kernel)

theorem signsSoundly_goldenKey : goldenKey.SignsSoundly goldenDigest := by
  intro signature hsign
  obtain rfl : goldenSignature = signature := Except.ok.inj (sign_goldenKey.symm.trans hsign)
  exact recover_goldenSignature

end PrivateKey

end LedgerClient
