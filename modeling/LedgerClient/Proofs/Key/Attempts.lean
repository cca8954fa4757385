import LedgerClient.Proofs.Key.Signing

/-!
# What signing returns

Signing makes one attempt after another and returns what the first of them settles: the signature if
it is one that nodes take, or the fault if the numbers of a signature cannot be made at all. An
attempt whose numbers do not suit settles nothing. `sign_eq_findSome?` says that this is all there
is to the search, so that what is known of one attempt is known of signing.

`sign_suits` says what follows for signatures and for faults. That a signature names its signer has
to be assumed of the first attempt, whose recovery number comes with the numbers. The others search
theirs, and there it is a fact. The last section has a digest of which nodes do not take the first
attempt, so that a second one is made, and of whose numbers the first recovery number names another
key.
-/

namespace LedgerClient

namespace Signature

/-- Nodes look at the numbers only. -/
theorem isCanonical_ofPair (sig : Curve.Pair) (recovery recovery' : Nat) :
    (ofPair sig recovery).isCanonical = (ofPair sig recovery').isCanonical :=
  rfl

theorem toNat_header_ofPair (sig : Curve.Pair) {recovery : Nat} (h : recovery < 4) :
    (ofPair sig recovery).bytes.head.toNat = 31 + recovery := by
  have hheader : (ofPair sig recovery).bytes.head = UInt8.ofNat (headerBase + recovery) := rfl
  rw [hheader, UInt8.toNat_ofNat', headerBase]
  omega

end Signature

/-- The recovery number of a signature that is made tells the parity alone. -/
theorem Curve.lt_of_sign? {secret message nonce : Nat} {made : Pair × Nat}
    (h : sign? secret message nonce = some made) : made.2 < 2 := by
  simp only [sign?, Option.bind_eq_bind, Option.bind_eq_some_iff] at h
  obtain ⟨point, -, h⟩ := h
  split at h
  · cases h
  · cases h
    simp only
    split <;> omega

namespace PrivateKey

/-! ### Attempts -/

/-- The extra bytes of an attempt. The first, which has the number zero, has none. -/
def extraBytes (d : Digest) (attempt : Nat) : Bytes :=
  if attempt = 0 then [] else attemptBytes d attempt

theorem extraBytes_zero (d : Digest) : extraBytes d 0 = [] :=
  if_pos rfl

theorem extraBytes_succ (d : Digest) (attempt : Nat) :
    extraBytes d (attempt + 1) = attemptBytes d (attempt + 1) :=
  if_neg (Nat.succ_ne_zero attempt)

variable (k : PrivateKey) (d : Digest)

/-- The signature that an attempt makes of its numbers: the first takes the recovery number that
comes with them, the others search the one that names the key. -/
def candidate? (made : Curve.Pair × Nat) : (attempt : Nat) → Option Signature
  | 0 => some (.ofPair made.1 made.2)
  | _ + 1 => withRecovery? made.1 d k.publicKey

/-- What an attempt settles once its numbers are made or cannot be made. -/
def settled? (attempt : Nat) :
    Except SignatureFault (Curve.Pair × Nat) → Option (Except SignatureFault Signature)
  | .error fault => some (.error fault)
  | .ok made => ((k.candidate? d made attempt).filter Signature.isCanonical).map .ok

/-- What an attempt settles. -/
def outcome? (attempt : Nat) : Option (Except SignatureFault Signature) :=
  k.settled? d attempt (k.signPair d (extraBytes d attempt))

theorem signAttempts_eq_findSome? (left attempt : Nat) :
    signAttempts k d k.publicKey left (attempt + 1) =
      ((List.range' (attempt + 1) left).findSome? (k.outcome? d)).getD
        (.error (.notCanonical maxAttempts)) := by
  induction left generalizing attempt with
  | zero => rfl
  | succ left ih =>
    unfold signAttempts
    rw [List.range'_succ, List.findSome?_cons, outcome?, extraBytes_succ]
    cases k.signPair d (attemptBytes d (attempt + 1)) with
    | error fault => rfl
    | ok made =>
      simp only [Bind.bind, Except.bind, settled?, candidate?]
      cases (withRecovery? made.1 d k.publicKey).filter Signature.isCanonical with
      | none => exact ih (attempt + 1)
      | some s => rfl

/-- **The search.** Signing returns what the first attempt settles that settles anything. -/
theorem sign_eq_findSome? :
    k.sign d = ((List.range maxAttempts).findSome? (k.outcome? d)).getD
      (.error (.notCanonical maxAttempts)) := by
  have hrange : List.range maxAttempts = 0 :: List.range' 1 (maxAttempts - 1) := rfl
  unfold sign
  rw [hrange, List.findSome?_cons, outcome?, extraBytes_zero]
  cases k.signPair d [] with
  | error fault => rfl
  | ok made =>
    simp only [Bind.bind, Except.bind, settled?, candidate?, Option.filter_some]
    cases (Signature.ofPair made.1 made.2).isCanonical with
    | false => exact k.signAttempts_eq_findSome? d (maxAttempts - 1) 0
    | true => rfl

variable {k d}

/-! ### Candidates -/

/-- Whether nodes take a signature of the digest and it names the key. -/
def Suits (k : PrivateKey) (d : Digest) (s : Signature) : Prop :=
  s.isCanonical = true ∧ s.recover d = .ok k.publicKey

theorem lt_of_signPair {extra : Bytes} {made : Curve.Pair × Nat}
    (h : k.signPair d extra = .ok made) : made.2 < 2 := by
  rw [signPair] at h
  cases hmade : (Curve.nonce? k.secret d.toBytes extra).bind
      (Curve.sign? k.secret (Signature.messageOf d)) with
  | none =>
    rw [hmade] at h
    cases h
  | some made' =>
    rw [hmade] at h
    obtain rfl := Except.ok.inj h
    obtain ⟨nonce, -, hsign⟩ := Option.bind_eq_some_iff.mp hmade
    exact Curve.lt_of_sign? hsign

theorem mem_recoveries {recovery : Nat} : recovery ∈ [0, 1, 2, 3] ↔ recovery < 4 := by
  simp only [List.mem_cons, List.not_mem_nil, or_false]
  omega

/-- If no recovery number is found, none names the key. -/
theorem recover_ne_of_withRecovery? {sig : Curve.Pair} {own : PublicKey}
    (h : withRecovery? sig d own = none) {recovery : Nat} (hrecovery : recovery < 4) :
    (Signature.ofPair sig recovery).recover d ≠ .ok own := by
  intro hrecover
  have hno := List.find?_eq_none.mp h _
    (List.mem_map.mpr ⟨recovery, mem_recoveries.mpr hrecovery, rfl⟩)
  rw [hrecover] at hno
  simp at hno

/-- A candidate is the numbers of the attempt with one of four recovery numbers. -/
theorem exists_of_candidate? {made : Curve.Pair × Nat} {attempt : Nat} {s : Signature}
    (hmade : made.2 < 2) (h : k.candidate? d made attempt = some s) :
    ∃ recovery < 4, s = .ofPair made.1 recovery := by
  cases attempt with
  | zero => exact ⟨made.2, by omega, (Option.some.inj h).symm⟩
  | succ attempt =>
    obtain ⟨recovery, hmem, rfl⟩ := List.mem_map.mp (List.mem_of_find?_eq_some h)
    exact ⟨recovery, mem_recoveries.mp hmem, rfl⟩

/-- Numbers of which no candidate is taken by nodes suit with no recovery number. -/
theorem not_suits_of_candidate? {made : Curve.Pair × Nat} {attempt : Nat} (hmade : made.2 < 2)
    (h : (k.candidate? d made attempt).filter Signature.isCanonical = none) {recovery : Nat}
    (hrecovery : recovery < 4) : ¬k.Suits d (.ofPair made.1 recovery) := by
  rintro ⟨hcanonical, hrecover⟩
  cases hcandidate : k.candidate? d made attempt with
  | none =>
    cases attempt with
    | zero => cases hcandidate
    | succ attempt => exact recover_ne_of_withRecovery? hcandidate hrecovery hrecover
  | some s =>
    obtain ⟨own, -, rfl⟩ := exists_of_candidate? hmade hcandidate
    rw [hcandidate, Option.filter_some, Signature.isCanonical_ofPair _ _ recovery, hcanonical] at h
    cases h

/-! ### What attempts settle -/

/-- A signature that an attempt settles is its candidate, if nodes take it. -/
theorem of_outcome?_ok {attempt : Nat} {s : Signature}
    (h : k.outcome? d attempt = some (.ok s)) :
    ∃ made, k.signPair d (extraBytes d attempt) = .ok made ∧
      k.candidate? d made attempt = some s ∧ s.isCanonical = true := by
  rw [outcome?] at h
  cases hpair : k.signPair d (extraBytes d attempt) with
  | error fault =>
    rw [hpair] at h
    cases h
  | ok made =>
    rw [hpair, settled?, Option.map_eq_some_iff] at h
    obtain ⟨t, ht, heq⟩ := h
    obtain rfl := Except.ok.inj heq
    obtain ⟨hcandidate, hcanonical⟩ := Option.filter_eq_some_iff.mp ht
    exact ⟨made, rfl, hcandidate, hcanonical⟩

/-- A fault that an attempt settles is that its numbers cannot be made. -/
theorem of_outcome?_error {attempt : Nat} {fault : SignatureFault}
    (h : k.outcome? d attempt = some (.error fault)) :
    k.signPair d (extraBytes d attempt) = .error fault := by
  rw [outcome?] at h
  cases hpair : k.signPair d (extraBytes d attempt) with
  | error fault =>
    rw [hpair] at h
    cases h
    rfl
  | ok made =>
    rw [hpair, settled?, Option.map_eq_some_iff] at h
    obtain ⟨t, -, heq⟩ := h
    cases heq

/-- The numbers of an attempt that settles nothing are made but suit with no recovery number. -/
theorem of_outcome?_none {attempt : Nat} (h : k.outcome? d attempt = none) :
    ∃ made, k.signPair d (extraBytes d attempt) = .ok made ∧ made.2 < 4 ∧
      ∀ recovery < 4, ¬k.Suits d (.ofPair made.1 recovery) := by
  rw [outcome?] at h
  cases hpair : k.signPair d (extraBytes d attempt) with
  | error fault =>
    rw [hpair] at h
    cases h
  | ok made =>
    rw [hpair, settled?, Option.map_eq_none_iff] at h
    have hmade := lt_of_signPair hpair
    exact ⟨made, rfl, by omega, fun _ hrecovery => not_suits_of_candidate? hmade h hrecovery⟩

/-! ### Signing -/

/-- A signature is what an attempt settles. -/
theorem exists_outcome?_of_sign {s : Signature} (h : k.sign d = .ok s) :
    ∃ attempt < maxAttempts, k.outcome? d attempt = some (.ok s) := by
  rw [sign_eq_findSome?] at h
  cases hfound : (List.range maxAttempts).findSome? (k.outcome? d) with
  | none =>
    rw [hfound] at h
    cases h
  | some result =>
    rw [hfound, Option.getD_some] at h
    obtain ⟨attempt, hmem, houtcome⟩ := List.exists_of_findSome?_eq_some hfound
    exact ⟨attempt, List.mem_range.mp hmem, h ▸ houtcome⟩

/-- A fault is what an attempt settles, or no attempt settles anything. -/
theorem exists_outcome?_or_of_sign {fault : SignatureFault} (h : k.sign d = .error fault) :
    (∃ attempt < maxAttempts, k.outcome? d attempt = some (.error fault)) ∨
      fault = .notCanonical maxAttempts ∧
        ∀ attempt < maxAttempts, k.outcome? d attempt = none := by
  rw [sign_eq_findSome?] at h
  cases hfound : (List.range maxAttempts).findSome? (k.outcome? d) with
  | none =>
    rw [hfound, Option.getD_none] at h
    refine .inr ⟨(Except.error.inj h).symm, fun attempt hlt => ?_⟩
    exact List.findSome?_eq_none_iff.mp hfound attempt (List.mem_range.mpr hlt)
  | some result =>
    rw [hfound, Option.getD_some] at h
    obtain ⟨attempt, hmem, houtcome⟩ := List.exists_of_findSome?_eq_some hfound
    exact .inl ⟨attempt, List.mem_range.mp hmem, h ▸ houtcome⟩

/-- Of numbers that name another key with the first recovery number, the second one is taken if it
names the signer. -/
theorem withRecovery?_eq_some_second {sig : Curve.Pair} {own : PublicKey}
    (hother : (Signature.ofPair sig 0).recover d ≠ .ok own)
    (hown : (Signature.ofPair sig 1).recover d = .ok own) :
    withRecovery? sig d own = some (.ofPair sig 1) := by
  rw [withRecovery?, List.map_cons, List.map_cons, List.find?_cons_of_neg, List.find?_cons_of_pos]
  · rw [hown]
    exact decide_eq_true rfl
  · split
    · rename_i signer hsigner
      intro hsame
      exact hother (hsigner.trans (congrArg Except.ok (of_decide_eq_true hsame)))
    · exact Bool.false_ne_true

/-- The second attempt is made if nodes do not take the first. -/
theorem sign_of_second {first second : Curve.Pair × Nat} {s : Signature}
    (hfirst : k.signPair d [] = .ok first)
    (hrefused : (Signature.ofPair first.1 first.2).isCanonical = false)
    (hsecond : k.signPair d (attemptBytes d 1) = .ok second)
    (hfound : withRecovery? second.1 d k.publicKey = some s) (hcanonical : s.isCanonical = true) :
    k.sign d = .ok s := by
  have hrange : List.range maxAttempts = 0 :: 1 :: List.range' 2 (maxAttempts - 2) := rfl
  have hnone : k.outcome? d 0 = none := by
    rw [outcome?, extraBytes_zero, hfirst, settled?, candidate?, Option.filter_some, hrefused]
    rfl
  have hsome : k.outcome? d 1 = some (.ok s) := by
    rw [outcome?, extraBytes_succ, hsecond, settled?, candidate?, hfound, Option.filter_some,
      hcanonical]
    rfl
  rw [sign_eq_findSome?, hrange, List.findSome?_cons, hnone, List.findSome?_cons, hsome]
  rfl

/-- **Signing.** A signature is one that nodes take, and its header announces one of four recovery
numbers. It names the key if the first attempt does with the recovery number that comes with its
numbers, and in any case if nodes do not take the first attempt. There is no signature only if the
numbers of an attempt cannot be made, or if there is no attempt whose numbers suit. -/
theorem sign_suits (k : PrivateKey) (d : Digest) :
    (∀ s, k.sign d = .ok s →
      s.isCanonical = true ∧ 31 ≤ s.bytes.head.toNat ∧ s.bytes.head.toNat ≤ 34 ∧
      ((∀ made, k.signPair d [] = .ok made →
        (Signature.ofPair made.1 made.2).recover d = .ok k.publicKey) →
          s.recover d = .ok k.publicKey) ∧
      ((∀ made, k.signPair d [] = .ok made →
        (Signature.ofPair made.1 made.2).isCanonical = false) →
          s.recover d = .ok k.publicKey)) ∧
    ∀ fault, k.sign d = .error fault →
      (∃ attempt < maxAttempts, k.signPair d (extraBytes d attempt) = .error fault) ∨
      fault = .notCanonical maxAttempts ∧ ∀ attempt < maxAttempts, ∃ made,
        k.signPair d (extraBytes d attempt) = .ok made ∧ made.2 < 4 ∧
          ∀ recovery < 4, ¬k.Suits d (.ofPair made.1 recovery) := by
  refine ⟨fun s h => ?_, fun fault h => ?_⟩
  · obtain ⟨attempt, -, houtcome⟩ := exists_outcome?_of_sign h
    obtain ⟨made, hpair, hcandidate, hcanonical⟩ := of_outcome?_ok houtcome
    obtain ⟨recovery, hrecovery, hs⟩ := exists_of_candidate? (lt_of_signPair hpair) hcandidate
    have hheader : s.bytes.head.toNat = 31 + recovery := by
      rw [hs, Signature.toNat_header_ofPair _ hrecovery]
    refine ⟨hcanonical, by omega, by omega, ?_⟩
    cases attempt with
    | zero =>
      rw [extraBytes_zero] at hpair
      obtain rfl : Signature.ofPair made.1 made.2 = s := Option.some.inj hcandidate
      refine ⟨fun hmatches => hmatches made hpair, fun hnever => ?_⟩
      rw [hnever made hpair] at hcanonical
      cases hcanonical
    | succ attempt =>
      have hrecover := recover_of_withRecovery? hcandidate
      exact ⟨fun _ => hrecover, fun _ => hrecover⟩
  · rcases exists_outcome?_or_of_sign h with ⟨attempt, hlt, houtcome⟩ | ⟨hfault, hnone⟩
    · exact .inl ⟨attempt, hlt, of_outcome?_error houtcome⟩
    · exact .inr ⟨hfault, fun attempt hlt => of_outcome?_none (hnone attempt hlt)⟩

/-! ### A signature of the second attempt -/

/-- A digest of which nodes do not take the first attempt. -/
def retriedDigest : Digest :=
  ⟨bigEndianVector 32 17⟩

/-- The numbers of the first attempt, which name the key but are not taken. -/
def refusedPair : Curve.Pair × Nat :=
  (⟨0x977467abe8892d000ca58cd99aab665e64086943e936d72e2c4fb4d1ed93e331,
    0x26d85001f3a0eed62fd2cef9202c980fa30fd3a4b1c33ad5a3cb137412c1e037⟩, 1)

/-- The numbers of the second attempt. -/
def retriedPair : Curve.Pair :=
  ⟨0x223bbdde8dd5fcf2f6a685b81a9321419a23241e48cf350ae4c2b53d2eba66e5,
    0x3d763f15dd589fc7994b4a45b77b1dfabf80b15d074d037e19ec185e91bb6e5d⟩

/-- The numbers of the two attempts, of which the second mixes bytes of its own into its nonce. -/
theorem signPair_retriedDigest :
    goldenKey.signPair retriedDigest [] = .ok refusedPair ∧
      goldenKey.signPair retriedDigest (attemptBytes retriedDigest 1) = .ok (retriedPair, 1) := by
  have hfirst : Curve.nonce? goldenKey.secret retriedDigest.toBytes [] =
      some 0x8932ead6d131746b0e7f544ae965032711dba6396e5a209e3589f5cefe9190c4 :=
    Curve.nonce?_eq_some (by decide +kernel) (by decide)
  have hextra : attemptBytes retriedDigest 1 =
      bigEndian 32 0xe3eb4da628b222bf86bdcab6de112c78a0e690dddf88401027382b030078173e := by
    rw [attemptBytes, Sha256.hash_eq_onNumbers]
    decide +kernel
  have hsecond : Curve.nonce? goldenKey.secret retriedDigest.toBytes
      (attemptBytes retriedDigest 1) =
      some 0xc17e9692c253cc6d7b16bd14c86661e9e42635b8ed56d404862a2b47cf592971 := by
    rw [hextra]
    exact Curve.nonce?_eq_some (by decide +kernel) (by decide)
  constructor
  · exact signPair_of_nonce? hfirst (by decide +kernel)
  · exact signPair_of_nonce? hsecond (by decide +kernel)

/-- With the recovery number zero the numbers of the second attempt name another key. -/
theorem withRecovery?_retriedPair :
    withRecovery? retriedPair retriedDigest goldenKey.publicKey = some (.ofPair retriedPair 1) := by
  have hother : ((Signature.ofPair retriedPair 0).recover retriedDigest).map PublicKey.toBytes ≠
      .ok goldenPublic := by
    decide +kernel
  refine withRecovery?_eq_some_second (fun hrecover => ?_)
    (recover_eq_goldenKey (by decide +kernel))
  rw [hrecover] at hother
  exact hother (congrArg Except.ok toBytes_publicKey_goldenKey)

theorem sign_retriedDigest : goldenKey.sign retriedDigest = .ok (.ofPair retriedPair 1) :=
  sign_of_second signPair_retriedDigest.1 rfl signPair_retriedDigest.2 withRecovery?_retriedPair rfl

/-- Nodes take the first attempt at one digest, which names the key; they do not take that at
another digest, and the second attempt at it names the key. -/
theorem sign_suits_goldenKey :
    (goldenSignature.isCanonical = true ∧ 31 ≤ goldenSignature.bytes.head.toNat ∧
      goldenSignature.bytes.head.toNat ≤ 34 ∧
      goldenSignature.recover goldenDigest = .ok goldenKey.publicKey) ∧
    (Signature.ofPair refusedPair.1 refusedPair.2).isCanonical = false ∧
    goldenKey.sign retriedDigest = .ok (.ofPair retriedPair 1) ∧
    (Signature.ofPair retriedPair 1).isCanonical = true ∧
    (Signature.ofPair retriedPair 1).recover retriedDigest = .ok goldenKey.publicKey := by
  obtain ⟨hcanonical, hlow, hhigh, hmatches, -⟩ :=
    (sign_suits goldenKey goldenDigest).1 goldenSignature sign_goldenKey
  obtain ⟨hretried, -, -, -, hnever⟩ :=
    (sign_suits goldenKey retriedDigest).1 (.ofPair retriedPair 1) sign_retriedDigest
  have hrefused : (Signature.ofPair refusedPair.1 refusedPair.2).isCanonical = false := rfl
  refine ⟨⟨hcanonical, hlow, hhigh, hmatches fun made hmade => ?_⟩, hrefused, sign_retriedDigest,
    hretried, hnever fun made hmade => ?_⟩
  · obtain rfl := Except.ok.inj (signPair_goldenKey.symm.trans hmade)
    exact recover_goldenSignature
  · obtain rfl := Except.ok.inj (signPair_retriedDigest.1.symm.trans hmade)
    exact hrefused

end PrivateKey

end LedgerClient
