import LedgerClient.Proofs.Bytes.Endian
import LedgerClient.Proofs.Curve.Point
import LedgerClient.Proofs.Json.Form
import LedgerClient.Proofs.Key.Signing
import LedgerClient.Proofs.Key.Spelling

/-!
# Keys and the points they stand for

The bytes of a key `Denotes` a point: a tag, which tells the parity of the second coordinate, is
followed by the first coordinate. Every key but that of zeros stands for exactly one point. Keys are
compared by their bytes, though, and two of these can stand for one point: the tag 5 is accepted as
well as the tag 2, and both mean an even second coordinate. Recovery never gives the tag 5, and so a
key with this tag verifies nothing, `forms_of_point`.
-/

namespace LedgerClient

/-! ### What the bytes of a key stand for -/

/-- Whether a tag goes with a second coordinate: the tag 3 with an odd one, the tags 2 and 5 with an
even one. -/
def Curve.TagFits (tag : UInt8) (y : Nat) : Prop :=
  tag = 3 ∧ y % 2 = 1 ∨ (tag = 2 ∨ tag = 5) ∧ y % 2 = 0

/-- Of the tags that go with a second coordinate one is that of the compressed form, and only the
tag 5 can be another. -/
theorem Curve.eq_iff_tagFits {tag : UInt8} {y : Nat} :
    (tag = if y % 2 = 1 then 3 else 2) ↔ tag ≠ 5 ∧ Curve.TagFits tag y := by
  rw [Curve.TagFits]
  rcases Nat.mod_two_eq_zero_or_one y with hy | hy <;> grind

namespace PublicKey

/-- Whether bytes stand for a point of the curve. -/
def Denotes (bytes : Vector UInt8 33) (P : Curve.Affine) : Prop :=
  P.IsOnCurve ∧ bytes.toList = bytes.head :: bigEndian 32 P.x ∧ Curve.TagFits bytes.head P.y

/-- The tag of a key and the 32 bytes behind it. -/
theorem exists_toList_eq (bytes : Vector UInt8 33) :
    ∃ x : Bytes, bytes.toList = bytes.head :: x ∧ x.length = 32 := by
  obtain ⟨⟨l⟩, hlength⟩ := bytes
  match l, hlength with
  | tag :: x, hlength => exact ⟨x, rfl, by simpa using hlength⟩

/-- The point that bytes stand for is lifted from the first coordinate behind the tag. -/
theorem denotes_iff_lift? {bytes : Vector UInt8 33} {P : Curve.Affine} :
    Denotes bytes P ↔ (bytes.head = 2 ∨ bytes.head = 3 ∨ bytes.head = 5) ∧
      Curve.lift? (ofBigEndian bytes.toList.tail) (bytes.head = 3) = some P := by
  obtain ⟨x, hbytes, hlength⟩ := exists_toList_eq bytes
  have hcoordinate (hP : P.IsOnCurve) : x = bigEndian 32 P.x ↔ P.x = ofBigEndian x := by
    constructor
    · rintro rfl
      exact (ofBigEndian_bigEndian (hP.x_lt.trans (by decide))).symm
    · intro hx
      rw [hx, bigEndian_ofBigEndian hlength]
  rw [Denotes, Curve.lift?_eq_some_iff, hbytes, List.tail_cons, List.cons_inj_right]
  constructor
  · rintro ⟨hP, hx, ⟨htag, hy⟩ | ⟨htag, hy⟩⟩
    · exact ⟨.inr (.inl htag), hP, (hcoordinate hP).mp hx, by simp [htag, hy]⟩
    · refine ⟨by tauto, hP, (hcoordinate hP).mp hx, ?_⟩
      rcases htag with htag | htag <;> simp [htag, hy]
  · rintro ⟨htag, hP, hx, hy⟩
    refine ⟨hP, (hcoordinate hP).mpr hx, ?_⟩
    rcases htag with htag | htag | htag
    · exact .inr ⟨.inl htag, by simpa [htag] using hy⟩
    · exact .inl ⟨htag, by simpa [htag] using hy⟩
    · exact .inr ⟨.inr htag, by simpa [htag] using hy⟩

/-- Bytes other than zeros are accepted if they stand for a point, which is the only one. -/
theorem accepts_iff_existsUnique {bytes : Vector UInt8 33} (hne : bytes ≠ Vector.replicate 33 0) :
    acceptsKeyBytes bytes = true ↔ ∃! P, Denotes bytes P := by
  obtain ⟨x, hbytes, -⟩ := exists_toList_eq bytes
  have haccepts : acceptsKeyBytes bytes = true ↔
      (bytes.head = 2 ∨ bytes.head = 3 ∨ bytes.head = 5) ∧
        (Curve.lift? (ofBigEndian x) (bytes.head = 3)).isSome := by
    rw [Curve.isSome_lift? _ _ false]
    simp [acceptsKeyBytes, hne, hbytes, Curve.isCompressedPoint, or_assoc]
  rw [haccepts]
  simp only [denotes_iff_lift?, hbytes, List.tail_cons, Option.isSome_iff_exists]
  constructor
  · rintro ⟨htag, P, hP⟩
    exact ⟨P, ⟨htag, hP⟩, fun Q hQ => Option.some.inj (hQ.2.symm.trans hP)⟩
  · rintro ⟨P, ⟨htag, hP⟩, -⟩
    exact ⟨htag, P, hP⟩

/-- Bytes that stand for one point differ in the tag at most. -/
theorem eq_iff_of_denotes {bytes bytes' : Vector UInt8 33} {P : Curve.Affine}
    (h : Denotes bytes P) (h' : Denotes bytes' P) : bytes = bytes' ↔ bytes.head = bytes'.head := by
  refine ⟨fun heq => by rw [heq], fun htag => Vector.toList_inj.mp ?_⟩
  rw [h.2.1, h'.2.1, htag]

/-! ### Recovered keys -/

/-- The key of a point has the compressed form of the point. -/
theorem ofPoint?_eq_some_iff {P : Curve.Affine} {k : PublicKey} :
    ofPoint? P = some k ↔ k.toBytes = Curve.compress P := by
  have hlength : (Curve.compress P).length = 33 := by simp [Curve.compress]
  have hpoint : ofPoint? P = (ofBytes ⟨(Curve.compress P).toArray, hlength⟩).toOption := by
    rw [ofPoint?]
    exact dif_pos hlength
  have hbytes : k.bytes = ⟨(Curve.compress P).toArray, hlength⟩ ↔
      k.toBytes = Curve.compress P := by
    rw [toBytes, ← Vector.toList_inj]
    rfl
  rw [hpoint, ← hbytes, ← ofBytes_eq_ok_iff]
  cases ofBytes ⟨(Curve.compress P).toArray, hlength⟩ <;> simp [Except.toOption]

/-- The compressed form is the one whose tag is not 5. -/
theorem toBytes_eq_compress_iff {P : Curve.Affine} (hP : P.IsOnCurve) {k : PublicKey} :
    k.toBytes = Curve.compress P ↔ k.bytes.head ≠ 5 ∧ Denotes k.bytes P := by
  obtain ⟨x, hbytes, -⟩ := exists_toList_eq k.bytes
  rw [toBytes, Denotes, Curve.compress, hbytes, List.cons_eq_cons, Curve.eq_iff_tagFits,
    List.cons_inj_right]
  tauto

end PublicKey

/-! ### Verification -/

/-- Whether a point is recovered from a signature of a digest. -/
def Signature.RecoversTo (s : Signature) (d : Digest) (P : Curve.Affine) : Prop :=
  ∃ recovery sig, recoveryNumber s.bytes.head = .ok recovery ∧ s.pair = .ok sig ∧
    Curve.recover? (messageOf d) sig recovery = some P

namespace Signature

theorem recover_eq_ok_iff_ofPoint? {s : Signature} {d : Digest} {k : PublicKey} :
    s.recover d = .ok k ↔ ∃ P, s.RecoversTo d P ∧ PublicKey.ofPoint? P = some k := by
  rw [recover]
  simp only [Json.bind_eq_ok_iff]
  constructor
  · rintro ⟨recovery, hrecovery, sig, hpair, h⟩
    split at h
    · rename_i signer hsigner
      cases h
      obtain ⟨P, hP, hk⟩ := Option.bind_eq_some_iff.mp hsigner
      exact ⟨P, ⟨recovery, sig, hrecovery, hpair, hP⟩, hk⟩
    · cases h
  · rintro ⟨P, ⟨recovery, sig, hrecovery, hpair, hP⟩, hk⟩
    refine ⟨recovery, hrecovery, sig, hpair, ?_⟩
    simp only [hP, Option.bind_some, hk]
    rfl

/-- The key that is recovered is the compressed form of the point. -/
theorem recover_eq_ok_iff {s : Signature} {d : Digest} {k : PublicKey} :
    s.recover d = .ok k ↔
      k.bytes.head ≠ 5 ∧ ∃ P, s.RecoversTo d P ∧ PublicKey.Denotes k.bytes P := by
  rw [recover_eq_ok_iff_ofPoint?]
  simp only [PublicKey.ofPoint?_eq_some_iff]
  constructor
  · rintro ⟨P, hP, hbytes⟩
    obtain ⟨recovery, sig, -, -, hpoint⟩ := id hP
    obtain ⟨htag, hdenotes⟩ :=
      (PublicKey.toBytes_eq_compress_iff (Curve.isOnCurve_of_recover? hpoint)).mp hbytes
    exact ⟨htag, P, hP, hdenotes⟩
  · rintro ⟨htag, P, hP, hdenotes⟩
    exact ⟨P, hP, (PublicKey.toBytes_eq_compress_iff hdenotes.1).mpr ⟨htag, hdenotes⟩⟩

end Signature

namespace PublicKey

/-- The zeros stand for no point. -/
theorem not_denotes_null (P : Curve.Affine) : ¬Denotes null.bytes P := by
  rintro ⟨-, -, ⟨htag, -⟩ | ⟨htag | htag, -⟩⟩ <;> exact absurd htag (by decide)

theorem verifies_iff_recover {k : PublicKey} {d : Digest} {s : Signature} :
    k.verifies d s = true ↔ k ≠ null ∧ s.recover d = .ok k := by
  rw [verifies, Bool.and_eq_true, isNull]
  cases s.recover d <;> simp

/-! ### Forms of a point -/

/-- The generator in compressed form. -/
def compressedGenerator : PublicKey where
  bytes := ⟨(2 :: bigEndian 32 Curve.generator.x).toArray, by simp⟩
  accepted := by decide +kernel

/-- The generator in compact form. -/
def compactGenerator : PublicKey where
  bytes := ⟨(5 :: bigEndian 32 Curve.generator.x).toArray, by simp⟩
  accepted := by decide +kernel

/-- A signature that was made with the secret of one, whose public key is the generator. -/
def generatorSignature : Signature :=
  .ofPair ⟨0x6e8115df2a42d1258f04d37ee7abd3a47ab8bf5ed7dde5dde10ebce4c3abff01,
    0xd75a39695cb20ac94f536bed549d5072c46a9e4e64067adc2a240c6d5be6393⟩ 0

theorem denotes_compressedGenerator : Denotes compressedGenerator.bytes Curve.generator :=
  ⟨Curve.isOnCurve_generator, rfl, .inr ⟨.inl rfl, by decide⟩⟩

theorem denotes_compactGenerator : Denotes compactGenerator.bytes Curve.generator :=
  ⟨Curve.isOnCurve_generator, rfl, .inr ⟨.inr rfl, by decide⟩⟩

theorem recoversTo_generator :
    generatorSignature.RecoversTo PrivateKey.goldenDigest Curve.generator :=
  ⟨0, ⟨0x6e8115df2a42d1258f04d37ee7abd3a47ab8bf5ed7dde5dde10ebce4c3abff01,
    0xd75a39695cb20ac94f536bed549d5072c46a9e4e64067adc2a240c6d5be6393⟩,
    by decide +kernel, by decide +kernel, by decide +kernel⟩

/-- **Keys and points.** Bytes other than zeros are accepted as a key exactly if they stand for a
point, and then for only one. Bytes that stand for the same point are the same unless one of them
has the tag 5 and the other has not. A key verifies a signature of a digest exactly if it stands for
the point that is recovered and has not the tag 5. -/
theorem forms_of_point (bytes bytes' : Vector UInt8 33) (k : PublicKey) (d : Digest)
    (s : Signature) :
    (bytes ≠ Vector.replicate 33 0 → ((∃ k, ofBytes bytes = .ok k) ↔ ∃! P, Denotes bytes P)) ∧
    (∀ P, Denotes bytes P → Denotes bytes' P →
      (bytes = bytes' ↔ (bytes.head = 5 ↔ bytes'.head = 5))) ∧
    (k.verifies d s = true ↔
      k.bytes.head ≠ 5 ∧ ∃ P, s.RecoversTo d P ∧ Denotes k.bytes P) := by
  refine ⟨fun hne => ?_, fun P h h' => ?_, ?_⟩
  · rw [← accepts_iff_existsUnique hne]
    simp only [ofBytes_eq_ok_iff]
    exact ⟨fun ⟨k, hk⟩ => hk ▸ k.accepted, fun h => ⟨⟨bytes, h⟩, rfl⟩⟩
  · rw [eq_iff_of_denotes h h']
    refine ⟨fun htag => by rw [htag], fun htag => ?_⟩
    have hfits := h.2.2
    have hfits' := h'.2.2
    rw [Curve.TagFits] at hfits hfits'
    grind
  · rw [verifies_iff_recover, Signature.recover_eq_ok_iff]
    refine ⟨fun h => h.2, fun h => ⟨?_, h⟩⟩
    rintro rfl
    obtain ⟨-, P, -, hP⟩ := h
    exact not_denotes_null P hP

theorem forms_of_point_generator :
    (∃! P, Denotes compactGenerator.bytes P) ∧
    compactGenerator.bytes ≠ compressedGenerator.bytes ∧
    compressedGenerator.verifies PrivateKey.goldenDigest generatorSignature = true := by
  obtain ⟨haccepts, hforms, hverifies⟩ := forms_of_point compactGenerator.bytes
    compressedGenerator.bytes compressedGenerator PrivateKey.goldenDigest generatorSignature
  refine ⟨(haccepts (by decide)).mp ⟨compactGenerator, ofBytes_eq_ok_iff.mpr rfl⟩, fun heq => ?_,
    hverifies.mpr ⟨by decide, _, recoversTo_generator, denotes_compressedGenerator⟩⟩
  have htag := (hforms _ denotes_compactGenerator denotes_compressedGenerator).mp heq
  exact absurd htag (by decide)

/-- One point, two keys: the compact form of the generator is accepted and stands for the point that
is recovered, but it is another key and does not verify the signature. -/
theorem compactGenerator_does_not_verify :
    Denotes compressedGenerator.bytes Curve.generator ∧
    Denotes compactGenerator.bytes Curve.generator ∧
    compressedGenerator ≠ compactGenerator ∧
    generatorSignature.RecoversTo PrivateKey.goldenDigest Curve.generator ∧
    compactGenerator.verifies PrivateKey.goldenDigest generatorSignature = false := by
  refine ⟨denotes_compressedGenerator, denotes_compactGenerator, by decide, recoversTo_generator,
    Bool.eq_false_iff.mpr fun h => ?_⟩
  exact (Signature.recover_eq_ok_iff.mp (verifies_iff_recover.mp h).2).1 rfl

end PublicKey

end LedgerClient
