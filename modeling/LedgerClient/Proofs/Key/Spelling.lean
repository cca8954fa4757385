import LedgerClient.Key.Private
import LedgerClient.Proofs.Bytes.Endian
import LedgerClient.Proofs.Key.Text

/-!
# Keys have one text

The text of a key is read as the key, and no other text is. This is so for public keys under any
address tag, also one that looks like base 58 itself, and for private keys. A text determines its
bytes in base 58, and of the bytes nothing is left open either: their number is fixed, the last four
are the checksum of the others, and those are the bytes of one key. Of the hashes no more is used
than that a checksum has four bytes.
-/

namespace LedgerClient

/-! ### Public keys -/

namespace PublicKey

/-- What is left of a text less its tag follows the tag. -/
theorem eq_append_of_dropTag? {tag s rest : String} (h : dropTag? tag s = some rest) :
    s = tag ++ rest := by
  rw [dropTag?] at h
  split at h
  · rename_i hprefix
    obtain ⟨chars, hchars⟩ := List.isPrefixOf_iff_prefix.mp hprefix
    obtain rfl := Option.some.inj h
    rw [← String.toList_inj, String.toList_append, String.toList_ofList, ← hchars,
      List.drop_left' String.length_toList]
  · cases h

/-- Bytes are read as a key exactly if they are its bytes. -/
theorem ofBytes_eq_ok_iff {bytes : Vector UInt8 33} {k : PublicKey} :
    ofBytes bytes = .ok k ↔ k.bytes = bytes := by
  constructor
  · intro h
    rw [ofBytes] at h
    split at h
    · cases h
      rfl
    · cases h
  · rintro rfl
    exact dif_pos k.accepted

/-- Bytes that are read as a key with its checksum are these. -/
theorem eq_append_of_ofChecked {bytes : Bytes} {k : PublicKey} (h : ofChecked bytes = .ok k) :
    bytes = k.toBytes ++ checksum k.toBytes := by
  rw [ofChecked] at h
  split at h
  · cases h
  · simp only at h
    split at h
    · cases h
    · rename_i hsum
      split at h
      · have hkey : k.toBytes = bytes.take 33 := by
          rw [toBytes, ofBytes_eq_ok_iff.mp h]
          rfl
        rw [hkey, not_not.mp hsum, List.take_append_drop]
      · cases h

/-- **The text of a public key.** Under any address tag a text is read as a key exactly if it is the
text of this key. -/
theorem ofTextWithTag_eq_ok_iff (tag s : String) (k : PublicKey) :
    ofTextWithTag tag s = .ok k ↔ s = k.textWithTag tag := by
  constructor
  · intro h
    rw [ofTextWithTag] at h
    split at h
    · cases h
    · rename_i encoded hdrop
      split at h
      · cases h
      · rename_i bytes hdecode
        rw [eq_append_of_dropTag? hdrop, Base58.decode_eq_ok_iff.mp hdecode,
          eq_append_of_ofChecked h]
        rfl
  · rintro rfl
    exact k.ofTextWithTag_textWithTag tag

end PublicKey

/-! ### Private keys -/

namespace PrivateKey

theorem length_checksum (bytes : Bytes) : (checksum bytes).length = 4 := by
  simp [checksum]

theorem length_toBytes (k : PrivateKey) : k.toBytes.length = 32 :=
  length_bigEndian 32 k.secret

theorem ofBigEndian_toBytes (k : PrivateKey) : ofBigEndian k.toBytes = k.secret :=
  ofBigEndian_bigEndian (k.lt_order.trans (by decide))

theorem ofNat_eq_ok_iff {n : Nat} {k : PrivateKey} : ofNat n = .ok k ↔ k.secret = n := by
  constructor
  · intro h
    rw [ofNat] at h
    split at h
    · cases h
      rfl
    · cases h
  · rintro rfl
    exact dif_pos ⟨k.pos, k.lt_order⟩

theorem exists_ofNat_iff {n : Nat} : (∃ k, ofNat n = .ok k) ↔ 0 < n ∧ n < Curve.order := by
  simp only [ofNat_eq_ok_iff]
  constructor
  · rintro ⟨k, rfl⟩
    exact ⟨k.pos, k.lt_order⟩
  · rintro ⟨hpos, hlt⟩
    exact ⟨⟨n, hpos, hlt⟩, rfl⟩

/-- Of 32 bytes only those of a key are read as this key. -/
theorem ofBytes_eq_ok_iff {bytes : Bytes} (hlength : bytes.length = 32) {k : PrivateKey} :
    ofBytes bytes = .ok k ↔ bytes = k.toBytes := by
  rw [ofBytes, ofNat_eq_ok_iff, toBytes]
  constructor
  · intro h
    rw [h, bigEndian_ofBigEndian hlength]
  · rintro rfl
    exact (ofBigEndian_toBytes k).symm

/-- The bytes of a text that is read as a key are a version byte and 32 bytes of a key. -/
theorem ofText_eq_ok_iff_exists {s : String} {k : PrivateKey} :
    ofText s = .ok k ↔ ∃ secret : Bytes, secret.length = 32 ∧
      s = Base58.encodeChecked checksum (version :: secret) ∧ ofBytes secret = .ok k := by
  constructor
  · intro h
    rw [ofText] at h
    split at h
    · cases h
    · cases h
    · rename_i v secret hdecode
      split at h
      · cases h
      · rename_i hversion
        split at h
        · rename_i hlength
          rw [not_not.mp hversion] at hdecode
          exact ⟨secret, hlength, (Base58.decodeChecked_eq_ok_iff length_checksum).mp hdecode, h⟩
        · cases h
  · rintro ⟨secret, hlength, rfl, hbytes⟩
    simp only [ofText, (Base58.decodeChecked_eq_ok_iff length_checksum).mpr rfl, ne_eq,
      not_true_eq_false, if_false, if_pos hlength, hbytes]

/-- **The text of a private key.** A text is read as a key exactly if it is the text of this key.
The bytes of such a text in base 58 are the version byte, 32 bytes that stand for a number which is
neither zero nor beyond the order of the group, and the checksum of these 33, and no others. -/
theorem ofText_eq_ok_iff_text :
    (∀ (s : String) (k : PrivateKey), ofText s = .ok k ↔ s = k.text) ∧
    ∀ all : Bytes, (∃ k, ofText (Base58.encode all) = .ok k) ↔ ∃ secret : Bytes,
      all = version :: secret ++ checksum (version :: secret) ∧ secret.length = 32 ∧
        0 < ofBigEndian secret ∧ ofBigEndian secret < Curve.order := by
  refine ⟨fun s k => ?_, fun all => ?_⟩
  · rw [ofText_eq_ok_iff_exists]
    constructor
    · rintro ⟨secret, hlength, rfl, hbytes⟩
      rw [text, (ofBytes_eq_ok_iff hlength).mp hbytes]
    · rintro rfl
      exact ⟨k.toBytes, k.length_toBytes, rfl, (ofBytes_eq_ok_iff k.length_toBytes).mpr rfl⟩
  · constructor
    · rintro ⟨k, h⟩
      obtain ⟨secret, hlength, hencode, hbytes⟩ := ofText_eq_ok_iff_exists.mp h
      exact ⟨secret, Base58.encode_injective hencode, hlength, exists_ofNat_iff.mp ⟨k, hbytes⟩⟩
    · rintro ⟨secret, rfl, hlength, hrange⟩
      obtain ⟨k, hk⟩ := exists_ofNat_iff.mpr hrange
      exact ⟨k, ofText_eq_ok_iff_exists.mpr ⟨secret, hlength, rfl, hk⟩⟩

end PrivateKey

end LedgerClient
