import LedgerClient.Key.Signature
import LedgerClient.Proofs.Bytes.Base58
import LedgerClient.Proofs.Bytes.Hex

/-!
# Keys, signatures and identifiers are read back from their text

The text of a key is the address tag, whatever it is, and the bytes of the key with their checksum
in base 58; the text of a signature or an identifier is its bytes in hexadecimal digits.
-/

namespace LedgerClient

namespace Ripemd160

theorem length_hash (bytes : Bytes) : (hash bytes).length = 20 := by
  simp [hash]

end Ripemd160

namespace PublicKey

theorem length_checksum (key : Bytes) : (checksum key).length = 4 := by
  simp [checksum, Ripemd160.length_hash]

/-- The tag in front of a text is dropped. -/
theorem dropTag?_append (tag s : String) : dropTag? tag (tag ++ s) = some s := by
  have hdrop : (tag.toList ++ s.toList).drop tag.length = s.toList :=
    List.drop_left' String.length_toList
  simp [dropTag?, hdrop]

/-- The bytes of a key with their checksum are read as the key. -/
theorem ofChecked_toBytes (k : PublicKey) :
    ofChecked (k.toBytes ++ checksum k.toBytes) = .ok k := by
  have hlen : k.toBytes.length = 33 := Vector.length_toList
  have hall : (k.toBytes ++ checksum k.toBytes).length = 37 := by
    rw [List.length_append, hlen, length_checksum]
  have htake : (k.toBytes ++ checksum k.toBytes).take 33 = k.toBytes := List.take_left' hlen
  have hdrop : (k.toBytes ++ checksum k.toBytes).drop 33 = checksum k.toBytes :=
    List.drop_left' hlen
  have hkey : ofBytes ⟨k.toBytes.toArray, by simpa using hlen⟩ = .ok k := dif_pos k.accepted
  simp only [ofChecked, hall, htake, hdrop, ne_eq, not_true_eq_false, if_false, dif_pos hlen, hkey]

/-- **Keys.** The text of a key under any tag is read as the key. -/
theorem ofTextWithTag_textWithTag (tag : String) (k : PublicKey) :
    ofTextWithTag tag (k.textWithTag tag) = .ok k := by
  simp only [ofTextWithTag, textWithTag, dropTag?_append, Base58.encodeChecked,
    Base58.decode_encode, ofChecked_toBytes]

theorem ofText_text (k : PublicKey) : ofText k.text = .ok k :=
  k.ofTextWithTag_textWithTag mainTag

end PublicKey

/-- **Signatures.** The text of a signature is read as the signature. -/
theorem Signature.ofText_text (s : Signature) : ofText s.text = .ok s := by
  rw [ofText, text, toBytes, Hex.decodeExactly_encode]
  rfl

/-- **Identifiers.** The text of an identifier is read as the identifier. -/
theorem Identifier.ofText_text {n : Named} (i : Identifier n) : ofText i.text = .ok i := by
  rw [ofText, text, toBytes, Hex.decodeExactly_encode]
  rfl

end LedgerClient
