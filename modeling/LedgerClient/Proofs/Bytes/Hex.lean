import LedgerClient.Bytes.Hex
import LedgerClient.Proofs.Text.Utf8

/-!
# Hexadecimal text is read back

Every byte is written as the digits of its two halves. A digit is one byte of text, and reading two
of them puts the halves together again.
-/

namespace LedgerClient.Hex

/-! ### Digits and halves -/

/-- The digit of a number below sixteen is one byte of text, which is read as the number. -/
theorem exists_encode_digit {n : UInt8} (h : n.toNat < 16) :
    ∃ b, String.utf8EncodeChar (digit n) = [b] ∧ digitValue? b = some n := by
  have hall : ∀ k < 16, String.utf8EncodeChar (Nat.digitChar k) =
      [(String.utf8EncodeChar (Nat.digitChar k)).headD 0] ∧
        digitValue? ((String.utf8EncodeChar (Nat.digitChar k)).headD 0) = some (.ofNat k) := by
    decide
  obtain ⟨hbyte, hvalue⟩ := hall n.toNat h
  exact ⟨_, hbyte, hvalue.trans (by rw [UInt8.ofNat_toNat])⟩

theorem toNat_shiftRight_four (b : UInt8) : (b >>> 4).toNat = b.toNat / 16 := by
  simp [UInt8.toNat_shiftRight, Nat.shiftRight_eq_div_pow]

theorem toNat_and_fifteen (b : UInt8) : (b &&& 15).toNat = b.toNat % 16 := by
  rw [UInt8.toNat_and]
  exact Nat.and_two_pow_sub_one_eq_mod b.toNat 4

/-- A byte is sixteen times its high half and its low half. -/
theorem halves (b : UInt8) : (16 : UInt8) * (b >>> 4) + (b &&& 15) = b := by
  have hb : b.toNat < 256 := b.toNat_lt
  rw [← UInt8.toNat_inj, UInt8.toNat_add, UInt8.toNat_mul, toNat_shiftRight_four,
    toNat_and_fifteen]
  simp only [UInt8.reduceToNat]
  omega

/-! ### Texts -/

/-- The bytes of the text of some bytes, which are two for each, are read as them. -/
theorem readPairs_encode (bytes : Bytes) (position : Nat) :
    (Utf8.encode (encode bytes)).length = 2 * bytes.length ∧
      readPairs position (Utf8.encode (encode bytes)) = .ok bytes := by
  have hencode : ∀ cs, Utf8.encode (String.ofList cs) = cs.flatMap String.utf8EncodeChar := by
    intro cs
    simp [Utf8.encode, List.utf8Encode]
  rw [encode, hencode]
  induction bytes generalizing position with
  | nil => exact ⟨rfl, rfl⟩
  | cons b bytes ih =>
    have hb : b.toNat < 256 := b.toNat_lt
    obtain ⟨high, hhigh, hhighValue⟩ := exists_encode_digit (n := b >>> 4)
      (by rw [toNat_shiftRight_four]; omega)
    obtain ⟨low, hlow, hlowValue⟩ := exists_encode_digit (n := b &&& 15)
      (by rw [toNat_and_fifteen]; omega)
    obtain ⟨hlen, hread⟩ := ih (position + 2)
    have hchars : (chars (b :: bytes)).flatMap String.utf8EncodeChar =
        high :: low :: (chars bytes).flatMap String.utf8EncodeChar := by
      simp [chars, hhigh, hlow]
    rw [hchars]
    refine ⟨by simp only [List.length_cons, hlen]; omega, ?_⟩
    simp only [readPairs, readDigit, hhighValue, hlowValue, hread, bind, Except.bind, halves, pure,
      Except.pure]

/-- **Hexadecimal text.** Bytes of the length asked for are read from their text. -/
theorem decodeExactly_encode {n : Nat} (v : Vector UInt8 n) :
    decodeExactly n (encode v.toList) = .ok v := by
  obtain ⟨hlen, hread⟩ := readPairs_encode v.toList 0
  have hlist : v.toList.length = n := Vector.length_toList
  rw [hlist] at hlen
  have heven : ¬(Utf8.encode (encode v.toList)).length % 2 = 1 := by omega
  have hexact : ¬(Utf8.encode (encode v.toList)).length ≠ 2 * n := by omega
  simp only [decodeExactly, if_neg heven, if_neg hexact, hread, bind, Except.bind, dif_pos hlist]
  rfl

end LedgerClient.Hex
