import LedgerClient.Text.Utf8

/-!
# The bytes of a text determine the text

Every text is read back from its own bytes, so two texts of the same bytes are the same text.
-/

namespace LedgerClient.Utf8

/-- A text is read back from its bytes. -/
theorem decode_encode (s : String) : decode (encode s) = .ok s := by
  have hbytes : (⟨(encode s).toArray⟩ : ByteArray) = s.toByteArray := by simp [encode]
  have hread : String.fromUTF8? s.toByteArray = some s := dif_pos s.isValidUTF8
  rw [decode, hbytes, hread]

theorem encode_injective {s t : String} (h : encode s = encode t) : s = t := by
  have hread : (Except.ok s : Except Fault String) = .ok t := by
    rw [← decode_encode s, ← decode_encode t, h]
  exact Except.ok.inj hread

theorem encode_eq_nil_iff {s : String} : encode s = [] ↔ s = "" := by
  have hempty : encode "" = [] := by simp [encode]
  exact ⟨fun h => encode_injective (h.trans hempty.symm), fun h => h ▸ hempty⟩

theorem encode_eq_flatMap (s : String) : encode s = s.toList.flatMap String.utf8EncodeChar := by
  rw [encode, ← String.utf8Encode_toList, List.utf8Encode, List.toList_data_toByteArray]

/-- No character but zero has a zero among its bytes. -/
theorem eq_zero_of_mem_utf8EncodeChar {c : Char} (h : 0 ∈ String.utf8EncodeChar c) :
    c = '\x00' := by
  have hbyte : ∀ n, UInt8.ofNat n = 0 → n % 256 = 0 := fun n hn => by
    simpa using congrArg UInt8.toNat hn
  have hzero : c.val.toNat = 0 := by
    simp only [String.utf8EncodeChar] at h
    split at h
    · have hn := hbyte _ (List.mem_singleton.mp h).symm
      omega
    · split at h
      · simp only [List.mem_cons, List.not_mem_nil, or_false] at h
        rcases h with h | h <;> have hn := hbyte _ h.symm <;> omega
      · split at h <;> simp only [List.mem_cons, List.not_mem_nil, or_false] at h
        · rcases h with h | h | h <;> have hn := hbyte _ h.symm <;> omega
        · rcases h with h | h | h | h <;> have hn := hbyte _ h.symm <;> omega
  exact Char.ext (UInt32.toNat_inj.mp hzero)

/-- A zero byte comes from the character zero. -/
theorem zero_mem_of_mem_encode {s : String} (h : 0 ∈ encode s) : '\x00' ∈ s.toList := by
  rw [encode_eq_flatMap] at h
  obtain ⟨c, hc, hzero⟩ := List.mem_flatMap.mp h
  exact eq_zero_of_mem_utf8EncodeChar hzero ▸ hc

end LedgerClient.Utf8
