import Mathlib.Data.Nat.Digits.Lemmas
import LedgerClient.Bytes.Base58

/-!
# Base 58 has one text for every byte sequence

Writing in base 58 and reading are the same step in two directions: digits in one base are taken as
a number, this number is written in another base, and the zeros in front, which a number does not
have, are put in front again. `rebase` is this step, and `rebase_rebase` says that the way back
undoes it. Bytes are digits in base 256, so `decode_encode` is the case of the bases 256 and 58, and
`encode_of_decode` that of 58 and 256: `decode_eq_ok_iff` says that the text of some bytes is the
only one that is read as these bytes.
-/

namespace LedgerClient.Base58

/-! ### Numbers and digits -/

theorem littleDigits_eq_digits {base : Nat} (hbase : 1 < base) (n : Nat) :
    littleDigits base n = Nat.digits base n := by
  induction n using Nat.strongRecOn with
  | ind n ih =>
    rw [littleDigits]
    rcases Nat.eq_zero_or_pos n with rfl | hpos
    · simp
    · rw [if_pos ⟨hbase, hpos⟩, Nat.digits_def' hbase hpos, ih _ (Nat.div_lt_self hpos hbase)]

theorem ofDigits_eq_ofDigits_reverse (base : Nat) (ds : List Nat) :
    ofDigits base ds = Nat.ofDigits base ds.reverse := by
  rw [Nat.ofDigits_eq_foldr, List.foldr_reverse, ofDigits]
  simp only [Nat.add_comm, Nat.cast_id]

/-- Zeros in front do not change the number. -/
theorem ofDigits_replicate_append (base k : Nat) (ds : List Nat) :
    ofDigits base (List.replicate k 0 ++ ds) = ofDigits base ds := by
  have hzeros : ∀ k, (List.replicate k 0).foldl (fun n d => base * n + d) 0 = 0 := by
    intro k
    induction k with
    | zero => rfl
    | succ k ih => simpa [List.replicate_succ] using ih
  rw [ofDigits, List.foldl_append, hzeros, ofDigits]

/-- The digits of a number stand for the number. -/
theorem ofDigits_reverse_littleDigits {base : Nat} (hbase : 1 < base) (n : Nat) :
    ofDigits base (littleDigits base n).reverse = n := by
  rw [ofDigits_eq_ofDigits_reverse, List.reverse_reverse, littleDigits_eq_digits hbase,
    Nat.ofDigits_digits]

/-- The highest digit of a number is not zero. -/
theorem takeWhile_reverse_littleDigits {base : Nat} (hbase : 1 < base) (n : Nat) :
    (littleDigits base n).reverse.takeWhile (· = 0) = [] := by
  rw [littleDigits_eq_digits hbase]
  rcases Nat.eq_zero_or_pos n with rfl | hpos
  · simp
  · have hne : Nat.digits base n ≠ [] := Nat.digits_ne_nil_iff_ne_zero.mpr (by omega)
    obtain ⟨init, last, hdigits, hlast⟩ : ∃ init last, Nat.digits base n = init ++ [last] ∧
        last ≠ 0 :=
      ⟨_, _, (List.dropLast_append_getLast hne).symm, Nat.getLast_digit_ne_zero base (by omega)⟩
    rw [hdigits, List.reverse_append]
    simp [hlast]

/-- Digits are zeros in front followed by the others. -/
theorem replicate_append_dropWhile (ds : List Nat) :
    List.replicate (ds.takeWhile (· = 0)).length 0 ++ ds.dropWhile (· = 0) = ds := by
  have hzeros : ds.takeWhile (· = 0) = List.replicate (ds.takeWhile (· = 0)).length 0 :=
    List.eq_replicate_iff.mpr ⟨rfl, fun d hd => by
      simpa using List.all_eq_true.mp List.all_takeWhile d hd⟩
  rw [← hzeros, List.takeWhile_append_dropWhile]

/-- The digits of the number of some digits are these without the zeros in front. -/
theorem reverse_littleDigits_ofDigits {base : Nat} (hbase : 1 < base) {ds : List Nat}
    (h : ∀ d ∈ ds, d < base) :
    (littleDigits base (ofDigits base ds)).reverse = ds.dropWhile (· = 0) := by
  have hnumber : ofDigits base ds = ofDigits base (ds.dropWhile (· = 0)) := by
    rw [← ofDigits_replicate_append base (ds.takeWhile (· = 0)).length (ds.dropWhile (· = 0)),
      replicate_append_dropWhile]
  have hlt : ∀ d ∈ (ds.dropWhile (· = 0)).reverse, d < base := fun d hd =>
    h d (List.dropWhile_subset _ (List.mem_reverse.mp hd))
  have hlast : ∀ hne : (ds.dropWhile (· = 0)).reverse ≠ [],
      (ds.dropWhile (· = 0)).reverse.getLast hne ≠ 0 := by
    intro hne
    rw [List.getLast_reverse]
    have hne' : ds.dropWhile (· = 0) ≠ [] := by simpa using hne
    exact of_decide_eq_false (List.head_dropWhile_not (fun d => decide (d = 0)) hne')
  rw [hnumber, ofDigits_eq_ofDigits_reverse, littleDigits_eq_digits hbase,
    Nat.digits_ofDigits base hbase _ hlt hlast, List.reverse_reverse]

/-! ### The step between two bases -/

/-- The digits in another base of the number of some digits, after as many zeros. -/
def rebase (base base' : Nat) (ds : List Nat) : List Nat :=
  List.replicate (ds.takeWhile (· = 0)).length 0 ++
    (littleDigits base' (ofDigits base ds)).reverse

theorem rebase_lt {base base' : Nat} (hbase' : 1 < base') {ds : List Nat} :
    ∀ d ∈ rebase base base' ds, d < base' := by
  intro d hd
  rcases List.mem_append.mp hd with hd | hd
  · rw [(List.mem_replicate.mp hd).2]
    omega
  · rw [littleDigits_eq_digits hbase', List.mem_reverse] at hd
    exact Nat.digits_lt_base hbase' hd

/-- **The way back.** Digits that are written in another base and then in their own are the same. -/
theorem rebase_rebase {base base' : Nat} (hbase : 1 < base) (hbase' : 1 < base') {ds : List Nat}
    (h : ∀ d ∈ ds, d < base) : rebase base' base (rebase base base' ds) = ds := by
  have hnumber : ofDigits base' (rebase base base' ds) = ofDigits base ds := by
    rw [rebase, ofDigits_replicate_append, ofDigits_reverse_littleDigits hbase']
  have hzeros : ((rebase base base' ds).takeWhile (· = 0)).length =
      (ds.takeWhile (· = 0)).length := by
    rw [rebase, List.takeWhile_append_of_pos (by simp), takeWhile_reverse_littleDigits hbase']
    simp
  rw [rebase, hnumber, hzeros, reverse_littleDigits_ofDigits hbase h, replicate_append_dropWhile]

/-! ### Texts -/

theorem digit_lt {d : Nat} (h : d < 58) :
    (digit d).toNat < 128 ∧ digitValue? (digit d) = some d := by
  have hall : ∀ d < 58, (digit d).toNat < 128 ∧ digitValue? (digit d) = some d := by decide
  exact hall d h

/-- The values of written digits are read. -/
theorem digitValues_map_digit {ds : List Nat} (h : ∀ d ∈ ds, d < 58) (position : Nat) :
    digitValues position (ds.map digit) = .ok ds := by
  induction ds generalizing position with
  | nil => rfl
  | cons d ds ih =>
    obtain ⟨hd, hds⟩ := List.forall_mem_cons.mp h
    obtain ⟨hascii, hvalue⟩ := digit_lt hd
    rw [List.map_cons, digitValues, if_neg (Nat.not_le.mpr hascii), hvalue]
    simp only [ih hds]
    rfl

/-- A character with a value is the digit of this value. -/
theorem digit_of_digitValue? {c : Char} {d : Nat} (h : digitValue? c = some d) :
    d < 58 ∧ digit d = c := by
  obtain ⟨hlt, hget, -⟩ := List.idxOf?_eq_some_iff.mp h
  refine ⟨hlt, ?_⟩
  rw [digit, List.getD_eq_getElem?_getD, List.getElem?_eq_getElem hlt, hget]
  rfl

/-- Characters whose values are read are the digits of these values. -/
theorem map_digit_of_digitValues {cs : List Char} {position : Nat} {ds : List Nat}
    (h : digitValues position cs = .ok ds) : (∀ d ∈ ds, d < 58) ∧ ds.map digit = cs := by
  induction cs generalizing position ds with
  | nil =>
    cases h
    exact ⟨by simp, rfl⟩
  | cons c cs ih =>
    rw [digitValues] at h
    split at h
    · cases h
    · split at h
      · cases h
      · rename_i d hvalue
        cases hrest : digitValues (position + 1) cs with
        | error fault =>
          rw [hrest] at h
          cases h
        | ok rest =>
          rw [hrest] at h
          obtain rfl : d :: rest = ds := Except.ok.inj h
          obtain ⟨hd, hc⟩ := digit_of_digitValue? hvalue
          obtain ⟨hlt, hcs⟩ := ih hrest
          exact ⟨List.forall_mem_cons.mpr ⟨hd, hlt⟩, by rw [List.map_cons, hc, hcs]⟩

theorem encode_eq (bytes : Bytes) :
    encode bytes = String.ofList ((rebase 256 58 (bytes.map UInt8.toNat)).map digit) := by
  have hzeros : ((bytes.map UInt8.toNat).takeWhile (· = 0)).length =
      (bytes.takeWhile (· = 0)).length := by
    rw [List.takeWhile_map, List.length_map]
    congr 2
    funext b
    simp [← UInt8.toNat_inj]
  have hnumber : ofDigits 256 (bytes.map UInt8.toNat) = ofBigEndian bytes := by
    rw [ofDigits, List.foldl_map, ofBigEndian]
  rw [encode, rebase, hzeros, hnumber]

/-- Digits that are read are written as bytes. -/
theorem decode_of_digitValues {s : String} {ds : List Nat} (h : digitValues 0 s.toList = .ok ds) :
    decode s = .ok ((rebase 58 256 ds).map UInt8.ofNat) := by
  rw [decode, h]
  simp [rebase, bind, Except.bind, pure, Except.pure]

/-- **Base 58.** Bytes are read from their text. -/
theorem decode_encode (bytes : Bytes) : decode (encode bytes) = .ok bytes := by
  have hbytes : ∀ d ∈ bytes.map UInt8.toNat, d < 256 := by
    simp only [List.forall_mem_map]
    exact fun b _ => b.toNat_lt
  have hdigits : digitValues 0 (encode bytes).toList =
      .ok (rebase 256 58 (bytes.map UInt8.toNat)) := by
    rw [encode_eq, String.toList_ofList, digitValues_map_digit (rebase_lt (by omega))]
  have hsame : ∀ b ∈ bytes, UInt8.ofNat b.toNat = b := fun b _ => UInt8.ofNat_toNat
  rw [decode_of_digitValues hdigits, rebase_rebase (by omega) (by omega) hbytes, List.map_map]
  exact congrArg Except.ok ((List.map_congr_left hsame).trans (List.map_id _))

/-- Only the text of some bytes is read as these bytes. -/
theorem encode_of_decode {s : String} {bytes : Bytes} (h : decode s = .ok bytes) :
    encode bytes = s := by
  cases hdigits : digitValues 0 s.toList with
  | error fault =>
    rw [decode, hdigits] at h
    cases h
  | ok ds =>
    obtain ⟨hlt, hchars⟩ := map_digit_of_digitValues hdigits
    obtain rfl : (rebase 58 256 ds).map UInt8.ofNat = bytes :=
      Except.ok.inj ((decode_of_digitValues hdigits).symm.trans h)
    have hnumbers : ((rebase 58 256 ds).map UInt8.ofNat).map UInt8.toNat = rebase 58 256 ds := by
      rw [List.map_map]
      refine (List.map_congr_left fun d hd => ?_).trans (List.map_id _)
      exact UInt8.toNat_ofNat_of_lt' (rebase_lt (by omega : 1 < 256) d hd)
    rw [encode_eq, hnumbers, rebase_rebase (by omega) (by omega) hlt, hchars, String.ofList_toList]

/-- **One text.** A text is read as some bytes exactly if it is the text of these bytes. -/
theorem decode_eq_ok_iff {s : String} {bytes : Bytes} :
    decode s = .ok bytes ↔ s = encode bytes := by
  refine ⟨fun h => (encode_of_decode h).symm, ?_⟩
  rintro rfl
  exact decode_encode bytes

theorem encode_injective {bytes bytes' : Bytes} (h : encode bytes = encode bytes') :
    bytes = bytes' :=
  Except.ok.inj ((decode_encode bytes).symm.trans (decode_eq_ok_iff.mpr h))

/-! ### Checked texts -/

/-- The bytes of a checked text with a checksum of four bytes are followed by this checksum. -/
theorem decodeChecked_eq_ok_iff {checksum : Bytes → Bytes}
    (hlength : ∀ bytes, (checksum bytes).length = 4) {s : String} {bytes : Bytes} :
    decodeChecked checksum s = .ok bytes ↔ s = encodeChecked checksum bytes := by
  constructor
  · intro h
    cases hall : decode s with
    | error fault =>
      rw [decodeChecked, hall] at h
      cases h
    | ok all =>
      rw [decodeChecked, hall] at h
      simp only [Bind.bind, Except.bind] at h
      split at h
      · cases h
      · split at h
        · rename_i hsum
          cases h
          rw [encodeChecked, hsum, List.take_append_drop, encode_of_decode hall]
        · cases h
  · rintro rfl
    have hall : (bytes ++ checksum bytes).length - 4 = bytes.length := by
      rw [List.length_append, hlength, Nat.add_sub_cancel]
    have hfour : ¬ (bytes ++ checksum bytes).length < 4 := by
      rw [List.length_append, hlength]
      omega
    rw [encodeChecked, decodeChecked, decode_encode]
    simp only [Bind.bind, Except.bind, if_neg hfour, hall, List.take_left, List.drop_left, if_pos]
    rfl

end LedgerClient.Base58
