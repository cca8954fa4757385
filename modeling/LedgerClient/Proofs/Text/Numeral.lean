import Mathlib.Algebra.Group.Int.Defs
import Mathlib.Algebra.Group.Nat.Defs
import LedgerClient.Text.Blank
import LedgerClient.Text.Numeral

/-!
# Decimal numerals are read back

The digits of a number, with or without leading zeros, have the number as their value. The value of
two runs of digits, one after the other, is the value of the first shifted by the length of the
second, plus the value of the second; this is how a decimal is the number of its smallest units.
-/

namespace LedgerClient.Numeral

/-! ### Digits -/

theorem isDigit_iff {c : Char} : isDigit c = true ↔ c.isDigit = true := by
  simp [isDigit, Char.isDigit, Char.le_def]

theorem ne_of_isDigit {c d : Char} (h : isDigit c = true) (hd : isDigit d = false) : c ≠ d := by
  rintro rfl
  rw [h] at hd
  cases hd

theorem isDigit_of_mem_digits {n : Nat} {c : Char} (h : c ∈ digits n) : isDigit c = true :=
  isDigit_iff.mpr (Nat.isDigit_of_mem_toDigits (by omega) (by omega) h)

theorem digits_ne_nil (n : Nat) : digits n ≠ [] :=
  Nat.toDigits_ne_nil

/-- The digits of a number start with a digit, which is a zero only if the number is zero. -/
theorem exists_digits_eq_cons (n : Nat) :
    ∃ c cs, digits n = c :: cs ∧ isDigit c = true ∧ (0 < n → c ≠ '0') := by
  induction n using Nat.strongRecOn with
  | ind n ih =>
    by_cases hn : n < 10
    · have heq : digits n = [n.digitChar] := Nat.toDigits_of_lt_base hn
      refine ⟨n.digitChar, [], heq, isDigit_of_mem_digits (heq ▸ List.mem_singleton_self _), ?_⟩
      rw [ne_eq, Nat.digitChar_eq_zero]
      exact Nat.ne_of_gt
    · obtain ⟨c, cs, heq, hdigit, hne⟩ := ih (n / 10) (by omega)
      have happend : digits n = digits (n / 10) ++ [(n % 10).digitChar] :=
        Nat.toDigits_of_base_le (by omega) (by omega)
      rw [happend, heq]
      exact ⟨c, _, rfl, hdigit, fun _ => hne (by omega)⟩

theorem isDigit_of_mem_padded {width n : Nat} {c : Char} (h : c ∈ padded width n) :
    isDigit c = true := by
  rcases List.mem_append.mp h with h | h
  · rw [(List.mem_replicate.mp h).2]
    decide
  · exact isDigit_of_mem_digits h

/-- The digits follow one another among the characters. -/
theorem toNat_of_isDigit {c : Char} (h : isDigit c = true) : 48 ≤ c.toNat ∧ c.toNat ≤ 57 := by
  simp only [isDigit, Bool.and_eq_true, decide_eq_true_eq, Char.le_def,
    UInt32.le_iff_toNat_le] at h
  exact h

theorem isBlank_of_isDigit {c : Char} (h : isDigit c = true) : isBlank c = false := by
  have hrange := toNat_of_isDigit h
  simp [isBlank, blankRanges]
  omega

/-! ### Values -/

theorem valueOf_append (cs ds : List Char) :
    valueOf (cs ++ ds) = valueOf cs * 10 ^ ds.length + valueOf ds := by
  have hshift : Nat.ofDigitChars 10 ds (valueOf cs) = 10 ^ ds.length * valueOf cs + valueOf ds :=
    Nat.ofDigitChars_eq_ofDigitChars_zero
  rw [Nat.mul_comm, ← hshift]
  exact Nat.ofDigitChars_append 0

@[simp]
theorem valueOf_digits (n : Nat) : valueOf (digits n) = n :=
  Nat.ofDigitChars_ten_toDigits

/-- Zeros in front of the digits make no difference to their value. -/
theorem valueOf_replicate_append (k : Nat) (cs : List Char) :
    valueOf (List.replicate k '0' ++ cs) = valueOf cs := by
  have hzeros : valueOf (List.replicate k '0') = 0 :=
    Nat.ofDigitChars_replicate_zero.trans (Nat.mul_zero _)
  rw [valueOf_append, hzeros, Nat.zero_mul, Nat.zero_add]

@[simp]
theorem valueOf_padded (width n : Nat) : valueOf (padded width n) = n := by
  rw [padded, valueOf_replicate_append, valueOf_digits]

/-! ### Widths -/

theorem le_length_padded (width n : Nat) : width ≤ (padded width n).length := by
  simp only [padded, List.length_append, List.length_replicate]
  omega

/-- A number that fits the width takes exactly as many digits. -/
theorem length_padded {width n : Nat} (hwidth : 0 < width) (h : n < 10 ^ width) :
    (padded width n).length = width := by
  have hdigits : (digits n).length ≤ width := (Nat.length_toDigits_le_iff (by omega) hwidth).mpr h
  simp only [padded, List.length_append, List.length_replicate]
  omega

/-- A numeral that begins with a zero is no longer than its width. -/
theorem length_padded_of_head? {width n : Nat} (hwidth : 0 < width)
    (h : (padded width n).head? = some '0') : (padded width n).length = width := by
  rcases Nat.lt_or_ge (digits n).length width with hlt | hge
  · simp only [padded, List.length_append, List.length_replicate]
    omega
  · rw [padded, Nat.sub_eq_zero_of_le hge, List.replicate_zero, List.nil_append] at h ⊢
    obtain ⟨c, cs, hcons, -, hne⟩ := exists_digits_eq_cons n
    rw [hcons, List.head?_cons, Option.some.injEq] at h
    -- The digits alone begin with a zero only if they are those of zero.
    have hzero : n = 0 := Nat.eq_zero_of_not_pos fun hpos => hne hpos h
    have hone : (digits n).length = 1 := by rw [hzero]; rfl
    omega

/-! ### Reading -/

/-- The text stands for the number: one or more digits, perhaps after a plus sign. -/
def Denotes (cs : List Char) (n : Nat) : Prop :=
  ∃ ds, (cs = ds ∨ cs = '+' :: ds) ∧ ds ≠ [] ∧ (∀ c ∈ ds, isDigit c = true) ∧ valueOf ds = n

theorem natural?_eq_some_iff {cs : List Char} {n : Nat} :
    natural? cs = some n ↔ cs ≠ [] ∧ (∀ c ∈ cs, isDigit c = true) ∧ valueOf cs = n := by
  rw [natural?]
  split
  · rename_i h
    refine iff_of_false nofun fun ⟨hne, hall, _⟩ => ?_
    simp [hne, List.all_eq_true.mpr hall] at h
  · rename_i h
    simp only [Bool.or_eq_true, List.isEmpty_iff, Bool.not_eq_true', not_or,
      Bool.not_eq_false, List.all_eq_true] at h
    rw [Option.some_inj, and_iff_right h.1, and_iff_right h.2]

/-- A number is read from all texts that stand for it, if it is below the bound. -/
theorem unsigned?_eq_some_iff {bound n : Nat} {cs : List Char} :
    unsigned? bound cs = some n ↔ Denotes cs n ∧ n < bound := by
  have hplus : ¬isDigit '+' = true := by decide
  unfold unsigned?
  rw [Option.filter_eq_some_iff, decide_eq_true_eq, natural?_eq_some_iff]
  refine and_congr_left fun _ => ?_
  split
  · rename_i rest
    constructor
    · exact fun h => ⟨rest, .inr rfl, h⟩
    · rintro ⟨ds, rfl | heq, hne, hdigits, hvalue⟩
      · exact absurd (hdigits '+' List.mem_cons_self) hplus
      · obtain rfl : rest = ds := (List.cons.inj heq).2
        exact ⟨hne, hdigits, hvalue⟩
  · rename_i hhead
    constructor
    · exact fun h => ⟨cs, .inl rfl, h⟩
    · rintro ⟨ds, rfl | heq, h⟩
      · exact h
      · exact absurd heq (hhead ds)

/-- A number is read back from its digits if it is below the bound. -/
theorem unsigned?_digits {bound n : Nat} (h : n < bound) : unsigned? bound (digits n) = some n :=
  unsigned?_eq_some_iff.mpr ⟨⟨digits n, .inl rfl, digits_ne_nil n,
    fun _ => isDigit_of_mem_digits, valueOf_digits n⟩, h⟩

/-- A number is read back from its text if it lies in the range. -/
theorem signed?_ofInt {bound : Nat} {i : Int} (hlow : -(bound : Int) ≤ i) (hhigh : i < bound) :
    signed? bound (ofInt i) = some i := by
  by_cases hneg : i < 0
  · have hnatural : natural? (digits i.natAbs) = some i.natAbs :=
      natural?_eq_some_iff.mpr ⟨digits_ne_nil _, fun _ => isDigit_of_mem_digits, valueOf_digits _⟩
    have habs : i.natAbs ≤ bound := by omega
    have hback : -(i.natAbs : Int) = i := by omega
    rw [ofInt, if_pos hneg, signed?, hnatural, Option.bind_some, if_pos habs, hback]
  · have hback : (i.natAbs : Int) = i := Int.natAbs_of_nonneg (Int.not_lt.mp hneg)
    have hunsigned : unsigned? bound (digits i.natAbs) = some i.natAbs :=
      unsigned?_digits (by omega)
    obtain ⟨c, cs, hcons, hdigit, -⟩ := exists_digits_eq_cons i.natAbs
    have hminus : c ≠ '-' := ne_of_isDigit hdigit (by decide)
    rw [ofInt, if_neg hneg, signed?, hunsigned, Option.map_some, Int.ofNat_eq_natCast, hback]
    rintro rest heq
    exact hminus (List.cons.inj (hcons.symm.trans heq)).1

/-- Neither a digit nor the sign is blank. -/
theorem isBlank_of_mem_ofInt {i : Int} {c : Char} (h : c ∈ ofInt i) : isBlank c = false := by
  rw [ofInt] at h
  split at h
  · rcases List.mem_cons.mp h with rfl | h
    · decide
    · exact isBlank_of_isDigit (isDigit_of_mem_digits h)
  · exact isBlank_of_isDigit (isDigit_of_mem_digits h)

end LedgerClient.Numeral
