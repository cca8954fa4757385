import Mathlib.Data.String.Basic
import LedgerClient.Proofs.Text.Numeral

/-!
# The order of numerals of one width

Texts are compared character by character. On runs of digits of one length this is the order of
their values (`lt_iff_valueOf_lt`), so that such a run is determined by its length and its value
(`padded_length_valueOf`) and numbers that are padded to one width are in their own order. Behind a
first difference nothing matters (`lt_append`), so that a text of several parts of fixed widths is
in the order of its parts (`padded_append_cons_lt`).
-/

namespace LedgerClient.Numeral

/-! ### Digits and their values -/

theorem digitValue_lt_iff {c d : Char} (hc : isDigit c = true) (hd : isDigit d = true) :
    digitValue c < digitValue d ↔ c < d := by
  have hlow := toNat_of_isDigit hc
  have hlow' := toNat_of_isDigit hd
  have hzero : '0'.toNat = 48 := rfl
  have horder : c < d ↔ c.toNat < d.toNat := UInt32.lt_iff_toNat_lt
  rw [horder, digitValue, digitValue, hzero]
  omega

theorem digitValue_lt_ten {c : Char} (hc : isDigit c = true) : digitValue c < 10 := by
  have hrange := toNat_of_isDigit hc
  have hzero : '0'.toNat = 48 := rfl
  rw [digitValue, hzero]
  omega

theorem valueOf_cons (c : Char) (cs : List Char) :
    valueOf (c :: cs) = digitValue c * 10 ^ cs.length + valueOf cs := by
  have hone : valueOf [c] = digitValue c := Nat.zero_add _
  rw [← List.singleton_append, valueOf_append, hone]

theorem valueOf_lt {cs : List Char} (h : ∀ c ∈ cs, isDigit c = true) :
    valueOf cs < 10 ^ cs.length := by
  induction cs with
  | nil => exact Nat.one_pos
  | cons c cs ih =>
    have hhead := digitValue_lt_ten (h c List.mem_cons_self)
    have htail := ih fun d hd => h d (List.mem_cons_of_mem c hd)
    have hmul : digitValue c * 10 ^ cs.length ≤ 9 * 10 ^ cs.length :=
      Nat.mul_le_mul_right _ (Nat.le_of_lt_succ hhead)
    rw [valueOf_cons, List.length_cons, Nat.pow_succ]
    omega

/-- The order of two numbers that are divided at the same place. -/
theorem mul_add_lt_mul_add_iff {a b m n size : Nat} (hm : m < size) (hn : n < size) :
    a * size + m < b * size + n ↔ a < b ∨ a = b ∧ m < n := by
  rcases Nat.lt_trichotomy a b with hlt | rfl | hgt
  · have hmul : (a + 1) * size ≤ b * size := Nat.mul_le_mul_right _ hlt
    rw [Nat.succ_mul] at hmul
    exact iff_of_true (by omega) (.inl hlt)
  · omega
  · have hmul : (b + 1) * size ≤ a * size := Nat.mul_le_mul_right _ hgt
    rw [Nat.succ_mul] at hmul
    exact iff_of_false (by omega) (by omega)

/-- **The order of numerals.** Runs of digits of one length are in the order of their values. -/
theorem lt_iff_valueOf_lt {cs ds : List Char} (hlen : cs.length = ds.length)
    (hcs : ∀ c ∈ cs, isDigit c = true) (hds : ∀ d ∈ ds, isDigit d = true) :
    cs < ds ↔ valueOf cs < valueOf ds := by
  induction cs generalizing ds with
  | nil =>
    obtain rfl := List.eq_nil_of_length_eq_zero hlen.symm
    simp
  | cons c cs ih =>
    obtain _ | ⟨d, ds⟩ := ds
    · cases hlen
    · obtain ⟨hc, hcs⟩ := List.forall_mem_cons.mp hcs
      obtain ⟨hd, hds⟩ := List.forall_mem_cons.mp hds
      have hlen' : cs.length = ds.length := Nat.succ.inj hlen
      have hbound : valueOf cs < 10 ^ ds.length := hlen' ▸ valueOf_lt hcs
      have heq : c = d ↔ digitValue c = digitValue d := by
        have hcd := digitValue_lt_iff hc hd
        have hdc := digitValue_lt_iff hd hc
        rw [le_antisymm_iff, ← not_lt, ← not_lt, ← hcd, ← hdc]
        omega
      rw [List.cons_lt_cons_iff, ih hlen' hcs hds, valueOf_cons, valueOf_cons, hlen',
        mul_add_lt_mul_add_iff hbound (valueOf_lt hds), digitValue_lt_iff hc hd, heq]

/-- Runs of digits of one length and one value are the same. -/
theorem eq_of_valueOf_eq {cs ds : List Char} (hlen : cs.length = ds.length)
    (hcs : ∀ c ∈ cs, isDigit c = true) (hds : ∀ d ∈ ds, isDigit d = true)
    (h : valueOf cs = valueOf ds) : cs = ds := by
  rcases lt_trichotomy cs ds with hlt | heq | hgt
  · have := (lt_iff_valueOf_lt hlen hcs hds).mp hlt
    omega
  · exact heq
  · have := (lt_iff_valueOf_lt hlen.symm hds hcs).mp hgt
    omega

/-- One digit or more are the numeral of their value in their own width. -/
theorem padded_length_valueOf {cs : List Char} (hne : cs ≠ []) (hcs : ∀ c ∈ cs, isDigit c = true) :
    padded cs.length (valueOf cs) = cs :=
  eq_of_valueOf_eq (length_padded (List.length_pos_of_ne_nil hne) (valueOf_lt hcs))
    (fun _ => isDigit_of_mem_padded) hcs (valueOf_padded _ _)

theorem padded_lt_padded {width m n : Nat} (hwidth : 0 < width) (h : m < n) (hn : n < 10 ^ width) :
    padded width m < padded width n := by
  have hlen := (length_padded hwidth (h.trans hn)).trans (length_padded hwidth hn).symm
  rw [lt_iff_valueOf_lt hlen (fun _ => isDigit_of_mem_padded) fun _ => isDigit_of_mem_padded,
    valueOf_padded, valueOf_padded]
  exact h

/-! ### Texts of several parts -/

/-- Of two texts of one length with different characters, the order does not depend on what
follows. -/
theorem lt_append {cs ds : List Char} (hlen : cs.length = ds.length) (h : cs < ds)
    (cs' ds' : List Char) : cs ++ cs' < ds ++ ds' := by
  induction cs generalizing ds with
  | nil =>
    obtain rfl := List.eq_nil_of_length_eq_zero hlen.symm
    exact absurd h (lt_irrefl _)
  | cons c cs ih =>
    obtain _ | ⟨d, ds⟩ := ds
    · cases hlen
    · rw [List.cons_lt_cons_iff] at h
      rw [List.cons_append, List.cons_append, List.cons_lt_cons_iff]
      exact h.imp_right fun ⟨heq, hlt⟩ => ⟨heq, ih (Nat.succ.inj hlen) hlt⟩

/-- Texts with numbers of one width in front are in the order of the numbers, and where these are
the same in the order of what follows the character behind them. -/
theorem padded_append_cons_lt {width m n : Nat} (c : Char) {cs ds : List Char} (hwidth : 0 < width)
    (hn : n < 10 ^ width) (h : m < n ∨ m = n ∧ cs < ds) :
    padded width m ++ c :: cs < padded width n ++ c :: ds := by
  rcases h with hlt | ⟨rfl, hlt⟩
  · have hlen := (length_padded hwidth (hlt.trans hn)).trans (length_padded hwidth hn).symm
    exact lt_append hlen (padded_lt_padded hwidth hlt hn) _ _
  · exact List.append_left_lt (List.cons_lt_cons_iff.mpr (.inr ⟨rfl, hlt⟩))

end LedgerClient.Numeral
