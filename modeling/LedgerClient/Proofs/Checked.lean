import Mathlib.Algebra.Order.Ring.Int
import Mathlib.Data.List.Induction
import LedgerClient.Checked
import LedgerClient.Proofs.Text.Order

/-!
# Checked arithmetic is exact

A step of checked arithmetic has the exact result or none, and it has one whenever a number of 64
bits has that value. Several steps in a row are exact as well, if each intermediate value is bounded
by the last one: what is not negative and below a number that fits, fits (`exists_toInt_eq`).
-/

namespace LedgerClient.Checked

variable {x y z : Int64}

theorem ofInt?_eq_some_iff {n : Int} : ofInt? n = some z ↔ z.toInt = n := by
  have hlow := z.minValue_le_toInt
  have hhigh := z.toInt_le
  rw [ofInt?]
  constructor
  · intro h
    split at h
    · rename_i hrange
      obtain rfl := Option.some.inj h
      exact Int64.toInt_ofInt_of_le hrange.1 (Int.lt_add_one_of_le hrange.2)
    · cases h
  · rintro rfl
    rw [if_pos ⟨hlow, hhigh⟩, Int64.ofInt_toInt]

/-- What is not negative and no larger than a number of 64 bits is one itself. -/
theorem exists_toInt_eq {n : Int} (h : 0 ≤ n) (hle : n ≤ z.toInt) : ∃ y : Int64, y.toInt = n := by
  have hhigh := z.toInt_lt
  exact ⟨.ofInt n, Int64.toInt_ofInt_of_le (by omega) (by omega)⟩

theorem add?_eq_some_iff : add? x y = some z ↔ z.toInt = x.toInt + y.toInt :=
  ofInt?_eq_some_iff

theorem mul?_eq_some_iff : mul? x y = some z ↔ z.toInt = x.toInt * y.toInt :=
  ofInt?_eq_some_iff

/-- The powers of a positive number grow, so that no smaller one stands in the way of a power that
fits. -/
theorem pow?_eq_some_iff {n : Nat} (hx : 0 < x.toInt) :
    pow? x n = some z ↔ z.toInt = x.toInt ^ n := by
  induction n generalizing z with
  | zero => rw [pow?, Option.some_inj, pow_zero, ← Int64.toInt_inj, eq_comm, Int64.toInt_one]
  | succ n ih =>
    simp only [pow?, Option.bind_eq_some_iff, mul?_eq_some_iff, ih, pow_succ]
    constructor
    · rintro ⟨y, hy, hz⟩
      rw [hz, hy]
    · intro hz
      have hpos : 0 < x.toInt ^ n := pow_pos hx n
      have hle : x.toInt ^ n ≤ z.toInt := hz ▸ le_mul_of_one_le_right hpos.le hx
      obtain ⟨y, hy⟩ := exists_toInt_eq hpos.le hle
      exact ⟨y, hy, by rw [hz, hy]⟩

/-! ### Digits -/

theorem appendDigit?_eq_some_iff {c : Char} (hc : Numeral.isDigit c = true) (hx : 0 ≤ x.toInt) :
    appendDigit? x c = some z ↔ z.toInt = x.toInt * 10 + Numeral.digitValue c := by
  have hdigit : (Int64.ofNat (Numeral.digitValue c)).toInt = Numeral.digitValue c :=
    Int64.toInt_ofNat_of_lt ((Numeral.digitValue_lt_ten hc).trans (by decide))
  have hten : (10 : Int64).toInt = 10 := rfl
  simp only [appendDigit?, Option.bind_eq_some_iff, mul?_eq_some_iff, add?_eq_some_iff, hdigit,
    hten]
  constructor
  · rintro ⟨y, hy, hz⟩
    rw [hz, hy]
  · intro hz
    obtain ⟨y, hy⟩ := exists_toInt_eq (n := x.toInt * 10) (z := z) (by omega) (by omega)
    exact ⟨y, hy, by rw [hz, hy]⟩

/-- Taking digits one after the other finds their value, if it fits: the values of shorter runs are
smaller, and zeros in front leave the value at zero. -/
theorem foldlM_appendDigit?_eq_some_iff {cs : List Char}
    (h : ∀ c ∈ cs, Numeral.isDigit c = true) :
    cs.foldlM appendDigit? 0 = some z ↔ z.toInt = Numeral.valueOf cs := by
  induction cs using List.reverseRecOn generalizing z with
  | nil =>
    rw [List.foldlM_nil, Option.pure_def, Option.some_inj, ← Int64.toInt_inj, eq_comm]
    rfl
  | append_singleton cs c ih =>
    have hc : Numeral.isDigit c = true := h c (by simp)
    have hvalue : (Numeral.valueOf (cs ++ [c]) : Int) =
        Numeral.valueOf cs * 10 + Numeral.digitValue c := by
      have hone : Numeral.valueOf [c] = Numeral.digitValue c := Nat.zero_add _
      simp [Numeral.valueOf_append, hone]
    rw [List.foldlM_append, Option.bind_eq_bind, Option.bind_eq_some_iff, hvalue]
    simp only [ih fun d hd => h d (List.mem_append_left _ hd), List.foldlM_cons, List.foldlM_nil,
      bind_pure]
    constructor
    · rintro ⟨y, hy, hz⟩
      rw [(appendDigit?_eq_some_iff hc (by omega)).mp hz, hy]
    · intro hz
      obtain ⟨y, hy⟩ := exists_toInt_eq (n := Numeral.valueOf cs) (z := z) (by omega) (by omega)
      exact ⟨y, hy, (appendDigit?_eq_some_iff hc (by omega)).mpr (by rw [hz, hy])⟩

theorem ofDigits?_eq_some_iff {cs : List Char} (hne : cs ≠ [])
    (h : ∀ c ∈ cs, Numeral.isDigit c = true) :
    ofDigits? cs = some z ↔ z.toInt = Numeral.valueOf cs := by
  have hnonempty : ¬cs.isEmpty = true := by simpa using hne
  rw [ofDigits?, if_neg hnonempty]
  exact foldlM_appendDigit?_eq_some_iff h

end LedgerClient.Checked
