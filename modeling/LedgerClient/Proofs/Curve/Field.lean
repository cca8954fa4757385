import Mathlib.Algebra.Field.ZMod
import Mathlib.FieldTheory.Finite.Basic
import Mathlib.NumberTheory.LucasPrimality
import Mathlib.Tactic.NormNum.Prime
import LedgerClient.Curve.Point

/-!
# The field of the curve

Powers modulo a number are computed by repeated squaring, and `powMod_eq` says that they are the
powers. That the field has a prime number of elements, `prime_fieldSize`, follows by Lucas's test:
a number is prime if a residue has an order that only a prime number of elements allows. The test
asks for the prime factors of the number less one, the large ones of which are tested alike.

Computing with numbers below `fieldSize` is then computing in the field `Residue`.
-/

namespace LedgerClient.Curve

/-! ### Powers -/

theorem powModAux_eq {m base acc e : Nat} (hacc : acc % m = acc) :
    powModAux m base acc e = acc * base ^ e % m := by
  induction e using Nat.strongRecOn generalizing base acc with
  | ind e ih =>
    rw [powModAux]
    rcases Nat.eq_zero_or_pos e with rfl | hpos
    · rw [if_pos rfl, pow_zero, mul_one, hacc]
    · have hhalf : e / 2 < e := Nat.div_lt_self hpos (by omega)
      -- A step takes the lowest bit off the exponent and squares the base.
      have hpower : ∀ n, n * (base * base % m) ^ (e / 2) % m = n * base ^ (2 * (e / 2)) % m := by
        intro n
        rw [pow_mul, pow_two]
        exact (Nat.ModEq.refl n).mul ((Nat.mod_modEq _ m).pow _)
      rw [if_neg hpos.ne']
      rcases Nat.mod_two_eq_zero_or_one e with hbit | hbit
      · have he : 2 * (e / 2) = e := by omega
        rw [if_neg (by omega), ih _ hhalf hacc, hpower, he]
      · have he : 2 * (e / 2) + 1 = e := by omega
        rw [if_pos hbit, ih _ hhalf (Nat.mod_mod _ _), hpower]
        calc acc * base % m * base ^ (2 * (e / 2)) % m
            = acc * base * base ^ (2 * (e / 2)) % m := (Nat.mod_modEq _ m).mul_right _
          _ = acc * base ^ e % m := by rw [mul_assoc, ← pow_succ', he]

/-- Repeated squaring computes the power. -/
theorem powMod_eq (m base e : Nat) : powMod m base e = base ^ e % m := by
  rw [powMod, powModAux_eq (Nat.mod_mod _ _)]
  calc 1 % m * (base % m) ^ e % m = 1 * base ^ e % m :=
        (Nat.mod_modEq 1 m).mul ((Nat.mod_modEq base m).pow e)
    _ = base ^ e % m := by rw [one_mul]

theorem powMod_eq_one_iff {m : Nat} (hm : 1 < m) (base e : Nat) :
    powMod m base e = 1 ↔ (base : ZMod m) ^ e = 1 := by
  have hcast : ((1 : Nat) : ZMod m) = 1 := Nat.cast_one
  rw [powMod_eq, ← Nat.cast_pow, ← hcast, ZMod.natCast_eq_natCast_iff', Nat.mod_eq_of_lt hm]

/-! ### The number of elements -/

/-- Lucas's test of a number, with a residue and the prime factors of the number less one, each with
its multiplicity: the residue has a power of one to the number less one, but to no part of this that
lacks one of the factors. -/
def passesLucas (n base : Nat) (factors : List (Nat × Nat)) : Bool :=
  1 < n && (factors.map fun f => f.1 ^ f.2).prod = n - 1 && powMod n base (n - 1) = 1 &&
    factors.all fun f => powMod n base ((n - 1) / f.1) ≠ 1

/-- **Lucas's test.** A number that passes the test is prime if the factors are. -/
theorem prime_of_passesLucas {n : Nat} (base : Nat) (factors : List (Nat × Nat))
    (h : passesLucas n base factors = true) (hprime : ∀ f ∈ factors, f.1.Prime) : n.Prime := by
  simp only [passesLucas, Bool.and_eq_true, decide_eq_true_eq, List.all_eq_true] at h
  obtain ⟨⟨⟨hn, hproduct⟩, hone⟩, hpart⟩ := h
  refine lucas_primality n (base : ZMod n) ((powMod_eq_one_iff hn _ _).mp hone) ?_
  intro q hq hdvd
  rw [← hproduct] at hdvd
  obtain ⟨power, hpower, hdvd⟩ := (Prime.dvd_prod_iff hq.prime).mp hdvd
  obtain ⟨f, hf, rfl⟩ := List.mem_map.mp hpower
  obtain rfl : q = f.1 := (Nat.prime_dvd_prime_iff_eq hq (hprime f hf)).mp (hq.dvd_of_dvd_pow hdvd)
  exact fun hone => hpart f hf ((powMod_eq_one_iff hn _ _).mpr hone)

/-- The number of elements of the field is prime. -/
theorem prime_fieldSize : fieldSize.Prime := by
  -- The factors that are too large to try all divisors come first, the smallest in front.
  have h₁ : Nat.Prime 173378833005251801 := by
    refine prime_of_passesLucas 6
      [(2, 3), (5, 2), (2621, 1), (24809, 1), (13331831, 1)] (by decide +kernel) ?_
    simp only [List.forall_mem_cons]
    norm_num
  have h₂ : Nat.Prime 22149492674086928081353 := by
    refine prime_of_passesLucas 5
      [(2, 3), (3, 1), (5323, 1), (173378833005251801, 1)] (by decide +kernel) ?_
    simp only [List.forall_mem_cons]
    exact ⟨by norm_num, by norm_num, by norm_num, h₁, by simp⟩
  have h₃ : Nat.Prime 132896956044521568488119 := by
    refine prime_of_passesLucas 6
      [(2, 1), (3, 1), (22149492674086928081353, 1)] (by decide +kernel) ?_
    simp only [List.forall_mem_cons]
    exact ⟨by norm_num, by norm_num, h₂, by simp⟩
  have h₄ : Nat.Prime 255515944373312847190720520512484175977 := by
    refine prime_of_passesLucas 3
      [(2, 3), (7, 2), (11, 1), (1627, 1), (2657, 1), (4423, 1), (41201, 1),
        (96557, 1), (7240687, 1), (107590001, 1)] (by decide +kernel) ?_
    simp only [List.forall_mem_cons]
    norm_num
  have h₅ : Nat.Prime
      205115282021455665897114700593932402728804164701536103180137503955397371 := by
    refine prime_of_passesLucas 10
      [(2, 1), (3, 1), (5, 1), (29, 2), (31, 1), (7723, 1),
        (132896956044521568488119, 1), (255515944373312847190720520512484175977, 1)]
      (by decide +kernel) ?_
    simp only [List.forall_mem_cons]
    exact ⟨by norm_num, by norm_num, by norm_num, by norm_num, by norm_num, by norm_num, h₃, h₄,
      by simp⟩
  refine prime_of_passesLucas 3
    [(2, 1), (3, 1), (7, 1), (13441, 1),
      (205115282021455665897114700593932402728804164701536103180137503955397371, 1)]
    (by decide +kernel) ?_
  simp only [List.forall_mem_cons]
  exact ⟨by norm_num, by norm_num, by norm_num, by norm_num, h₅, by simp⟩

/-! ### Residues -/

instance : Fact fieldSize.Prime := ⟨prime_fieldSize⟩

/-- The elements of the field. -/
abbrev Residue : Type := ZMod fieldSize

theorem mulField_lt (x y : Nat) : mulField x y < fieldSize :=
  Nat.mod_lt _ (by decide)

theorem subField_lt (x y : Nat) : subField x y < fieldSize :=
  Nat.mod_lt _ (by decide)

theorem natCast_mulField (x y : Nat) : (mulField x y : Residue) = x * y := by
  rw [mulField, ZMod.natCast_mod, Nat.cast_mul]

theorem natCast_subField {x y : Nat} (h : y < fieldSize) : (subField x y : Residue) = x - y := by
  rw [subField, ZMod.natCast_mod, Nat.cast_add, Nat.cast_sub h.le, ZMod.natCast_self, zero_sub,
    sub_eq_add_neg]

theorem natCast_inverse {x : Nat} (h : (x : Residue) ≠ 0) :
    (inverse fieldSize x : Residue) = (x : Residue)⁻¹ := by
  have hexponent : fieldSize - 2 + 1 = fieldSize - 1 := by decide
  rw [inverse, powMod_eq, ZMod.natCast_mod, Nat.cast_pow]
  refine eq_inv_of_mul_eq_one_left ?_
  rw [← pow_succ, hexponent, ZMod.pow_card_sub_one_eq_one h]

theorem natCast_ne_zero {x : Nat} (h : x < fieldSize) (hx : x ≠ 0) : (x : Residue) ≠ 0 := by
  rw [ne_eq, ZMod.natCast_eq_zero_iff]
  exact fun hdvd => hx (Nat.eq_zero_of_dvd_of_lt hdvd h)

/-- Numbers below the number of elements are determined by their residues. -/
theorem natCast_inj {x y : Nat} (hx : x < fieldSize) (hy : y < fieldSize) :
    (x : Residue) = y ↔ x = y := by
  rw [ZMod.natCast_eq_natCast_iff', Nat.mod_eq_of_lt hx, Nat.mod_eq_of_lt hy]

end LedgerClient.Curve
