import Mathlib.Tactic.LinearCombination
import LedgerClient.Curve.Ecdsa
import LedgerClient.Proofs.Curve.Field

/-!
# Points of the curve

`Affine.IsOnCurve P` says that `P` is a point: its coordinates are residues that satisfy the
equation. Doubling and adding keep to the curve, so that sums, multiples and recovered keys are
points, `isOnCurve_of_recover?`. This needs no more of the arithmetic than the two identities behind
the formulas, and the inverse when a point is read off its common denominator.

A first coordinate belongs to no point or to two, whose second coordinates are of either parity:
none is zero, since `-7` is no cube. `lift?_eq_some_iff` says that lifting finds the one that is
asked for.
-/

namespace LedgerClient.Curve

/-! ### The equation -/

/-- Whether a pair of numbers is a point of the curve. -/
structure Affine.IsOnCurve (P : Affine) : Prop where
  /-- The first coordinate is a residue. -/
  x_lt : P.x < fieldSize
  /-- The second coordinate is a residue. -/
  y_lt : P.y < fieldSize
  /-- The coordinates satisfy the equation. -/
  equation : (P.y : Residue) ^ 2 = (P.x : Residue) ^ 3 + 7

/-- Whether a triple of numbers stands for a point of the curve or the neutral element. -/
structure Point.IsOnCurve (p : Point) : Prop where
  /-- The common denominator is a residue. -/
  z_lt : p.z < fieldSize
  /-- The coordinates satisfy the equation, cleared of denominators. -/
  equation : (p.y : Residue) ^ 2 = (p.x : Residue) ^ 3 + 7 * (p.z : Residue) ^ 6

/-! ### Sums -/

namespace Point.IsOnCurve

theorem zero : Point.zero.IsOnCurve where
  z_lt := by decide
  equation := by simp [Point.zero]

theorem ofAffine {P : Affine} (hP : P.IsOnCurve) : (Point.ofAffine P).IsOnCurve where
  z_lt := by simp only [Point.ofAffine]; decide
  equation := by simpa [Point.ofAffine] using hP.equation

/-- The tangent meets the curve again. -/
theorem double {p : Point} (hp : p.IsOnCurve) : p.double.IsOnCurve := by
  rw [Point.double]
  split
  · exact zero
  · refine ⟨mulField_lt _ _, ?_⟩
    simp only [natCast_mulField, natCast_subField, mulField_lt, subField_lt]
    push_cast
    linear_combination 64 * (p.y : Residue) ^ 6 * hp.equation

/-- The point where the chord through two points meets the curve again satisfies the equation, which
has the denominators cleared. -/
theorem chord_equation {R : Type} [CommRing R] {u₁ s₁ u₂ s₂ c x : R}
    (h₁ : s₁ ^ 2 = u₁ ^ 3 + c) (h₂ : s₂ ^ 2 = u₂ ^ 3 + c)
    (hx : x = (s₂ - s₁) ^ 2 - (u₂ - u₁) ^ 3 - 2 * (u₁ * (u₂ - u₁) ^ 2)) :
    ((s₂ - s₁) * (u₁ * (u₂ - u₁) ^ 2 - x) - s₁ * (u₂ - u₁) ^ 3) ^ 2 =
      x ^ 3 + c * (u₂ - u₁) ^ 6 := by
  subst hx
  linear_combination
    (u₂ - u₁) ^ 3 * ((u₂ - u₁) ^ 3 - (s₂ - s₁) ^ 2 + (u₂ - u₁) ^ 2 * (2 * u₁ + u₂)) * h₁ +
      (u₂ - u₁) ^ 3 * ((s₂ - s₁) ^ 2 - (u₂ - u₁) ^ 2 * (2 * u₁ + u₂)) * h₂

/-- The chord meets the curve again. -/
theorem add {p q : Point} (hp : p.IsOnCurve) (hq : q.IsOnCurve) : (p.add q).IsOnCurve := by
  -- Both points over the common denominator of the two.
  have h₁ : ((p.y : Residue) * (q.z * q.z * q.z)) ^ 2 =
      (p.x * (q.z * q.z)) ^ 3 + 7 * (p.z * q.z) ^ 6 := by
    linear_combination (q.z : Residue) ^ 6 * hp.equation
  have h₂ : ((q.y : Residue) * (p.z * p.z * p.z)) ^ 2 =
      (q.x * (p.z * p.z)) ^ 3 + 7 * (p.z * q.z) ^ 6 := by
    linear_combination (p.z : Residue) ^ 6 * hq.equation
  rw [Point.add]
  split
  · exact hq
  · split
    · exact hp
    · simp only
      split
      · split
        · exact hp.double
        · exact zero
      · refine ⟨mulField_lt _ _, ?_⟩
        simp only [natCast_mulField, natCast_subField, mulField_lt, subField_lt, Nat.cast_ofNat]
        linear_combination chord_equation h₁ h₂ rfl

/-- Sums of multiples of two points are read off bit by bit. -/
theorem combination {p q : Point} (hp : p.IsOnCurve) (hq : q.IsOnCurve) (a b bits : Nat) :
    (Point.combination p q a b bits).IsOnCurve := by
  rw [Point.combination]
  induction List.range bits with
  | nil => exact zero
  | cons i is ih =>
    rw [List.foldr_cons]
    simp only
    split
    · exact ih.double.add (hp.add hq)
    · exact ih.double.add hp
    · exact ih.double.add hq
    · exact ih.double

end Point.IsOnCurve

/-- Coordinates over a common denominator other than zero are divided by it. -/
theorem isOnCurve_of_toAffine? {p : Point} {P : Affine} (hp : p.IsOnCurve)
    (h : p.toAffine? = some P) : P.IsOnCurve := by
  rw [Point.toAffine?] at h
  split at h
  · cases h
  · rename_i hz
    cases h
    have hne : (p.z : Residue) ≠ 0 := natCast_ne_zero hp.z_lt hz
    have hinverse : (p.z : Residue) * (p.z : Residue)⁻¹ = 1 := mul_inv_cancel₀ hne
    refine ⟨mulField_lt _ _, mulField_lt _ _, ?_⟩
    simp only [natCast_mulField, natCast_inverse hne]
    have hsix : ((p.z : Residue) * (p.z : Residue)⁻¹) ^ 6 = 1 := by rw [hinverse, one_pow]
    linear_combination (p.z : Residue)⁻¹ ^ 6 * hp.equation + 7 * hsix

/-! ### Square roots -/

/-- No point has a second coordinate of zero: `-7` is no cube. -/
theorem Affine.IsOnCurve.y_ne_zero {P : Affine} (hP : P.IsOnCurve) : P.y ≠ 0 := by
  intro hy
  have hcube : (P.x : Residue) ^ 3 = ((fieldSize - 7 : Nat) : Residue) := by
    have h := hP.equation
    rw [hy] at h
    rw [Nat.cast_sub (by decide), ZMod.natCast_self]
    push_cast at h ⊢
    linear_combination -h
  have hne : (P.x : Residue) ≠ 0 := by
    intro hx
    rw [hx] at hcube
    exact natCast_ne_zero (x := fieldSize - 7) (by decide) (by decide) (by rw [← hcube]; ring)
  have hexponent : 3 * ((fieldSize - 1) / 3) = fieldSize - 1 := by decide
  have hone : ((fieldSize - 7 : Nat) : Residue) ^ ((fieldSize - 1) / 3) = 1 := by
    rw [← hcube, ← pow_mul, hexponent, ZMod.pow_card_sub_one_eq_one hne]
  exact absurd ((powMod_eq_one_iff (by decide) _ _).mpr hone) (by decide +kernel)

/-- The point with the same first coordinate and the opposite second one. -/
def Affine.neg (P : Affine) : Affine :=
  ⟨P.x, fieldSize - P.y⟩

namespace Affine.IsOnCurve

variable {P Q : Affine}

theorem neg (hP : P.IsOnCurve) : P.neg.IsOnCurve where
  x_lt := hP.x_lt
  y_lt := Nat.sub_lt (Nat.zero_lt_of_lt hP.y_lt) (Nat.pos_of_ne_zero hP.y_ne_zero)
  equation := by
    simp only [Affine.neg, Nat.cast_sub hP.y_lt.le, ZMod.natCast_self, zero_sub, neg_sq]
    exact hP.equation

/-- The number of elements is odd, so that the two points differ in parity. -/
theorem y_neg_mod_two (hP : P.IsOnCurve) : P.neg.y % 2 = 1 ↔ ¬P.y % 2 = 1 := by
  have hodd : fieldSize % 2 = 1 := by decide
  have hlt := hP.y_lt
  simp only [Affine.neg]
  omega

theorem eq_or_eq_neg (hP : P.IsOnCurve) (hQ : Q.IsOnCurve) (hx : Q.x = P.x) :
    Q = P ∨ Q = P.neg := by
  have hsquare : (Q.y : Residue) ^ 2 = (P.y : Residue) ^ 2 := by
    rw [hQ.equation, hP.equation, hx]
  rcases sq_eq_sq_iff_eq_or_eq_neg.mp hsquare with hy | hy
  · have : Q.y = P.y := (natCast_inj hQ.y_lt hP.y_lt).mp hy
    exact .inl (by cases P; cases Q; simp_all)
  · have hneg : (Q.y : Residue) = (P.neg.y : Residue) := by
      rw [hy, Affine.neg, Nat.cast_sub hP.y_lt.le, ZMod.natCast_self, zero_sub]
    have : Q.y = P.neg.y := (natCast_inj hQ.y_lt hP.neg.y_lt).mp hneg
    exact .inr (by cases P; cases Q; simp_all [Affine.neg])

/-- A point is determined by its first coordinate and the parity of the second. -/
theorem eq_of_x_eq (hP : P.IsOnCurve) (hQ : Q.IsOnCurve) (hx : Q.x = P.x)
    (hy : Q.y % 2 = 1 ↔ P.y % 2 = 1) : Q = P := by
  rcases hP.eq_or_eq_neg hQ hx with rfl | rfl
  · rfl
  · exact absurd (hP.y_neg_mod_two.symm.trans hy) (by tauto)

end Affine.IsOnCurve

theorem natCast_liftSquare (x : Nat) :
    ((mulField (mulField x x) x + 7) % fieldSize : Nat) = ((x : Residue) ^ 3 + 7) := by
  rw [ZMod.natCast_mod, Nat.cast_add, natCast_mulField, natCast_mulField]
  push_cast
  ring

/-- A root that is found is the second coordinate of a point. -/
theorem isOnCurve_of_liftRoot? {x root : Nat} (hx : x < fieldSize)
    (h : liftRoot? x = some root) : (Affine.mk x root).IsOnCurve := by
  rw [liftRoot?] at h
  split at h
  · rename_i hsquare
    cases h
    refine ⟨hx, ?_, ?_⟩
    · simp only [powMod_eq]
      exact Nat.mod_lt _ (by decide)
    · have hcast := congrArg (Nat.cast (R := Residue)) hsquare
      rw [natCast_mulField, natCast_liftSquare] at hcast
      rw [← hcast, pow_two]
  · cases h

/-- A root is found for the first coordinate of every point. -/
theorem exists_liftRoot? {P : Affine} (hP : P.IsOnCurve) : ∃ root, liftRoot? P.x = some root := by
  have hexponent : 2 * ((fieldSize + 1) / 4 + (fieldSize + 1) / 4) = fieldSize - 1 + 2 := by decide
  have hy : (P.y : Residue) ≠ 0 := natCast_ne_zero hP.y_lt hP.y_ne_zero
  -- The power of a square is a root of it, since the power less one of an element is one.
  have hroot : ((P.y : Residue) ^ 2) ^ ((fieldSize + 1) / 4) *
      ((P.y : Residue) ^ 2) ^ ((fieldSize + 1) / 4) = (P.y : Residue) ^ 2 := by
    rw [← pow_add, ← pow_mul, hexponent, pow_add, ZMod.pow_card_sub_one_eq_one hy, one_mul]
  refine ⟨_, if_pos ((natCast_inj (mulField_lt _ _) (Nat.mod_lt _ (by decide))).mp ?_)⟩
  rw [natCast_mulField, powMod_eq, ZMod.natCast_mod, Nat.cast_pow, natCast_liftSquare,
    ← hP.equation, hroot]

/-- **Lifting.** What is found for a first coordinate and a parity is the point that has them. -/
theorem lift?_eq_some_iff {x : Nat} {odd : Bool} {P : Affine} :
    lift? x odd = some P ↔ P.IsOnCurve ∧ P.x = x ∧ (P.y % 2 = 1 ↔ odd = true) := by
  have hfound : ∀ {Q}, lift? x odd = some Q →
      Q.IsOnCurve ∧ Q.x = x ∧ (Q.y % 2 = 1 ↔ odd = true) := by
    intro Q h
    rw [lift?] at h
    split at h
    · cases h
    · rename_i hx
      obtain ⟨root, hroot, rfl⟩ := Option.map_eq_some_iff.mp h
      have hP := isOnCurve_of_liftRoot? (Nat.not_le.mp hx) hroot
      by_cases hodd : (root % 2 = 1) = (odd = true)
      · rw [if_pos hodd]
        exact ⟨hP, rfl, Eq.to_iff hodd⟩
      · have hneg : (fieldSize - root) % fieldSize = fieldSize - root :=
          Nat.mod_eq_of_lt hP.neg.y_lt
        rw [if_neg hodd, hneg]
        refine ⟨hP.neg, rfl, hP.y_neg_mod_two.trans ?_⟩
        rw [eq_iff_iff] at hodd
        tauto
  refine ⟨hfound, ?_⟩
  rintro ⟨hP, rfl, hodd⟩
  obtain ⟨root, hroot⟩ := exists_liftRoot? hP
  obtain ⟨Q, hQ⟩ : ∃ Q, lift? P.x odd = some Q := by
    rw [lift?, if_neg (Nat.not_le.mpr hP.x_lt), hroot]
    exact ⟨_, rfl⟩
  obtain ⟨hQcurve, hx, hQodd⟩ := hfound hQ
  rw [hQ, hP.eq_of_x_eq hQcurve hx (hQodd.trans hodd.symm)]

/-- Whether there is a point does not depend on the parity. -/
theorem isSome_lift? (x : Nat) (odd odd' : Bool) :
    (lift? x odd).isSome = (lift? x odd').isSome := by
  rw [lift?, lift?]
  split
  · rfl
  · rw [Option.isSome_map, Option.isSome_map]

theorem isOnCurve_generator : generator.IsOnCurve :=
  (lift?_eq_some_iff.mp (by decide +kernel : lift? generator.x false = some generator)).1

/-! ### Recovery -/

/-- **Recovered points.** What recovery computes is a point of the curve. -/
theorem isOnCurve_of_recover? {message : Nat} {sig : Pair} {recovery : Nat} {P : Affine}
    (h : recover? message sig recovery = some P) : P.IsOnCurve := by
  simp only [recover?, Option.bind_eq_bind, Option.bind_eq_some_iff] at h
  obtain ⟨point, hpoint, key, hkey, hP⟩ := h
  split at hP
  · obtain rfl := Option.some.inj hP
    have hlifted := (lift?_eq_some_iff.mp hpoint).1
    exact isOnCurve_of_toAffine?
      (.combination (.ofAffine isOnCurve_generator) (.ofAffine hlifted) _ _ _) hkey
  · cases hP

end LedgerClient.Curve
