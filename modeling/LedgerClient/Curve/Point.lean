/-!
# The curve

The curve `y² = x³ + 7` over the field of `2²⁵⁶ - 2³² - 977` elements, and its group, which has
prime order and a fixed generator. Points are held in Jacobian coordinates, `(x, y, z)` standing
for `(x / z², y / z³)`, so that adding them takes no division; `z = 0` is the neutral element.
-/

namespace LedgerClient.Curve

/-- The number of elements of the field. -/
def fieldSize : Nat := 0xFFFFFFFFFFFFFFFFFFFFFFFFFFFFFFFFFFFFFFFFFFFFFFFFFFFFFFFEFFFFFC2F

/-- The number of points of the curve, the neutral element included. -/
def order : Nat := 0xFFFFFFFFFFFFFFFFFFFFFFFFFFFFFFFEBAAEDCE6AF48A03BBFD25E8CD0364141

/-! ### Residues -/

/-- A power modulo `m`, times `acc`, by repeated squaring. -/
def powModAux (m base acc e : Nat) : Nat :=
  if e = 0 then acc
  else powModAux m (base * base % m) (if e % 2 = 1 then acc * base % m else acc) (e / 2)
termination_by e

/-- A power modulo `m`. -/
def powMod (m base e : Nat) : Nat :=
  powModAux m (base % m) (1 % m) e

/-- The inverse modulo a prime, zero for zero. -/
def inverse (m x : Nat) : Nat :=
  powMod m x (m - 2)

/-- The difference of two residues. -/
def subField (x y : Nat) : Nat :=
  (x + (fieldSize - y)) % fieldSize

/-- The product of two residues. -/
def mulField (x y : Nat) : Nat :=
  x * y % fieldSize

/-! ### Affine points -/

/-- A point other than the neutral element. -/
structure Affine where
  /-- The first coordinate. -/
  x : Nat
  /-- The second coordinate. -/
  y : Nat
  deriving DecidableEq, Repr

/-- The generator of the group. -/
def generator : Affine where
  x := 0x79BE667EF9DCBBAC55A06295CE870B07029BFCDB2DCE28D959F2815B16F81798
  y := 0x483ADA7726A3C4655DA4FBFC0E1108A8FD17B448A68554199C47D08FFB10D4B8

/-- A square root of `x³ + 7`, if there is one. -/
def liftRoot? (x : Nat) : Option Nat :=
  let square := (mulField (mulField x x) x + 7) % fieldSize
  let root := powMod fieldSize square ((fieldSize + 1) / 4)
  if mulField root root = square then some root else none

/-- The point with a given first coordinate whose second coordinate has a given parity. -/
def lift? (x : Nat) (odd : Bool) : Option Affine :=
  if fieldSize ≤ x then none
  else
    (liftRoot? x).map fun root =>
      ⟨x, if (root % 2 = 1) = odd then root else (fieldSize - root) % fieldSize⟩

/-! ### The group -/

/-- A point in Jacobian coordinates. -/
structure Point where
  /-- The first coordinate, times `z²`. -/
  x : Nat
  /-- The second coordinate, times `z³`. -/
  y : Nat
  /-- The common denominator, zero for the neutral element. -/
  z : Nat

namespace Point

/-- The neutral element. -/
def zero : Point := ⟨1, 1, 0⟩

/-- An affine point. -/
def ofAffine (p : Affine) : Point := ⟨p.x, p.y, 1⟩

/-- The affine point, unless the point is the neutral element. -/
def toAffine? (p : Point) : Option Affine :=
  if p.z = 0 then none
  else
    let i := inverse fieldSize p.z
    let i2 := mulField i i
    some ⟨mulField p.x i2, mulField p.y (mulField i2 i)⟩

/-- Twice a point. -/
def double (p : Point) : Point :=
  if p.z = 0 || p.y = 0 then zero
  else
    let y2 := mulField p.y p.y
    let s := mulField 4 (mulField p.x y2)
    let m := mulField 3 (mulField p.x p.x)
    let x := subField (mulField m m) (mulField 2 s)
    let y := subField (mulField m (subField s x)) (mulField 8 (mulField y2 y2))
    ⟨x, y, mulField 2 (mulField p.y p.z)⟩

/-- The sum of two points. -/
def add (p q : Point) : Point :=
  if p.z = 0 then q
  else if q.z = 0 then p
  else
    let pz2 := mulField p.z p.z
    let qz2 := mulField q.z q.z
    let u1 := mulField p.x qz2
    let u2 := mulField q.x pz2
    let s1 := mulField p.y (mulField qz2 q.z)
    let s2 := mulField q.y (mulField pz2 p.z)
    if u1 = u2 then if s1 = s2 then double p else zero
    else
      let h := subField u2 u1
      let r := subField s2 s1
      let h2 := mulField h h
      let h3 := mulField h2 h
      let v := mulField u1 h2
      let x := subField (subField (mulField r r) h3) (mulField 2 v)
      let y := subField (mulField r (subField v x)) (mulField s1 h3)
      ⟨x, y, mulField h (mulField p.z q.z)⟩

/-- The sum `a · p + b · q`, read off the lowest `bits` bits of the two numbers at once. -/
def combination (p q : Point) (a b : Nat) (bits : Nat) : Point :=
  let both := add p q
  (List.range bits).foldr (fun i sum =>
    let sum := double sum
    match a.testBit i, b.testBit i with
    | true, true => add sum both
    | true, false => add sum p
    | false, true => add sum q
    | false, false => sum) zero

/-- The multiple `a · p` for `a` below `2 ^ 256`. -/
def multiple (p : Point) (a : Nat) : Point :=
  combination p zero a 0 256

end Point

end LedgerClient.Curve
