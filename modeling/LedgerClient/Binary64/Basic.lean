/-!
# Binary floating-point numbers

The 64-bit binary format, held by its bits and computed with in exact whole numbers: a finite
number is `m · 2^q` with a sign, and every operation rounds the exact result once, to the nearest
number of the format and to the even one of two that are equally near.
-/

namespace LedgerClient

/-- A 64-bit binary floating-point number, by its bits. -/
structure Binary64 where
  /-- Sign, exponent and fraction, from the highest bit down. -/
  bits : UInt64
  deriving DecidableEq, Repr, Inhabited

namespace Binary64

/-! ### The parts of a number -/

/-- Whether the sign bit is set. -/
def isNegative (x : Binary64) : Bool :=
  x.bits.toNat >>> 63 = 1

/-- The eleven bits of the exponent. -/
def exponentBits (x : Binary64) : Nat :=
  (x.bits.toNat >>> 52) % 2048

/-- The fifty-two bits of the fraction. -/
def fractionBits (x : Binary64) : Nat :=
  x.bits.toNat % (1 <<< 52)

/-- Neither infinite nor "not a number". -/
def isFinite (x : Binary64) : Bool :=
  x.exponentBits ≠ 2047

/-- Not a number. -/
def isNaN (x : Binary64) : Bool :=
  x.exponentBits = 2047 && x.fractionBits ≠ 0

/-- Zero of either sign. -/
def isZero (x : Binary64) : Bool :=
  x.exponentBits = 0 && x.fractionBits = 0

/-- The whole number `m` of a finite magnitude `m · 2^q`. -/
def significand (x : Binary64) : Nat :=
  if x.exponentBits = 0 then x.fractionBits else (1 <<< 52) + x.fractionBits

/-- The exponent `q` of a finite magnitude `m · 2^q`. -/
def scale (x : Binary64) : Int :=
  (max x.exponentBits 1 : Nat) - 1075

/-- The number with the given sign and magnitude bits. -/
def ofParts (negative : Bool) (magnitude : Nat) : Binary64 :=
  ⟨UInt64.ofNat (magnitude + if negative then 1 <<< 63 else 0)⟩

/-- The magnitude bits of infinity. -/
def infiniteBits : Nat :=
  2047 <<< 52

/-! ### Rounding -/

/-- The quotient rounded to the nearest whole number, and to the even one of two. -/
def divideEven (a b : Nat) : Nat :=
  let q := a / b
  let r := a % b
  if 2 * r > b || (2 * r = b && q % 2 = 1) then q + 1 else q

/-- The largest `k` with `2^k ≤ num / den`. -/
def log2Ratio (num den : Nat) : Int :=
  let k : Int := (Nat.log2 num : Int) - Nat.log2 den
  let fits := if 0 ≤ k then den <<< k.toNat ≤ num else den ≤ num <<< (-k).toNat
  if fits then k else k - 1

/-- The magnitude bits of the number nearest to `num / den`. -/
def roundRatio (num den : Nat) : Nat :=
  if num = 0 then 0
  else
    let q : Int := max (log2Ratio num den - 52) (-1074)
    let m := if 0 ≤ q then divideEven num (den <<< q.toNat) else divideEven (num <<< (-q).toNat) den
    min (((q + 1074).toNat <<< 52) + m) infiniteBits

/-- The magnitude bits of the number nearest to `m · 2^q`. -/
def roundScaled (m : Nat) (q : Int) : Nat :=
  if 0 ≤ q then roundRatio (m <<< q.toNat) 1 else roundRatio m (1 <<< (-q).toNat)

/-- The number nearest to a whole number. -/
def ofInt (i : Int) : Binary64 :=
  ofParts (i < 0) (roundRatio i.natAbs 1)

/-! ### Arithmetic on finite numbers -/

/-- The product of two finite numbers. -/
def mul (x y : Binary64) : Binary64 :=
  ofParts (x.isNegative != y.isNegative)
    (roundScaled (x.significand * y.significand) (x.scale + y.scale))

/-- The quotient of a finite number by a finite number other than zero. -/
def div (x y : Binary64) : Binary64 :=
  let q := x.scale - y.scale
  let negative := x.isNegative != y.isNegative
  if 0 ≤ q then ofParts negative (roundRatio (x.significand <<< q.toNat) y.significand)
  else ofParts negative (roundRatio x.significand (y.significand <<< (-q).toNat))

/-- The number with the other sign. -/
def neg (x : Binary64) : Binary64 :=
  ofParts (!x.isNegative) (x.bits.toNat % (1 <<< 63))

/-- The power `base ^ n` by repeated squaring, times `acc`, each product rounded. -/
def powAux (base acc : Binary64) (n : Nat) : Binary64 :=
  if n = 0 then acc
  else
    let acc := if n % 2 = 1 then mul acc base else acc
    if n / 2 = 0 then acc else powAux (mul base base) acc (n / 2)
termination_by n

/-- A power of ten by repeated squaring, each product rounded: exact up to `10^22`. -/
def powTen (n : Nat) : Binary64 :=
  powAux (ofInt 10) (ofInt 1) n

/-- The power of ten nearest to the true one. -/
def nearestPowTen (n : Nat) : Binary64 :=
  ofParts false (roundRatio (Nat.pow 10 n) 1)

/-- The nearest whole number to a finite number, a half being rounded away from zero. -/
def round (x : Binary64) : Int :=
  let magnitude :=
    if 0 ≤ x.scale then x.significand <<< x.scale.toNat
    else (2 * x.significand + (1 <<< (-x.scale).toNat)) / (2 <<< (-x.scale).toNat)
  if x.isNegative then -(magnitude : Int) else magnitude

/-! ### Reading a decimal -/

/-- Scales by a power of ten in steps of at most `10^308`, each step rounded; `none` if the result
is too large for the format. -/
def scaleTen (x : Binary64) (e : Int) : Option Binary64 :=
  if x.isZero then some x
  else if 308 < e then none
  else if 0 ≤ e then
    let y := mul x (nearestPowTen e.toNat)
    if y.isFinite then some y else none
  else if -308 ≤ e then some (div x (nearestPowTen (-e).toNat))
  else scaleTen (div x (nearestPowTen 308)) (e + 308)
termination_by (-e).toNat

/-- The number that a decimal `significand · 10^exponent` reads as: the significand is rounded
first and then scaled, so that the result is exact wherever both steps are. -/
def ofDecimal (negative : Bool) (significand : Nat) (exponent : Int) : Option Binary64 :=
  (scaleTen (ofParts false (roundRatio significand 1)) exponent).map fun x =>
    if negative then x.neg else x

end Binary64

end LedgerClient
