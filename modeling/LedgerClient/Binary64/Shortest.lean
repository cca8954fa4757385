import LedgerClient.Binary64.Basic

/-!
# Shortest decimals

The fewest significant digits that read back as a given floating-point number, and of the decimals
with that many digits the one nearest to it, with the two layouts in which the library writes them.
-/

namespace LedgerClient

/-- A decimal `digits · 10^exponent`. -/
structure Decimal where
  /-- The significant digits as one whole number. -/
  digits : Nat
  /-- The power of ten of the last digit. -/
  exponent : Int
  deriving DecidableEq, Repr

namespace Decimal

/-- The same decimal without trailing zeros, given a bound on their number. -/
def stripZeros : Nat → Decimal → Decimal
  | 0, d => d
  | n + 1, d =>
    if d.digits % 10 = 0 then stripZeros n ⟨d.digits / 10, d.exponent + 1⟩ else d

/-! ### The decimals near a number -/

/-- The largest `k` with `10^k ≤ num / den`. -/
def log10Ratio (num den : Nat) : Int :=
  if den ≤ num then ((Nat.toDigits 10 (num / den)).length : Int) - 1
  else -((Nat.toDigits 10 ((den + num - 1) / num - 1)).length : Int)

/-- The real numbers `center`, `low` and `high` over one denominator: a floating-point number and
the ends of the interval of reals that round to it. -/
structure Interval where
  /-- The number itself. -/
  center : Nat
  /-- The lower end. -/
  low : Nat
  /-- The upper end. -/
  high : Nat
  /-- The denominator of the three. -/
  den : Nat
  /-- Whether the ends belong to the interval. -/
  closed : Bool

/-- The interval of reals that round to a finite number other than zero. -/
def Interval.of (x : Binary64) : Interval :=
  let m := x.significand
  let below := if m = 1 <<< 52 && 1 < x.exponentBits then 4 * m - 1 else 4 * m - 2
  let q := x.scale - 2
  let up := if 0 ≤ q then q.toNat else 0
  let down := if 0 ≤ q then 0 else (-q).toNat
  ⟨(4 * m) <<< up, below <<< up, (4 * m + 2) <<< up, 1 <<< down, m % 2 = 0⟩

/-- Whether `n / d` lies in the interval. -/
def Interval.holds (i : Interval) (n d : Nat) : Bool :=
  let v := n * i.den
  if i.closed then i.low * d ≤ v && v ≤ i.high * d else i.low * d < v && v < i.high * d

/-- The distance of `n / d` from the number, over a common denominator. -/
def Interval.distance (i : Interval) (n d : Nat) : Nat :=
  let v := n * i.den
  let c := i.center * d
  max v c - min v c

/-- Which of two neighbouring decimals stands for a number halfway between them. -/
inductive Tie
  /-- The one whose last digit is even. -/
  | even
  /-- The larger one. -/
  | up
  deriving DecidableEq, Repr

/-- Whether a tie leaves the smaller of the two, whose digits are given. -/
def Tie.keeps : Tie → Nat → Bool
  | even, digits => digits % 2 = 0
  | up, _ => false

/-- The nearest decimal in the interval whose last digit has the given power of ten. -/
def Interval.nearest? (i : Interval) (tie : Tie) (exponent : Int) : Option Decimal :=
  let up := if 0 ≤ exponent then Nat.pow 10 exponent.toNat else 1
  let down := if 0 ≤ exponent then 1 else Nat.pow 10 (-exponent).toNat
  let below := i.center * down / (i.den * up)
  let above := below + 1
  let hitBelow := i.holds (below * up) down
  let hitAbove := i.holds (above * up) down
  let toBelow := i.distance (below * up) down
  let toAbove := i.distance (above * up) down
  if hitBelow && (!hitAbove || toBelow < toAbove || toBelow = toAbove && tie.keeps below) then
    some ⟨below, exponent⟩
  else if hitAbove then some ⟨above, exponent⟩
  else none

/-- The first hit among the decimals with at least `n` digits, `fuel` more digits being tried. -/
def Interval.search (i : Interval) (tie : Tie) (magnitude : Int) (n : Nat) : Nat → Decimal
  | 0 => ⟨i.center / i.den, 0⟩
  | fuel + 1 =>
    match i.nearest? tie (magnitude + 1 - n) with
    | some d => d
    | none => i.search tie magnitude (n + 1) fuel

/-- The shortest decimal that reads back as a finite number other than zero. -/
def shortest (tie : Tie) (x : Binary64) : Decimal :=
  let i := Interval.of x
  stripZeros 400 (i.search tie (log10Ratio i.center i.den) 1 17)

/-! ### Layouts -/

/-- Digits with a point after the first `point` of them, zeros being added on either side. -/
def positional (ds : List Char) (point : Int) : List Char × List Char :=
  if point ≤ 0 then (['0'], List.replicate (-point).toNat '0' ++ ds)
  else
    let p := point.toNat
    (ds.take p ++ List.replicate (p - ds.length) '0', ds.drop p)

/-- The plain layout: never an exponent, and a point only before a fraction. -/
def plain (d : Decimal) : List Char :=
  let ds := Nat.toDigits 10 d.digits
  let (whole, fraction) := positional ds (ds.length + d.exponent)
  if fraction.isEmpty then whole else whole ++ '.' :: fraction

/-- The compact layout: always with a fraction when positional, and with an exponent when the
first digit stands more than sixteen places before the point or more than five places after it. -/
def compact (d : Decimal) : List Char :=
  let ds := Nat.toDigits 10 d.digits
  let point : Int := ds.length + d.exponent
  if -5 < point && point ≤ 16 then
    let (whole, fraction) := positional ds point
    whole ++ '.' :: (if fraction.isEmpty then ['0'] else fraction)
  else
    let e := point - 1
    let power := (if e < 0 then ['-'] else []) ++ Nat.toDigits 10 e.natAbs
    ds.take 1 ++ (if ds.length = 1 then [] else '.' :: ds.drop 1) ++ 'e' :: power

end Decimal

namespace Binary64

/-- A number in the plain layout, with `inf` and `NaN` for the values that are not finite; of two
shortest decimals that are equally near it is the larger one. -/
def plainText (x : Binary64) : String :=
  if x.isNaN then "NaN"
  else
    let sign := if x.isNegative then "-" else ""
    if !x.isFinite then sign ++ "inf"
    else if x.isZero then sign ++ "0"
    else sign ++ String.ofList (Decimal.shortest .up x).plain

/-- A finite number in the compact layout; of two shortest decimals that are equally near it is the
even one. -/
def compactText (x : Binary64) : List Char :=
  let sign := if x.isNegative then ['-'] else []
  if x.isZero then sign ++ ['0', '.', '0'] else sign ++ (Decimal.shortest .even x).compact

end Binary64

end LedgerClient
