import Mathlib.Algebra.Field.Rat
import Mathlib.Algebra.Order.Ring.Cast
import Mathlib.Tactic.Ring
import LedgerClient.Proofs.Asset.Text

/-!
# What the text of an amount says

The text of an amount can be read without the reader: it is a decimal in lowest writing, a space and
a name. `Figure` is the form of such a number, with its sign, its digits on both sides of the point
and the promise that no zero stands in front of them without need; a `Figure` denotes a rational
number. `exists_decimal` says that the number in the text of an amount has this form, with as many
places as its symbol has, and that it denotes the amount exactly, for every precision and for every
64-bit number of units, the least one included.

Reading is the narrower of the two: `text_faithful` adds that the reader gives the amount back if
and only if it is text-safe, and that all that is read is.
-/

namespace LedgerClient

open Numeral

namespace Asset

/-- A number in decimal writing. -/
structure Figure where
  /-- Whether there is a minus sign. -/
  negative : Bool
  /-- The digits before the point. -/
  whole : List Char
  /-- The digits behind the point; without any there is no point. -/
  places : List Char
  digits : ∀ c ∈ whole ++ places, isDigit c = true
  whole_ne : whole ≠ []
  /-- The only zero that stands in front is the one that is all there is before the point. -/
  lowest : whole.head? = some '0' → whole = ['0']

namespace Figure

variable (d : Figure)

/-- The characters of the number. -/
def chars : List Char :=
  (if d.negative then ['-'] else []) ++ (d.whole ++ if d.places = [] then [] else '.' :: d.places)

/-- The number that is denoted. -/
def value : ℚ :=
  let magnitude : ℚ := valueOf d.whole + valueOf d.places / 10 ^ d.places.length
  if d.negative then -magnitude else magnitude

/-- The whole part and the fraction over a common denominator. -/
theorem value_eq_div {n : Nat}
    (h : valueOf d.whole * 10 ^ d.places.length + valueOf d.places = n) :
    d.value = (if d.negative then -(n : ℚ) else n) / 10 ^ d.places.length := by
  have hmagnitude : (valueOf d.whole : ℚ) + valueOf d.places / 10 ^ d.places.length =
      n / 10 ^ d.places.length := by
    have hpow : (10 : ℚ) ^ d.places.length ≠ 0 := pow_ne_zero _ (by norm_num)
    rw [← h, Nat.cast_add, Nat.cast_mul, Nat.cast_pow, Nat.cast_ofNat, add_div,
      mul_div_cancel_right₀ _ hpow]
  rw [value, hmagnitude]
  split
  · ring
  · rfl

end Figure

/-- **The written number.** The number in the text of an amount has a sign if the amount is
negative, as many digits behind the point as the symbol has places, and denotes the amount. -/
theorem exists_decimal (a : Asset) : ∃ d : Figure, a.numberChars = d.chars ∧
    (d.negative = true ↔ a.amount.toInt < 0) ∧ d.places.length = a.precision.toNat ∧
      d.value = a.amount.toInt / 10 ^ a.precision.toNat := by
  obtain ⟨whole, places, hne, hlength, hwhole, hplaces, hlowest, hunits, hchars⟩ :=
    exists_decimalChars a.precision.toNat a.amount.toInt.natAbs
  have hnil : a.precision.toNat = 0 ↔ places = [] := by rw [← hlength, List.length_eq_zero_iff]
  let d : Figure :=
    { negative := decide (a.amount.toInt < 0)
      whole := whole
      places := places
      digits := fun c hc => (List.mem_append.mp hc).elim (hwhole c) (hplaces c)
      whole_ne := hne
      lowest := hlowest }
  refine ⟨d, ?_, decide_eq_true_iff, hlength, ?_⟩
  · -- Both leave out the point where there are no places.
    have hpoint : (if a.precision.toNat = 0 then whole else whole ++ '.' :: places) =
        whole ++ if places = [] then [] else '.' :: places := by
      simp only [hnil]
      split <;> simp
    simp only [numberChars, hchars, hpoint, Figure.chars, d, decide_eq_true_eq]
  · have hvalue := d.value_eq_div (n := a.amount.toInt.natAbs) (by rw [hlength]; exact hunits)
    rw [hvalue, hlength]
    -- The sign is the one of the amount, and the units are its absolute value.
    congr 1
    simp only [d, decide_eq_true_eq]
    split
    · rename_i hneg
      rw [Nat.cast_natAbs, abs_of_neg hneg]
      push_cast
      ring
    · rename_i hpos
      rw [Nat.cast_natAbs, abs_of_nonneg (not_lt.mp hpos)]

/-- **The text of an amount.** It is read as the amount if and only if the amount is text-safe. For
every amount it consists of a number, a space and the name of the symbol; the number has a sign if
and only if the amount is negative, no superfluous zeros in front, as many digits behind the point
as the symbol has places, and denotes exactly the amount. And whatever text is read, writing what
was read and reading it again makes no difference. -/
theorem text_faithful :
    (∀ a : Asset, ofText a.text = .ok a ↔ a.IsTextSafe) ∧
    (∀ a : Asset, ∃ d : Figure,
      a.text = String.ofList (d.chars ++ ' ' :: a.symbol.name.toList) ∧
      (d.negative = true ↔ a.amount.toInt < 0) ∧ d.places.length = a.precision.toNat ∧
      d.value = a.amount.toInt / 10 ^ a.precision.toNat) ∧
    ∀ (s : String) (a : Asset), ofText s = .ok a → ofText a.text = .ok a := by
  refine ⟨fun a => ⟨isTextSafe_of_ofText, IsTextSafe.ofText_text⟩, fun a => ?_, fun s a h => ?_⟩
  · obtain ⟨d, hchars, hsign, hplaces, hvalue⟩ := a.exists_decimal
    refine ⟨d, ?_, hsign, hplaces, hvalue⟩
    rw [← hchars, ← toList_text, String.ofList_toList]
  · exact (isTextSafe_of_ofText h).ofText_text

/-- A text with more zeros than are written is read as an amount whose own text has none of them. -/
theorem text_faithful_negativeHalf :
    ofText "-00.500 VIZ" = .ok (viz (-500)) ∧ ofText (viz (-500)).text = .ok (viz (-500)) := by
  have hread : ofText "-00.500 VIZ" = .ok (viz (-500)) := by decide
  exact ⟨hread, text_faithful.2.2 _ _ hread⟩

example : (⟨Int64.minValue, .custom "UNIT" 20⟩ : Asset).text = "-0.09223372036854775808 UNIT" := by
  decide

end Asset

end LedgerClient
