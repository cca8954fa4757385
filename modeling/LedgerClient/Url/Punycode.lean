/-!
# Letters in ASCII

How a part of a name with letters outside ASCII is written in ASCII and read again. The ASCII
letters come first. Then the others are put back one by one, by code point and within one code point
from left to right. Each is written as the number of steps from the one before, where a step goes to
the next place in the text so far and, after the last place, to the first place for the next code
point. These numbers are written in base thirty-six with digits that tell where a number ends; the
bounds of those digits follow the sizes of the numbers so far.
-/

namespace LedgerClient.Url.Punycode

/-- Whether a character is in ASCII. -/
def isAscii (c : Char) : Bool :=
  c.toNat < 0x80

/-! ### Numbers -/

/-- A digit in base thirty-six: the letters come before the decimal digits. -/
def digit (n : Nat) : Char :=
  if n < 26 then .ofNat ('a'.toNat + n) else .ofNat ('0'.toNat + (n - 26))

/-- The least digit that is not the last of its number, at a distance from the first digit that
counts thirty-six for each. -/
def bound (bias distance : Nat) : Nat :=
  max 1 (min 26 (distance - bias))

/-- The digits of a number, the lowest first. -/
def digits (bias distance n : Nat) : List Char :=
  let low := bound bias distance
  if n < low then [digit n]
  else
    digit (low + (n - low) % (36 - low)) :: digits bias (distance + 36) ((n - low) / (36 - low))
termination_by n
decreasing_by
  have positive : 1 ≤ bound bias distance := Nat.le_max_left ..
  have := Nat.div_le_self (n - bound bias distance) (36 - bound bias distance)
  omega

/-- How many times a number has to be divided by thirty-five to be at most 455, each counting
thirty-six, and what is left then. -/
def scaleDown (n : Nat) : Nat × Nat :=
  if 455 < n then
    let (count, left) := scaleDown (n / 35)
    (count + 36, left)
  else (0, n)
termination_by n

/-- The bias after a number has been written: the text has `length` letters then, and the first
number counts for little. -/
def adapt (isFirst : Bool) (length n : Nat) : Nat :=
  let n := if isFirst then n / 700 else n / 2
  let (count, left) := scaleDown (n + n / length)
  count + 36 * left / (left + 38)

/-! ### Writing -/

/-- Where each letter outside ASCII is put in, in the order in which they are: its code point and
the number of letters that are then to its left. -/
def insertions (name : List Char) : List (Nat × Nat) :=
  let all := name.zipIdx.map fun (c, i) =>
    (c.toNat, (name.take i).countP fun d => d.toNat ≤ c.toNat)
  (all.filter fun p => 0x80 ≤ p.1).mergeSort fun p q => p.1 ≤ q.1

/-- How far the letters have been put back. -/
structure Progress where
  /-- The code point that has been reached. -/
  code : Nat
  /-- The place that has been reached. -/
  place : Nat
  /-- The number of letters so far. -/
  length : Nat
  /-- What the bounds of the digits hang on. -/
  bias : Nat
  /-- Whether no letter has been put back. -/
  isFirst : Bool

/-- The numbers for the letters that are still to be put back. -/
def encodeFrom (p : Progress) : List (Nat × Nat) → List Char
  | [] => []
  | (code, place) :: rest =>
    let steps := (code - p.code) * (p.length + 1) + place - p.place
    digits p.bias 36 steps ++
      encodeFrom ⟨code, place + 1, p.length + 1, adapt p.isFirst (p.length + 1) steps, false⟩ rest

/-- A part of a name in ASCII. -/
def encode (name : List Char) : List Char :=
  let ascii := name.filter isAscii
  if ascii.length = name.length then name
  else
    "xn--".toList ++ ascii ++ (if ascii.isEmpty then [] else ['-']) ++
      encodeFrom ⟨0x80, 0, ascii.length, 72, true⟩ (insertions name)

/-! ### Reading -/

/-- The value of a digit in base thirty-six. -/
def digitValue? (c : Char) : Option Nat :=
  if 'a' ≤ c && c ≤ 'z' then some (c.toNat - 'a'.toNat)
  else if '0' ≤ c && c ≤ '9' then some (26 + (c.toNat - '0'.toNat))
  else none

/-- The letters read so far and the number under way. -/
structure Reading where
  /-- How far the letters have been put back. -/
  progress : Progress
  /-- The letters so far. -/
  letters : List Char
  /-- The value of the digits of the number so far. -/
  value : Nat
  /-- What the next digit of the number counts. -/
  weight : Nat
  /-- The distance of the next digit from the first one. -/
  distance : Nat

/-- Before the first number, after the letters in ASCII. -/
def Reading.start (ascii : List Char) : Reading :=
  ⟨⟨0x80, 0, ascii.length, 72, true⟩, ascii, 0, 1, 36⟩

/-- Put back the letter that a number stands for, if there is such a letter. -/
def Reading.finish? (r : Reading) (steps : Nat) : Option Reading :=
  let length := r.progress.length + 1
  let code := r.progress.code + (r.progress.place + steps) / length
  let place := (r.progress.place + steps) % length
  let letter := Char.ofNat code
  if letter.toNat = code then
    some ⟨⟨code, place + 1, length, adapt r.progress.isFirst length steps, false⟩,
      r.letters.insertIdx place letter, 0, 1, 36⟩
  else none

/-- Read a digit. A number of more than four bytes stands for no letter. -/
def Reading.digit? (r : Reading) (c : Char) : Option Reading := do
  let d ← digitValue? c
  let low := bound r.progress.bias r.distance
  let value := r.value + d * r.weight
  if d < low then r.finish? value
  else if UInt32.size ≤ value || UInt32.size ≤ r.weight * (36 - low) then none
  else some { r with value, weight := r.weight * (36 - low), distance := r.distance + 36 }

/-- The letters of a part of a name from its form in ASCII, which is without the `xn--` here. The
last hyphen, unless it comes first, ends the letters in ASCII. -/
def decode? (code : List Char) : Option (List Char) := do
  let numbers := (code.reverse.takeWhile (· != '-')).reverse
  let ascii := code.take (code.length - numbers.length - 1)
  let numbers := if ascii.isEmpty then code else numbers
  let r ← if ascii.all isAscii then numbers.foldlM Reading.digit? (.start ascii) else none
  if r.weight = 1 then some r.letters else none

end LedgerClient.Url.Punycode
