import LedgerClient.Text.Numeral

/-!
# Durations

A span of time in milliseconds, and the text by which messages show it: in seconds if it lasts one
at least, else in milliseconds.
-/

namespace LedgerClient

/-- A span of time. -/
structure Duration where
  /-- The length in milliseconds. -/
  milliseconds : Nat
  deriving DecidableEq, Repr

namespace Duration

/-- A span of whole seconds. -/
def ofSeconds (n : Nat) : Duration := ⟨1000 * n⟩

/-- The whole seconds within a span. -/
def seconds (d : Duration) : Nat :=
  d.milliseconds / 1000

/-- The decimal places of a fraction in thousandths, without zeros at the end. -/
def places (thousandths : Nat) : List Char :=
  ((Numeral.padded 3 thousandths).reverse.dropWhile (· = '0')).reverse

/-- The characters of the text of a span. -/
def chars (d : Duration) : List Char :=
  if d.milliseconds = 0 then ['0', 'n', 's']
  else if d.seconds = 0 then Numeral.digits d.milliseconds ++ ['m', 's']
  else
    let fraction := places (d.milliseconds % 1000)
    Numeral.digits d.seconds ++ (if fraction.isEmpty then [] else '.' :: fraction) ++ ['s']

/-- The text of a span. -/
def text (d : Duration) : String :=
  String.ofList d.chars

end Duration

end LedgerClient
