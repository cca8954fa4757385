import LedgerClient.Text.Blank
import LedgerClient.Url.Numeric

/-!
# Tables as text

Long tables of numbers are kept as text: the rows are parted by commas, and the numbers of a row,
in base sixteen, are its words.
-/

namespace LedgerClient.Url

/-- The rows of a table. -/
def rows (text : String) : List (List Nat) :=
  (splitAt (· = ',') text.toList).map fun row => (words row).filterMap (digits? 16)

end LedgerClient.Url
