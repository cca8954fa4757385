import LedgerClient.Url.Name.Composite
import LedgerClient.Url.Name.Direction
import LedgerClient.Url.Name.Form
import LedgerClient.Url.Name.Joiner
import LedgerClient.Url.Punycode

/-!
# Names of hosts

A name has parts between dots. It is written in ASCII and in small letters, so a part with other
letters has a form in ASCII, which starts with `xn--`; a reader may give either.
-/

namespace LedgerClient.Url

/-- The letters of a part of a name. A part that starts with `xn--` has to be the form in ASCII of
plain letters, not all of them ASCII. -/
def labelLetters? (label : List Char) : Option (List Char) :=
  match label with
  | 'x' :: 'n' :: '-' :: '-' :: code =>
    if 2000 < code.length then none
    else
      (Punycode.decode? code).filter fun letters =>
        !letters.all Punycode.isAscii && letters.all isPlain && composed letters = letters
  | _ => if 1000 < label.length && !label.all Punycode.isAscii then none else some label

/-- Whether letters may be a part of a name: they do not start with a mark, and joiners are where
they may be. -/
def isLabel (letters : List Char) : Bool :=
  !letters.head?.any isMark && joinersFit [] letters

/-- A name in ASCII. -/
def asciiName? (cs : List Char) : Option (List Char) := do
  let forms ← cs.mapM plainForm?
  let labels ← (splitAt (· = '.') (composed forms.flatten)).mapM labelLetters?
  if labels.all isLabel && (labels.all fitsDirection || !labels.any (·.any runsLeft)) then
    some (['.'].intercalate (labels.map Punycode.encode))
  else none

end LedgerClient.Url
