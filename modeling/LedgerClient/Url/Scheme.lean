import LedgerClient.Text.Numeral

/-!
# Schemes

The word before the first colon of an address. It decides in which manner the rest is read and
which port goes without saying.
-/

namespace LedgerClient.Url

/-- The manner in which the addresses of a scheme are read. -/
inductive Manner
  /-- The address of a file, on this machine unless it names a host. -/
  | file
  /-- An address that has a host. -/
  | web
  /-- An address that may have a host, a path or any other text. -/
  | other
  deriving DecidableEq, Repr

/-- The schemes whose addresses have a host, with the port that goes without saying. -/
def ports : List (String × Nat) :=
  [("http", 80), ("https", 443), ("ws", 80), ("wss", 443), ("ftp", 21)]

/-- The port that goes without saying. -/
def port? (scheme : List Char) : Option Nat :=
  ports.lookup (String.ofList scheme)

/-- The manner in which the addresses of a scheme are read. -/
def Manner.of (scheme : List Char) : Manner :=
  if scheme = "file".toList then .file
  else if (port? scheme).isSome then .web
  else .other

/-- Whether a scheme is well known, so that backslashes do what slashes do. -/
def Manner.isSpecial (m : Manner) : Bool :=
  m ≠ .other

/-- Whether a character parts the addresses of a manner as a slash does. -/
def Manner.isSlash (m : Manner) (c : Char) : Bool :=
  c = '/' || (m.isSpecial && c = '\\')

/-- Whether a character may stand in a scheme. -/
def isSchemeChar (c : Char) : Bool :=
  c.isAlphanum || c = '+' || c = '-' || c = '.'

/-- Cuts a text after its scheme and the colon that ends it. -/
def cutScheme? (cs : List Char) : Option (List Char × List Char) :=
  let scheme := cs.takeWhile isSchemeChar
  match scheme, cs.drop scheme.length with
  | first :: _, ':' :: rest => if first.isAlpha then some (scheme.map Char.toLower, rest) else none
  | _, _ => none

end LedgerClient.Url
