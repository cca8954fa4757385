import LedgerClient.Url.Name.Basic
import LedgerClient.Url.Numeric

/-!
# Hosts

The host of an address: a name in small letters, four numbers of a byte, or eight numbers of two
bytes between brackets. Names are written in ASCII. Schemes that are not well known take any text
without separators.
-/

namespace LedgerClient.Url

/-- Whether a character cannot stand in a host of any kind. -/
def isSeparator (c : Char) : Bool :=
  [Char.ofNat 0, '\t', '\n', '\r', ' ', '#', '/', ':', '<', '>', '?', '@', '[', '\\', ']', '^',
    '|'].contains c

/-- Whether a character cannot stand in a name. -/
def isForbidden (c : Char) : Bool :=
  isSeparator c || c.toNat < 0x20 || c.toNat = 0x7F || c = '%'

/-- The written form of a name. -/
def nameText? (cs : List Char) : Option (List Char) := do
  let decoded ← (Utf8.decode (percentDecode (Utf8.encode (String.ofList cs)))).toOption
  let name ← asciiName? decoded.toList
  if name.isEmpty || name.any isForbidden then none
  else if endsInNumber name then (address? (nameParts name)).map addressText
  else some name

/-- The written form of a host, in the way of well-known schemes or of others. -/
def hostText? (special : Bool) (cs : List Char) : Option (List Char) :=
  match cs with
  | '[' :: rest =>
    if rest.getLast? = some ']' then
      (numbers? rest.dropLast).map fun ns => '[' :: numbersText ns ++ [']']
    else none
  | _ =>
    if special then nameText? cs
    else if cs.any isSeparator then none else some (percentEncode isControl cs)

end LedgerClient.Url
