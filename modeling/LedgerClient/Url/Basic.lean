import LedgerClient.Url.Host
import LedgerClient.Url.Path

/-!
# Addresses

Reading the address of a node and writing it in the one form that every spelling of it has: the
scheme and the name in small letters, no port that goes without saying, a path without dots, and
characters that have no place in it encoded. `Url.ofText?` reads, `Url.text` writes.
-/

namespace LedgerClient

/-- An address. -/
structure Url where
  /-- The scheme in small letters. -/
  scheme : List Char
  /-- What stands between the scheme and the path, if there is a host. -/
  authority : Option (List Char)
  /-- The path. -/
  path : List Char
  /-- What follows the question mark. -/
  query : Option (List Char)
  /-- What follows the number sign. -/
  fragment : Option (List Char)
  deriving DecidableEq

namespace Url

/-! ### Names, passwords and ports -/

/-- Cuts a text before the first character of a kind; the second part starts after it. -/
def cutFirst (x : Char) (cs : List Char) : List Char × Option (List Char) :=
  let front := cs.takeWhile (· ≠ x)
  (front, match cs.drop front.length with
    | _ :: back => some back
    | [] => none)

/-- Cuts a text at the last character of a kind, which belongs to neither part. -/
def cutLast? (x : Char) (cs : List Char) : Option (List Char × List Char) :=
  if cs.contains x then
    let back := (cs.reverse.takeWhile (· ≠ x)).reverse
    some (cs.take (cs.length - back.length - 1), back)
  else none

/-- The written form of a name and a password. -/
def userText (cs : List Char) : List Char :=
  let (name, password) := cutFirst ':' cs
  let encoded := percentEncode inUser name ++
    (match password with
      | none | some [] => []
      | some password => ':' :: percentEncode inUser password)
  if encoded.isEmpty then [] else encoded ++ ['@']

/-- Cuts a host off the port that follows it; colons between brackets belong to the host. -/
def cutPort (cs : List Char) : List Char × Option (List Char) :=
  let bracketed := if cs.head? = some '[' then cs.takeWhile (· ≠ ']') else []
  let (rest, port) := cutFirst ':' (cs.drop bracketed.length)
  (bracketed ++ rest, port)

/-- The written form of a port, which is empty if it goes without saying. -/
def portText? (scheme digits : List Char) : Option (List Char) :=
  if !digits.all Numeral.isDigit || 65535 < Numeral.valueOf digits then none
  else if digits.isEmpty || port? scheme = some (Numeral.valueOf digits) then some []
  else some (':' :: Numeral.digits (Numeral.valueOf digits))

/-! ### What stands before the path -/

/-- Reads a user, a host and a port: their written form and the text that is left for the path. A
lone at sign stands for no user only at the end of the whole address, which goes on after this text
if `more` says so. -/
def authority? (m : Manner) (scheme : List Char) (more : Bool) (cs : List Char) :
    Option (List Char × List Char) := do
  let front := cs.takeWhile fun c => !m.isSlash c
  let (user, rest) := (cutLast? '@' front).getD ([], front)
  let (host, port) := cutPort rest
  let digits := (port.getD []).takeWhile (· ≠ '\\')
  let path := (port.getD []).drop digits.length ++ cs.drop front.length
  let user' := userText user
  if host.isEmpty then
    let lone := user.isEmpty && !front.isEmpty && (more || !path.isEmpty)
    if m.isSpecial || port.isSome || !user'.isEmpty || lone then none else some ([], path)
  else
    let host ← hostText? m.isSpecial host
    let port ← portText? scheme digits
    return (user' ++ host ++ port, path)

/-- The written form of the path after a host. -/
def pathAfterHost (m : Manner) : List Char → List Char
  | [] => if m.isSpecial then ['/'] else []
  | c :: cs => pathText m (if m.isSlash c then cs else c :: cs)

/-- Reads the address of a file: the written forms of its host and its path. A drive is on this
machine, whatever host is named before it. -/
def file? (cs : List Char) : Option (List Char × List Char) :=
  let slash := Manner.file.isSlash
  match cs with
  | a :: b :: rest =>
    if slash a && slash b then
      let front := rest.takeWhile fun c => !slash c
      let back := rest.drop front.length
      if front.isEmpty || isDrive front then some ([], filePathText rest)
      else
        (hostText? true front).map fun host =>
          if host = "localhost".toList then ([], filePathText back)
          else (if hasDrive (back.drop 1) then [] else host, filePathText (back.drop 1))
    else some ([], filePathText cs)
  | _ => some ([], filePathText cs)

/-- Reads what stands between the scheme and the query: the written forms of what stands before the
path, if there is a host, and of the path. -/
def hostAndPath? (scheme : List Char) (more : Bool) (cs : List Char) :
    Option (Option (List Char) × List Char) :=
  let afterSlashes (m : Manner) (rest : List Char) :=
    (authority? m scheme more rest).map fun p => (some p.1, pathAfterHost m p.2)
  match Manner.of scheme with
  | .file => (file? cs).map fun p => (some p.1, p.2)
  | .web => afterSlashes .web (cs.dropWhile Manner.web.isSlash)
  | .other =>
    match cs with
    | '/' :: '/' :: rest => afterSlashes .other rest
    | '/' :: rest => some (none, pathText .other rest)
    | _ => some (none, percentEncode isControl cs)

/-! ### Addresses -/

/-- A text without what may stand around an address and without line breaks and tabs. -/
def clean (s : String) : List Char :=
  let outside (c : Char) : Bool := c.toNat ≤ 0x20
  let trimmed := ((s.toList.dropWhile outside).reverse.dropWhile outside).reverse
  trimmed.filter fun c => c != '\t' && c != '\n' && c != '\r'

/-- Reads an address. -/
def ofText? (s : String) : Option Url := do
  let (scheme, rest) ← cutScheme? (clean s)
  let (rest, fragment) := cutFirst '#' rest
  let (rest, query) := cutFirst '?' rest
  let (authority, path) ← hostAndPath? scheme (query.isSome || fragment.isSome) rest
  let special := (Manner.of scheme).isSpecial
  return ⟨scheme, authority, path, query.map (percentEncode (inQuery special)),
    fragment.map (percentEncode inFragment)⟩

/-- The path in the text of an address. Where no host stands before it, two slashes at its start
would be taken for those of a host, so that a part of one dot comes first. -/
def shownPath (u : Url) : List Char :=
  match u.authority, u.path with
  | none, '/' :: '/' :: rest => '/' :: '.' :: '/' :: '/' :: rest
  | _, path => path

/-- The written form of an address. -/
def text (u : Url) : String :=
  let part (mark : List Char) (cs : Option (List Char)) : List Char :=
    (cs.map (mark ++ ·)).getD []
  String.ofList (u.scheme ++ [':'] ++ part ['/', '/'] u.authority ++ u.shownPath ++
    part ['?'] u.query ++ part ['#'] u.fragment)

end Url

end LedgerClient
