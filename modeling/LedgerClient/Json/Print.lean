import LedgerClient.Json.Value
import LedgerClient.Binary64.Shortest
import LedgerClient.Text.Numeral

/-!
# JSON text of a value

The compact text: no blanks, members in the order in which the value holds them. Within a text
only the quote, the backslash and the controls below the space are escaped.
-/

namespace LedgerClient.Json

/-- A character within a quoted text. -/
def escape (c : Char) : List Char :=
  if c = '"' then ['\\', '"']
  else if c = '\\' then ['\\', '\\']
  else if c.toNat < 0x20 then
    match c.toNat with
    | 8 => ['\\', 'b']
    | 9 => ['\\', 't']
    | 10 => ['\\', 'n']
    | 12 => ['\\', 'f']
    | 13 => ['\\', 'r']
    | n => ['\\', 'u', '0', '0', Nat.digitChar (n / 16), Nat.digitChar (n % 16)]
  else [c]

/-- A quoted text. -/
def quoted (s : String) : List Char :=
  '"' :: s.toList.flatMap escape ++ ['"']

/-- A number. -/
def Number.chars : Number → List Char
  | .int i => Numeral.ofInt i
  | .real x => x.compactText

mutual

/-- The text of a value. -/
def chars : Json → List Char
  | .null => ['n', 'u', 'l', 'l']
  | .bool true => ['t', 'r', 'u', 'e']
  | .bool false => ['f', 'a', 'l', 's', 'e']
  | .num n => n.chars
  | .str s => quoted s
  | .arr [] => ['[', ']']
  | .arr (x :: xs) => '[' :: (chars x ++ charsItems xs)
  | .obj [] => ['\x7b', '\x7d']
  | .obj ((k, v) :: ms) => '\x7b' :: (quoted k ++ ':' :: (chars v ++ charsMembers ms))

/-- The text of the items of a list after the first, with the closing bracket. -/
def charsItems : List Json → List Char
  | [] => [']']
  | x :: xs => ',' :: (chars x ++ charsItems xs)

/-- The text of the members of an object after the first, with the closing brace. -/
def charsMembers : List (String × Json) → List Char
  | [] => ['\x7d']
  | (k, v) :: ms => ',' :: (quoted k ++ ':' :: (chars v ++ charsMembers ms))

end

/-- The text of a value. -/
def text (v : Json) : String :=
  String.ofList (chars v)

end LedgerClient.Json
