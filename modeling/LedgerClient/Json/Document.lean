import LedgerClient.Text.Numeral

/-!
# JSON documents

The structure of a JSON text before anything in it is evaluated: numbers are digits, and a quoted
text may still fail to be one, because it escapes half of a surrogate pair. Keeping the two steps
apart lets a reader skip the parts of a document that it does not ask for.
-/

namespace LedgerClient.Json

/-- A number as it is written. -/
structure Numeral where
  /-- Whether a minus sign stands in front. -/
  negative : Bool
  /-- The digits before the point. -/
  whole : List Char
  /-- The digits after the point, if there is one. -/
  fraction : Option (List Char)
  /-- The exponent, if there is one: whether it is negative, and its digits. -/
  power : Option (Bool × List Char)
  deriving Repr

/-- The structure of a JSON text. -/
inductive Document
  /-- The word `null`. -/
  | null
  /-- One of the words `true` and `false`. -/
  | bool (value : Bool)
  /-- A number as it is written. -/
  | number (numeral : Numeral)
  /-- A quoted text, or `none` if its escapes leave half of a surrogate pair. -/
  | string (text : Option String)
  /-- A list. -/
  | list (items : List Document)
  /-- An object with its members as they stand, names being quoted texts. -/
  | object (members : List (Option String × Document))

/-! ### Blanks and digits -/

/-- The four characters that may stand between the parts of a document. -/
def isSpace (c : Char) : Bool :=
  c = ' ' || c = '\n' || c = '\t' || c = '\r'

/-- The text after its leading blanks. -/
def skipSpace (cs : List Char) : List Char :=
  cs.dropWhile isSpace

/-- One or more digits and what follows them. -/
def digits? (cs : List Char) : Option (List Char × List Char) :=
  let ds := cs.takeWhile Numeral.isDigit
  if ds.isEmpty then none else some (ds, cs.dropWhile Numeral.isDigit)

/-- The digits before the point: a zero stands alone. -/
def whole? : List Char → Option (List Char × List Char)
  | '0' :: rest => some (['0'], rest)
  | cs => digits? cs

/-- The digits after the point, if one follows. -/
def fraction? : List Char → Option (Option (List Char) × List Char)
  | '.' :: rest => (digits? rest).map fun r => (some r.1, r.2)
  | cs => some (none, cs)

/-- The exponent, if one follows. -/
def power? : List Char → Option (Option (Bool × List Char) × List Char)
  | c :: rest =>
    if c = 'e' || c = 'E' then
      let signed : Bool × List Char := match rest with
        | '-' :: rest => (true, rest)
        | '+' :: rest => (false, rest)
        | _ => (false, rest)
      (digits? signed.2).map fun r => (some (signed.1, r.1), r.2)
    else some (none, c :: rest)
  | [] => some (none, [])

/-- A number and what follows it. -/
def numeral? (cs : List Char) : Option (Numeral × List Char) := do
  let (negative, cs) := match cs with
    | '-' :: rest => (true, rest)
    | _ => (false, cs)
  let (whole, cs) ← whole? cs
  let (fraction, cs) ← fraction? cs
  let (power, cs) ← power? cs
  return (⟨negative, whole, fraction, power⟩, cs)

/-! ### Quoted texts -/

/-- One written character of a quoted text: itself, or a number of sixteen bits. -/
inductive Unit16
  /-- A character that stands for itself or is escaped by a letter. -/
  | char (c : Char)
  /-- A character or half of one, escaped by number. -/
  | code (n : Nat)

/-- The value of a digit in base sixteen. -/
def hexValue? (c : Char) : Option Nat :=
  if '0' ≤ c && c ≤ '9' then some (c.toNat - 48)
  else if 'a' ≤ c && c ≤ 'f' then some (c.toNat - 87)
  else if 'A' ≤ c && c ≤ 'F' then some (c.toNat - 55)
  else none

/-- The number that four digits stand for. -/
def code? (a b c d : Char) : Option Nat := do
  return ((((← hexValue? a) * 16 + (← hexValue? b)) * 16 + (← hexValue? c)) * 16 + (← hexValue? d))

/-- The character that a letter after a backslash stands for. -/
def escaped? (c : Char) : Option Char :=
  match c with
  | '"' => some '"'
  | '\\' => some '\\'
  | '/' => some '/'
  | 'b' => some '\x08'
  | 'f' => some '\x0c'
  | 'n' => some '\n'
  | 'r' => some '\r'
  | 't' => some '\t'
  | _ => none

/-- The written characters up to the closing quote, and what follows it. -/
def units? : List Char → Option (List Unit16 × List Char)
  | '"' :: rest => some ([], rest)
  | '\\' :: 'u' :: a :: b :: c :: d :: rest => do
    let n ← code? a b c d
    let (us, rest) ← units? rest
    return (.code n :: us, rest)
  | '\\' :: c :: rest => do
    let e ← escaped? c
    let (us, rest) ← units? rest
    return (.char e :: us, rest)
  | c :: rest =>
    if c = '\\' || c.toNat < 0x20 then none
    else do
      let (us, rest) ← units? rest
      return (.char c :: us, rest)
  | [] => none

/-- The first half of a surrogate pair. -/
def isHighHalf (n : Nat) : Bool :=
  0xD800 ≤ n && n < 0xDC00

/-- The second half of a surrogate pair. -/
def isLowHalf (n : Nat) : Bool :=
  0xDC00 ≤ n && n < 0xE000

/-- The text that the written characters stand for: halves of a pair must come together. -/
def joined? : List Unit16 → Option (List Char)
  | [] => some []
  | .char c :: us => (joined? us).map (c :: ·)
  | .code n :: us =>
    if isLowHalf n then none
    else if isHighHalf n then
      match us with
      | .code m :: us =>
        if isLowHalf m then
          (joined? us).map (Char.ofNat (0x10000 + (n - 0xD800) * 1024 + (m - 0xDC00)) :: ·)
        else none
      | _ => none
    else (joined? us).map (Char.ofNat n :: ·)

/-- A quoted text after its opening quote, and what follows it. -/
def string? (cs : List Char) : Option (Option String × List Char) :=
  (units? cs).map fun r => ((joined? r.1).map String.ofList, r.2)

/-! ### Documents -/

/-- A word that stands for a value, after its first letter. -/
def word? (rest : List Char) (d : Document) (cs : List Char) : Option (Document × List Char) :=
  if rest.isPrefixOf cs then some (d, cs.drop rest.length) else none

mutual

/-- Reads one document and returns what follows it; `fuel` bounds the number of characters. -/
def document? : (fuel : Nat) → List Char → Option (Document × List Char)
  | 0, _ => none
  | fuel + 1, cs =>
    match skipSpace cs with
    | 'n' :: rest => word? ['u', 'l', 'l'] .null rest
    | 't' :: rest => word? ['r', 'u', 'e'] (.bool true) rest
    | 'f' :: rest => word? ['a', 'l', 's', 'e'] (.bool false) rest
    | '"' :: rest => (string? rest).map fun r => (.string r.1, r.2)
    | '[' :: rest =>
      match skipSpace rest with
      | ']' :: rest => some (.list [], rest)
      | rest => do
        let (x, rest) ← document? fuel rest
        let (xs, rest) ← items? fuel rest
        return (.list (x :: xs), rest)
    | '\x7b' :: rest =>
      match skipSpace rest with
      | '\x7d' :: rest => some (.object [], rest)
      | rest => do
        let (m, rest) ← member? fuel rest
        let (ms, rest) ← members? fuel rest
        return (.object (m :: ms), rest)
    | cs => (numeral? cs).map fun r => (.number r.1, r.2)

/-- Reads the items of a list after the first, up to the closing bracket. -/
def items? : (fuel : Nat) → List Char → Option (List Document × List Char)
  | 0, _ => none
  | fuel + 1, cs =>
    match skipSpace cs with
    | ']' :: rest => some ([], rest)
    | ',' :: rest => do
      let (x, rest) ← document? fuel rest
      let (xs, rest) ← items? fuel rest
      return (x :: xs, rest)
    | _ => none

/-- Reads one member of an object. -/
def member? : (fuel : Nat) → List Char → Option ((Option String × Document) × List Char)
  | 0, _ => none
  | fuel + 1, cs =>
    match skipSpace cs with
    | '"' :: rest => do
      let (name, rest) ← string? rest
      match skipSpace rest with
      | ':' :: rest => do
        let (v, rest) ← document? fuel rest
        return ((name, v), rest)
      | _ => none
    | _ => none

/-- Reads the members of an object after the first, up to the closing brace. -/
def members? : (fuel : Nat) → List Char → Option (List (Option String × Document) × List Char)
  | 0, _ => none
  | fuel + 1, cs =>
    match skipSpace cs with
    | '\x7d' :: rest => some ([], rest)
    | ',' :: rest => do
      let (m, rest) ← member? fuel rest
      let (ms, rest) ← members? fuel rest
      return (m :: ms, rest)
    | _ => none

end

/-- The document that a text holds, with nothing but blanks around it. -/
def Document.ofText? (s : String) : Option Document := do
  let cs := s.toList
  let (d, rest) ← document? (cs.length + 1) cs
  if (skipSpace rest).isEmpty then return d else none

end LedgerClient.Json
