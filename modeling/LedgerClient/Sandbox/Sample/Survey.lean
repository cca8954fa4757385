import LedgerClient.Asset.Wire
import LedgerClient.Bytes.Base58
import LedgerClient.Timestamp.Basic

/-!
# Surveys of JSON values

A survey tells what is found at each place of a number of JSON values: which truth values, how long
the lists are, how large the numbers get, and what the texts look like. A place is the path from
the top: a dot and a name for each member, and a pair of brackets for each list.
-/

namespace LedgerClient.Sandbox.Survey

/-! ### Places -/

/-- What is found at one place of one value. -/
inductive Find
  /-- The value `null`. -/
  | null
  /-- A truth value. -/
  | bool (value : Bool)
  /-- A whole number. -/
  | int (value : Int)
  /-- A text. -/
  | text (value : String)
  /-- A list with so many items. -/
  | length (count : Nat)

mutual

/-- What is found in a value, with the places, the value itself being at the given one. -/
def finds (place : String) : Json → List (String × Find)
  | .null => [(place, .null)]
  | .bool b => [(place, .bool b)]
  | .num (.int i) => [(place, .int i)]
  | .num (.real _) => []
  | .str s => [(place, .text s)]
  | .arr xs => (place, .length xs.length) :: itemFinds (place ++ "[]") xs
  | .obj ms => memberFinds place ms

/-- What is found in the items of a list. -/
def itemFinds (place : String) : List Json → List (String × Find)
  | [] => []
  | x :: xs => finds place x ++ itemFinds place xs

/-- What is found in the members of an object. -/
def memberFinds (place : String) : List (String × Json) → List (String × Find)
  | [] => []
  | (name, v) :: ms => finds (place ++ "." ++ name) v ++ memberFinds place ms

end

/-- Puts a find to those of its place. -/
def note (place : String) (find : Find) : List (String × List Find) → List (String × List Find)
  | [] => [(place, [find])]
  | (other, fs) :: rest =>
    if other = place then (other, find :: fs) :: rest else (other, fs) :: note place find rest

/-! ### Texts -/

/-- Whether a character is a small letter, a digit or one of the given characters. -/
def isNameChar (others : List Char) (c : Char) : Bool :=
  ('a' ≤ c && c ≤ 'z') || Numeral.isDigit c || others.contains c

/-- Whether a text is the name of an account. -/
def isName (s : String) : Bool :=
  match s.toList with
  | c :: cs =>
    'a' ≤ c && c ≤ 'z' && 1 ≤ cs.length && cs.length ≤ 24 && cs.all (isNameChar ['.', '-'])
  | [] => false

/-- Whether a text is the name of a content. -/
def isPermlink (s : String) : Bool :=
  1 ≤ s.length && s.length ≤ 64 && s.toList.all (isNameChar ['-'])

/-- Whether a text has at most 48 characters and none of them controls anything. -/
def isPlain (s : String) : Bool :=
  s.length ≤ 48 && s.toList.all fun c =>
    0x20 ≤ c.toNat && !(0x7F ≤ c.toNat && c.toNat ≤ 0x9F)

/-- Whether a text is a time in its only written form. -/
def isTime (s : String) : Bool :=
  match Timestamp.ofText s with
  | .ok t => t.text = s
  | .error _ => false

/-- Whether a text has the tag and the length of a public key. -/
def isKey (s : String) : Bool :=
  "VIZ".toList.isPrefixOf s.toList &&
    match Base58.decode (String.ofList (s.toList.drop 3)) with
    | .ok bytes => bytes.length = 37
    | .error _ => false

/-- Whether a text is a number of given length in base sixteen with small letters. -/
def isHex (length : Nat) (s : String) : Bool :=
  s.length = length && s.toList.all fun c => Numeral.isDigit c || ('a' ≤ c && c ≤ 'f')

/-- The name by which a survey sorts symbols. -/
def symbolGroup : Symbol → String
  | .viz => Symbol.vizName
  | .vests => Symbol.vestsName
  | .custom _ _ => "custom"

/-- The first of several candidates that are present. -/
def present (candidates found : List String) : Json :=
  .arr ((candidates.filter found.contains).map .str)

/-- What is told about amounts: their symbols, how large they get and whether one is negative. -/
def amountFact (amounts : List Asset) : Json :=
  let size := (amounts.map fun a => a.amount.toInt.natAbs).foldl max 0
  .obj [("asset", present ["SHARES", "VIZ", "custom"] (amounts.map fun a => symbolGroup a.symbol)),
    ("max", .str (if size ≤ Nat.pow 10 12 then "1e12"
      else if size ≤ Nat.pow 10 15 then "1e15" else "more")),
    ("negative", .bool (amounts.any fun a => a.amount < 0))]

/-- Puts a text into a list without repetitions in order. -/
def insertText (s : String) : List String → List String
  | [] => [s]
  | t :: rest =>
    if s < t then s :: t :: rest else if s = t then t :: rest else t :: insertText s rest

/-- What is told about the texts of a place: the first description that fits all of them. -/
def textFact (place : String) (texts : List String) : Json :=
  let amounts := texts.filterMap fun s => (Asset.ofText s).toOption
  let size := (texts.head?.getD "").length
  if ".op[]".toList.isSuffixOf place.toList then
    .arr ((texts.foldl (fun sofar s => insertText s sofar) []).map .str)
  else if texts.all isTime then .str "time"
  else if texts.all isKey then .str "key"
  else if amounts.length = texts.length then amountFact amounts
  else if texts.all fun s => s.toList.all Numeral.isDigit then .str "digits"
  else if texts.all isName then .str "name"
  else if texts.all (isHex size) then .str ("hex " ++ toString size)
  else if texts.all isPermlink then .str "permlink"
  else if texts.all isPlain then .str "text"
  else .str "other"

/-! ### Facts -/

/-- What is told about the whole numbers of a place: their sign and a bound. -/
def intFact (ints : List Int) : Json :=
  let size := (ints.map Int.natAbs).foldl max 0
  let bound := ([8, 10000, 65535, 4294967295].find? (size ≤ ·)).map toString
  .str ((if ints.any (· < 0) then "signed" else "unsigned") ++ " <= " ++ bound.getD "more")

/-- What is told about the lengths of the lists of a place. -/
def lengthFact (lengths : List Nat) : Json :=
  .arr (((List.range (lengths.foldl max 0 + 1)).filter lengths.contains).map .nat)

/-- A member of a fact, if there is something to tell about. -/
def tell {α : Type} (name : String) (fact : List α → Json) (found : List α) :
    List (String × Json) :=
  if found.isEmpty then [] else [(name, fact found)]

/-- What is told about a place. -/
def factOf (place : String) (found : List Find) : Json :=
  .obj (tell "null" (fun _ => .bool true) (found.filter fun | .null => true | _ => false) ++
    tell "bools" (fun bs => .arr (([false, true].filter bs.contains).map .bool))
      (found.filterMap fun | .bool b => some b | _ => none) ++
    tell "lengths" lengthFact (found.filterMap fun | .length n => some n | _ => none) ++
    tell "ints" intFact (found.filterMap fun | .int i => some i | _ => none) ++
    tell "strings" (textFact place) (found.filterMap fun | .text s => some s | _ => none))

/-- What is told about the places of some values, each of them being at the given one. -/
def facts (place : String) (values : List Json) : List (String × Json) :=
  let all := (values.flatMap (finds place)).foldl (fun sofar f => note f.1 f.2 sofar) []
  all.map fun p => (p.1, factOf p.1 p.2)

end LedgerClient.Sandbox.Survey
