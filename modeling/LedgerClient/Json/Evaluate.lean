import LedgerClient.Json.Document
import LedgerClient.Json.Value

/-!
# Evaluating JSON documents

The value of a document. A reader states which members of a record it asks for; the other members
are skipped, however deep or ill-formed their numbers and texts are, while a repeated member among
those asked for is an error. Nothing that is asked for may nest deeper than `nestingLimit`.
-/

namespace LedgerClient.Json

/-- How many lists and objects may lie within each other. -/
def nestingLimit : Nat := 127

/-! ### Numbers -/

/-- Appends digits to a significand below `2 ^ 64` as long as it stays below, and returns it with
the number of digits left over. -/
def appendDigits (significand : Nat) : List Char → Nat × Nat
  | [] => (significand, 0)
  | c :: rest =>
    let next := significand * 10 + Numeral.digitValue c
    if next < UInt64.size then appendDigits next rest else (significand, rest.length + 1)

/-- The exponent that a numeral states. -/
def Numeral.exponent (n : Numeral) : Int :=
  match n.power with
  | none => 0
  | some (negative, ds) =>
    if negative then -(LedgerClient.Numeral.valueOf ds : Int) else LedgerClient.Numeral.valueOf ds

/-- The floating-point number of a numeral: digits beyond the first that exceed 64 bits count by
their place only. -/
def Numeral.real? (n : Numeral) : Option Binary64 :=
  let (significand, dropped) := appendDigits 0 n.whole
  let fraction := n.fraction.getD []
  let (significand, unread) := appendDigits significand fraction
  let places := fraction.length - unread
  Binary64.ofDecimal n.negative significand (dropped - places + n.exponent)

/-- The number that a numeral stands for: a whole number if it is written as one and fits 64 bits
with or without sign, and is not minus zero. -/
def Numeral.number? (n : Numeral) : Option Number :=
  let whole := LedgerClient.Numeral.valueOf n.whole
  if n.fraction.isNone && n.power.isNone then
    if n.negative then
      if 0 < whole && whole ≤ UInt64.size / 2 then some (.int (-whole)) else n.real?.map .real
    else if whole < UInt64.size then some (.int whole) else n.real?.map .real
  else n.real?.map .real

/-! ### What is asked for -/

/-- Which parts of a document a reader asks for. -/
inductive Demand
  /-- All of it. -/
  | all
  /-- The named members of a record, or its first items if it is written as a list. -/
  | record (members : List (String × Demand))

/-- The value of a member that was asked for by name. -/
def Demand.member? : Demand → String → Option Demand
  | .all, _ => some .all
  | .record ms, name => ms.lookup name

/-- What is asked for of the item at a position. -/
def Demand.item : Demand → Nat → Demand
  | .all, _ => .all
  | .record ms, i => (ms[i]?.map Prod.snd).getD .all

/-- Whether a second member of the name is refused. -/
def Demand.refusesRepeat : Demand → Bool
  | .all => false
  | .record _ => true

mutual

/-- The value of what is asked for of a document, which may nest `depth` levels. -/
def Document.evaluate (depth : Nat) (demand : Demand) : Document → Option Json
  | .null => some .null
  | .bool b => some (.bool b)
  | .number n => n.number?.map .num
  | .string s => s.map .str
  | .list xs =>
    match depth with
    | 0 => none
    | depth + 1 => (evaluateItems depth demand 0 xs).map .arr
  | .object ms =>
    match depth with
    | 0 => none
    | depth + 1 => (evaluateMembers depth demand [] ms).map .obj

/-- The values of the items of a list from the given position on. -/
def evaluateItems (depth : Nat) (demand : Demand) (position : Nat) :
    List Document → Option (List Json)
  | [] => some []
  | x :: xs => do
    let v ← x.evaluate depth (demand.item position)
    let vs ← evaluateItems depth demand (position + 1) xs
    return v :: vs

/-- Adds the values of the members asked for to those read so far. -/
def evaluateMembers (depth : Nat) (demand : Demand) (sofar : List (String × Json)) :
    List (Option String × Document) → Option (List (String × Json))
  | [] => some sofar
  | (none, _) :: _ => none
  | (some name, d) :: ms =>
    match demand.member? name with
    | none => evaluateMembers depth demand sofar ms
    | some inner =>
      if demand.refusesRepeat && (sofar.lookup name).isSome then none
      else do
        let v ← d.evaluate depth inner
        evaluateMembers depth demand (insertMember name v sofar) ms

end

/-- The value of what is asked for of a text. -/
def evaluate? (demand : Demand) (s : String) : Option Json :=
  (Document.ofText? s).bind (Document.evaluate nestingLimit demand)

/-- The value of a text. -/
def parse? (s : String) : Option Json :=
  evaluate? .all s

end LedgerClient.Json
