import LedgerClient.Json.Misfit
import LedgerClient.Text.Blank

/-!
# The JSON form of a type

A `Form` writes the values of a type as JSON and reads them back. Records are described field by
field: the description writes the members in its own order, reads them from an object or from a
list, and of several members that do not fit reports the one whose name comes first.
-/

namespace LedgerClient.Json

/-- How the values of a type are written as JSON and read back. -/
structure Form (α : Type) where
  /-- The JSON value of a value. -/
  write : α → Json
  /-- The value that a JSON value stands for. -/
  read : Json → Except Misfit α

namespace Form

/-! ### Basic forms -/

/-- Any JSON value stands for itself. -/
def any : Form Json where
  write v := v
  read v := .ok v

/-- A text. -/
def text : Form String where
  write s := .str s
  read
    | .str s => .ok s
    | _ => .error (.kind "a string")

/-- A truth value. -/
def flag : Form Bool where
  write b := .bool b
  read
    | .bool b => .ok b
    | _ => .error (.kind "a boolean")

/-- A whole number in a range, by the functions that embed a type in the integers and back. -/
def integer {α : Type} (name : String) (toInt : α → Int) (ofInt : Int → α) (low high : Int) :
    Form α where
  write x := .int (toInt x)
  read
    | .num (.int i) => if low ≤ i ∧ i < high then .ok (ofInt i) else .error (.range name)
    | _ => .error (.kind name)

/-- An unsigned number of 8 bits. -/
def u8 : Form UInt8 :=
  integer "u8" (fun n => n.toNat) (fun i => .ofNat i.toNat) 0 UInt8.size

/-- An unsigned number of 16 bits. -/
def u16 : Form UInt16 :=
  integer "u16" (fun n => n.toNat) (fun i => .ofNat i.toNat) 0 UInt16.size

/-- An unsigned number of 32 bits. -/
def u32 : Form UInt32 :=
  integer "u32" (fun n => n.toNat) (fun i => .ofNat i.toNat) 0 UInt32.size

/-- An unsigned number of 64 bits. -/
def u64 : Form UInt64 :=
  integer "u64" (fun n => n.toNat) (fun i => .ofNat i.toNat) 0 UInt64.size

/-- A signed number of 8 bits. -/
def i8 : Form Int8 :=
  integer "i8" Int8.toInt Int8.ofInt Int8.minValue.toInt (Int8.maxValue.toInt + 1)

/-- A signed number of 16 bits. -/
def i16 : Form Int16 :=
  integer "i16" Int16.toInt Int16.ofInt Int16.minValue.toInt (Int16.maxValue.toInt + 1)

/-- A signed number of 32 bits. -/
def i32 : Form Int32 :=
  integer "i32" Int32.toInt Int32.ofInt Int32.minValue.toInt (Int32.maxValue.toInt + 1)

/-- A signed number of 64 bits. -/
def i64 : Form Int64 :=
  integer "i64" Int64.toInt Int64.ofInt Int64.minValue.toInt (Int64.maxValue.toInt + 1)

/-- The largest magnitude that a flexible integer writes as a number. -/
def smallLimit : Nat := 0xFFFFFFFF

/-- A whole number in a range that is written as a number while it fits 32 bits and as a text
beyond, and read from either. -/
def flexible {α : Type} (toInt : α → Int) (ofInt : Int → α) (low high : Int)
    (parse? : List Char → Option Int) : Form α where
  write x :=
    let i := toInt x
    if i.natAbs ≤ smallLimit then .int i else .str (String.ofList (Numeral.ofInt i))
  read
    | .num (.int i) =>
      if low ≤ i ∧ i < high then .ok (ofInt i) else .error (.integerRange i)
    | .str s =>
      match parse? (trimBlank s.toList) with
      | some i => .ok (ofInt i)
      | none => .error (.notInteger s)
    | _ => .error (.kind "an integer or a decimal string")

/-- A flexible unsigned number of 64 bits. -/
def flexU64 : Form UInt64 :=
  flexible (fun n => n.toNat) (fun i => .ofNat i.toNat) 0 UInt64.size
    fun cs => (Numeral.unsigned? UInt64.size cs).map Int.ofNat

/-- A flexible signed number of 64 bits. -/
def flexI64 : Form Int64 :=
  flexible Int64.toInt Int64.ofInt Int64.minValue.toInt (Int64.maxValue.toInt + 1)
    (Numeral.signed? (UInt64.size / 2))

/-- A type whose values are written as texts. -/
def ofText {α : Type} (toText : α → String) (parse : String → Except Misfit α) : Form α where
  write x := .str (toText x)
  read
    | .str s => parse s
    | _ => .error (.kind "a string")

/-! ### Compound forms -/

/-- Reads the values in turn, up to the first that does not fit. -/
def readAll {α : Type} (read : Json → Except Misfit α) : List Json → Except Misfit (List α)
  | [] => .ok []
  | v :: vs => do
    let x ← read v
    let xs ← readAll read vs
    return x :: xs

/-- A list. -/
def list {α : Type} (f : Form α) : Form (List α) where
  write xs := .arr (xs.map f.write)
  read
    | .arr vs => readAll f.read vs
    | _ => .error (.kind "a list")

/-- A value that may be absent, which is written as `null`. -/
def option {α : Type} (f : Form α) : Form (Option α) where
  write
    | none => .null
    | some x => f.write x
  read
    | .null => .ok none
    | v => (f.read v).map some

/-- A pair as a list of two items. -/
def pair {α β : Type} (f : Form α) (g : Form β) : Form (α × β) where
  write p := .arr [f.write p.1, g.write p.2]
  read
    | .arr (v :: rest) => do
      let x ← f.read v
      match rest with
      | w :: rest => do
        let y ← g.read w
        if rest.isEmpty then return (x, y) else .error .length
      | [] => .error .length
    | .arr [] => .error .length
    | _ => .error (.kind "a pair")

end Form

/-! ### Records -/

/-- Why the members of an object are no record. -/
inductive RecordFault
  /-- The value of the named member does not fit. -/
  | misfit (name : String) (why : Misfit)
  /-- There is no member of the name. -/
  | missing (name : String)

/-- Which of two faults of a record is reported: the one whose member's name comes first, and a
missing member only if all others fit. -/
def RecordFault.first : RecordFault → RecordFault → RecordFault
  | .misfit a x, .misfit b y => if b < a then .misfit b y else .misfit a x
  | .missing _, .misfit b y => .misfit b y
  | f, _ => f

/-- The fault as a misfit of the whole record. -/
def RecordFault.toMisfit : RecordFault → Misfit
  | .misfit _ why => why
  | .missing name => .missing name

/-- Both of two results, or the fault of the two that is reported. -/
def both {α β : Type} :
    Except RecordFault α → Except RecordFault β → Except RecordFault (α × β)
  | .ok x, .ok y => .ok (x, y)
  | .ok _, .error f => .error f
  | .error f, .ok _ => .error f
  | .error f, .error g => .error (f.first g)

/-- What a field is when a record does not state it. -/
structure Presence (α : Type) where
  /-- Its value when an object lacks the member. -/
  absentMember : Option α
  /-- Its value when a list ends before it. -/
  absentItem : Option α

/-- The field must be stated. -/
def Presence.required {α : Type} : Presence α := ⟨none, none⟩

/-- The field has a default. -/
def Presence.default {α : Type} (x : α) : Presence α := ⟨some x, some x⟩

/-- The field of an object may be left out; an item of a list may not. -/
def Presence.nullable {α : Type} : Presence (Option α) := ⟨some none, none⟩

/-- Reads one field of an object. -/
def readMember {α : Type} (name : String) (read : Json → Except Misfit α) (presence : Presence α)
    (members : String → Option Json) : Except RecordFault α :=
  match members name, presence.absentMember with
  | some v, _ => (read v).mapError (.misfit name)
  | none, some x => .ok x
  | none, none => .error (.missing name)

/-- Reads one field of a list and returns the items that follow. -/
def readItem {α : Type} (read : Json → Except Misfit α) (presence : Presence α) :
    List Json → Except Misfit (α × List Json)
  | v :: rest => (read v).map (·, rest)
  | [] =>
    match presence.absentItem with
    | some x => .ok (x, [])
    | none => .error .length

/-- A description of fields: how they are written from a `σ` and how a `τ` is read from them. -/
structure Fields (σ τ : Type) where
  /-- The members in the order of the description. -/
  write : σ → List (String × Json)
  /-- Reads the fields from the members of an object. -/
  ofMembers : (String → Option Json) → Except RecordFault τ
  /-- Reads the fields from the items of a list and returns the items that follow. -/
  ofItems : List Json → Except Misfit (τ × List Json)

namespace Fields

/-- No fields. -/
def start {σ τ : Type} (mk : τ) : Fields σ τ where
  write _ := []
  ofMembers _ := .ok mk
  ofItems vs := .ok (mk, vs)

/-- One more field, by its name, its form and the way to get it from a record. -/
def field {σ τ α : Type} (fs : Fields σ (α → τ)) (name : String) (f : Form α) (get : σ → α)
    (presence : Presence α := .required) : Fields σ τ where
  write s := fs.write s ++ [(name, f.write (get s))]
  ofMembers members :=
    (both (fs.ofMembers members) (readMember name f.read presence members)).map fun p => p.1 p.2
  ofItems vs := do
    let (g, rest) ← fs.ofItems vs
    let (x, rest) ← readItem f.read presence rest
    return (g x, rest)

/-- A field that may be left out. -/
def nullable {σ τ α : Type} (fs : Fields σ (Option α → τ)) (name : String) (f : Form α)
    (get : σ → Option α) : Fields σ τ :=
  fs.field name f.option get .nullable

/-- A field with a default. -/
def default {σ τ α : Type} (fs : Fields σ (α → τ)) (name : String) (f : Form α) (get : σ → α)
    (x : α) : Fields σ τ :=
  fs.field name f get (.default x)

/-- A field that may be left out of an object and of a list. -/
def optional {σ τ α : Type} (fs : Fields σ (Option α → τ)) (name : String) (f : Form α)
    (get : σ → Option α) : Fields σ τ :=
  fs.default name f.option get none

/-- Reads a record from the items of a list, all of which must belong to it. -/
def readItems {σ τ : Type} (fs : Fields σ τ) (vs : List Json) : Except Misfit τ := do
  let (x, rest) ← fs.ofItems vs
  if rest.isEmpty then return x else .error .length

/-- Reads a record from the members of an object. -/
def readMembers {σ τ : Type} (fs : Fields σ τ) (ms : List (String × Json)) : Except Misfit τ :=
  (fs.ofMembers (find? ms)).mapError RecordFault.toMisfit

end Fields

/-- A record as an object, which may also be read from the list of its fields. -/
def Form.record {α : Type} (fs : Fields α α) : Form α where
  write x := .obj (fs.write x)
  read
    | .obj ms => fs.readMembers ms
    | .arr vs => fs.readItems vs
    | _ => .error (.kind "a record")

/-- A record that is read from an object only. -/
def Form.object {α : Type} (fs : Fields α α) : Form α where
  write x := .obj (fs.write x)
  read
    | .obj ms => fs.readMembers ms
    | _ => .error (.kind "an object")

end LedgerClient.Json
