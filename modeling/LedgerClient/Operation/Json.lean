import LedgerClient.Operation.Basic

/-!
# The JSON form of operations

An operation is a list of two items: the name of its kind and its payload, an object with the
fields of the layout. Reading also takes the number of the kind in place of the name, and the list
of the fields in place of the object. The operations within a proposal are wrapped in an object
with the single member `op`.
-/

namespace LedgerClient

open Json

/-! ### Writing -/

mutual

/-- The members of the fields of a record. -/
def Record.members : {layout : Layout} → Record layout → List (String × Json)
  | _, .empty => []
  | _, @Record.field name shape _ value rest => (name, shape.form.write value) :: rest.members
  | _, @Record.operations name _ ops rest => (name, .arr (Operation.wrapAll ops)) :: rest.members

/-- Operations, each wrapped in an object. -/
def Operation.wrapAll : List Operation → List Json
  | [] => []
  | op :: ops => .obj [("op", op.toJson)] :: Operation.wrapAll ops

/-- The JSON value of an operation. -/
def Operation.toJson : Operation → Json
  | .known kind _ payload => .arr [.str kind.name, .obj payload.members]
  | .unknown u =>
    let tag : Json := match u.name, u.id with
      | some name, _ => .str name
      | none, some id => .nat id.toNat
      | none, none => .str "unknown"
    .arr [tag, u.body]

end

/-! ### Reading -/

/-- Reads an operation that is wrapped in an object. -/
def readWrapped (nested : Json → Except Misfit Operation) : Json → Except Misfit Operation :=
  (Form.record (Fields.start id |>.field "op" ⟨Operation.toJson, nested⟩ id)).read

/-- Reads a list of wrapped operations. -/
def readWrappedList (nested : Json → Except Misfit Operation) :
    Json → Except Misfit (List Operation)
  | .arr vs => Form.readAll (readWrapped nested) vs
  | _ => .error (.kind "a list")

namespace Record

/-- Reads the fields of a layout from the members of an object. -/
def ofMembers (nested : Json → Except Misfit Operation) :
    (layout : Layout) → (String → Option Json) → Except RecordFault (Record layout)
  | [], _ => .ok .empty
  | .field name shape :: layout, members =>
    (both (readMember name shape.form.read shape.presence members)
      (ofMembers nested layout members)).map fun p => .field p.1 p.2
  | .operations name :: layout, members =>
    (both (readMember name (readWrappedList nested) .required members)
      (ofMembers nested layout members)).map fun p => .operations p.1 p.2

/-- Reads the fields of a layout from the items of a list, all of which must belong to it. -/
def ofItems (nested : Json → Except Misfit Operation) :
    (layout : Layout) → List Json → Except Misfit (Record layout)
  | [], vs => if vs.isEmpty then .ok .empty else .error .length
  | .field _ _ :: _, [] | .operations _ :: _, [] => .error .length
  | .field _ shape :: layout, v :: vs => do
    let value ← shape.form.read v
    let rest ← ofItems nested layout vs
    return .field value rest
  | .operations _ :: layout, v :: vs => do
    let ops ← readWrappedList nested v
    let rest ← ofItems nested layout vs
    return .operations ops rest

/-- Reads the fields of a layout from an object or a list. -/
def ofJson (nested : Json → Except Misfit Operation) (layout : Layout) :
    Json → Except Misfit (Record layout)
  | .obj ms => (ofMembers nested layout (find? ms)).mapError RecordFault.toMisfit
  | .arr vs => ofItems nested layout vs
  | _ => .error (.kind "a record")

end Record

namespace Operation

/-- Reads the payload of a kind. -/
def readBody (nested : Json → Except Misfit Operation) (kind : Kind)
    (supported : kind.isReserved = false) (body : Json) : Except Misfit Operation :=
  match Record.ofJson nested kind.layout body with
  | .ok payload => .ok (.known kind supported payload)
  | .error why => .error (.payload kind.name why)

/-- Reads the payload of the kind that a tag names, if there is one with a payload, and else keeps
it under the number or the name that it came with. -/
def readTagged (nested : Json → Except Misfit Operation) (kind : Option Kind) (id : Option UInt64)
    (name : Option String) (body : Json) : Except Misfit Operation :=
  match kind with
  | some kind =>
    if h : kind.isReserved = false then readBody nested kind h body
    else .ok (.unknown ⟨id, name, [], body⟩)
  | none => .ok (.unknown ⟨id, name, [], body⟩)

/-- Reads the payload of the kind that a JSON value names: a text is a name, a natural number is a
number of a kind. -/
def ofPair (nested : Json → Except Misfit Operation) (tag body : Json) : Except Misfit Operation :=
  match tag with
  | .str name => readTagged nested (Kind.ofName? name) none (some name) body
  | .num (.int i) =>
    if 0 ≤ i ∧ i < UInt64.size then
      readTagged nested (Kind.ofTag? i.toNat) (some (.ofNat i.toNat)) none body
    else .error (.operationNumber (.int i))
  | .num n => .error (.operationNumber n)
  | _ => .error (.operationTag tag)

/-- Reads an operation whose value nests at most `depth` levels; without a level there is no
list, and so no operation. A pair that does not fit is reported before any item after it. -/
def ofJsonAt : (depth : Nat) → Json → Except Misfit Operation
  | 0, _ => .error (.kind "a [name, payload] pair")
  | depth + 1, .arr (tag :: body :: rest) => do
    let op ← ofPair (ofJsonAt depth) tag body
    if rest.isEmpty then return op else .error .length
  | _, .arr _ => .error .length
  | _, _ => .error (.kind "a [name, payload] pair")

/-- Reads an operation. -/
def ofJson (v : Json) : Except Misfit Operation :=
  ofJsonAt v.depth v

/-- The JSON form of operations. -/
def form : Form Operation := ⟨toJson, ofJson⟩

/-- The JSON form of an operation that is wrapped in an object. -/
def wrappedForm : Form Operation :=
  .record (Fields.start id |>.field "op" form id)

end Operation

/-- The JSON form of the records of a layout. -/
def Record.form (layout : Layout) : Form (Record layout) where
  write r := .obj r.members
  read := Record.ofJson Operation.ofJson layout

end LedgerClient
