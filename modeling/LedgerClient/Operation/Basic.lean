import LedgerClient.Operation.Layout

/-!
# Operations

An operation is a kind together with a record whose fields have the names and the shapes that the
layout of the kind states. A proposal holds further operations, so records and operations are
defined together. An operation that this library does not know is kept as it was found: as the
bytes after its number, or as its JSON payload.
-/

namespace LedgerClient

/-- An operation of a kind that this library has no payload for. -/
structure UnknownOperation where
  /-- Its number, if it was found by number. -/
  id : Option UInt64
  /-- Its name, if one is known. -/
  name : Option String
  /-- The bytes after its number, if it was found on the wire. -/
  raw : Bytes
  /-- Its payload, if it was found in JSON. -/
  body : Json
  deriving DecidableEq

mutual

/-- The values of the fields of a layout, in order. -/
inductive Record : Layout → Type
  /-- No fields. -/
  | empty : Record []
  /-- The value of a field and the values of the fields after it. -/
  | field {name : String} {shape : Shape} {layout : Layout} (value : shape.Carrier)
      (rest : Record layout) : Record (.field name shape :: layout)
  /-- The operations of a field and the values of the fields after it. -/
  | operations {name : String} {layout : Layout} (ops : List Operation) (rest : Record layout) :
      Record (.operations name :: layout)

/-- An operation. -/
inductive Operation : Type
  /-- An operation of a kind that has a payload. -/
  | known (kind : Kind) (supported : kind.isReserved = false) (payload : Record kind.layout)
  /-- An operation that this library has no payload for. -/
  | unknown (operation : UnknownOperation)

end

/-! ### Equality -/

mutual

/-- Decides whether two records are the same. -/
def Record.decEq : {layout : Layout} → (a b : Record layout) → Decidable (a = b)
  | _, .empty, .empty => isTrue rfl
  | _, .field v r, .field w s =>
    if h : v = w then
      match r.decEq s with
      | isTrue t => isTrue (h ▸ t ▸ rfl)
      | isFalse t => isFalse fun e => t (Record.field.inj e).2
    else isFalse fun e => h (Record.field.inj e).1
  | _, .operations xs r, .operations ys s =>
    match decEqOperations xs ys, r.decEq s with
    | isTrue h, isTrue t => isTrue (h ▸ t ▸ rfl)
    | isFalse h, _ => isFalse fun e => h (Record.operations.inj e).1
    | _, isFalse t => isFalse fun e => t (Record.operations.inj e).2

/-- Decides whether two lists of operations are the same. -/
def decEqOperations : (xs ys : List Operation) → Decidable (xs = ys)
  | [], [] => isTrue rfl
  | x :: xs, y :: ys =>
    match x.decEq y, decEqOperations xs ys with
    | isTrue h, isTrue t => isTrue (h ▸ t ▸ rfl)
    | isFalse h, _ => isFalse fun e => h (List.cons.inj e).1
    | _, isFalse t => isFalse fun e => t (List.cons.inj e).2
  | [], _ :: _ | _ :: _, [] => isFalse nofun

/-- Decides whether two operations are the same. -/
def Operation.decEq : (a b : Operation) → Decidable (a = b)
  | .known k s p, .known l t q =>
    if h : l = k then
      match p.decEq (h ▸ q) with
      | isTrue e => isTrue (by subst h; subst e; rfl)
      | isFalse e => isFalse fun h' => e (by subst h; exact eq_of_heq (Operation.known.inj h').2)
    else isFalse fun e => h (Operation.known.inj e).1.symm
  | .unknown u, .unknown v =>
    if h : u = v then isTrue (h ▸ rfl) else isFalse fun e => h (Operation.unknown.inj e)
  | .known _ _ _, .unknown _ | .unknown _, .known _ _ _ => isFalse nofun

end

instance {layout : Layout} : DecidableEq (Record layout) := Record.decEq

instance : DecidableEq Operation := Operation.decEq

namespace Operation

/-! ### Kinds -/

/-- The kind of an operation that has a payload. -/
def kind? : Operation → Option Kind
  | known kind _ _ => some kind
  | unknown _ => none

/-- The name of an operation. -/
def name : Operation → String
  | known kind _ _ => kind.name
  | unknown u => u.name.getD "unknown"

/-- Whether only nodes emit the operation. -/
def isVirtual : Operation → Bool
  | known kind _ _ => kind.isVirtual
  | unknown _ => false

/-- Whether this library has no payload for the operation. -/
def isUnknown : Operation → Bool
  | known _ _ _ => false
  | unknown _ => true

/-! ### Some operations -/

/-- Moves an amount from one account to another. -/
def transfer (sender receiver : String) (amount : Asset) (memo : String) : Operation :=
  known .transfer rfl (.field sender (.field receiver (.field amount (.field memo .empty))))

/-- A custom operation that an account signs with its regular authority. -/
def customRegular (account id json : String) : Operation :=
  known .custom rfl (.field [] (.field [account] (.field id (.field json .empty))))

/-- Whether the operation is content that answers no other content. -/
def isRootContent : Operation → Bool
  | known .content _ (.field (parent : String) _) => parent.isEmpty
  | _ => false

end Operation

end LedgerClient
