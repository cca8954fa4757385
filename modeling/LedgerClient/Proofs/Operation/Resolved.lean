import LedgerClient.Proofs.Operation.Json
import LedgerClient.Proofs.Operation.Writable

/-!
# Resolving the symbols of an operation

An amount can be of a symbol that is merely written like one of the ledger's own. Neither its wire
form nor its text tells the two apart, and both readers take it for the ledger's own. Here this is
done to every amount of an operation, at any depth: the resolved operation has the wire form and the
JSON form of the one it comes from, and its parts are the resolved parts.

Whatever is shown of resolved operations therefore holds of the bytes and of the JSON value of any
operation, although the operation itself may not be read back from either. And an operation that can
be written and has readable amounts is text-safe once it is resolved.
-/

namespace LedgerClient

open Wire

theorem Wire.Output.ofList_map {α β : Type} (write : β → Output) (f : α → β) :
    (xs : List α) → ofList write (xs.map f) = ofList (fun x => write (f x)) xs
  | [] => rfl
  | x :: xs => by rw [List.map_cons, ofList, ofList, ofList_map write f xs]

namespace Asset

@[simp]
theorem precision_resolved (a : Asset) : a.resolved.precision = a.precision :=
  Symbol.precision_ofParts _ _

@[simp]
theorem name_resolved (a : Asset) : a.resolved.symbol.name = a.symbol.name :=
  Symbol.name_ofParts _ _

theorem text_resolved (a : Asset) : a.resolved.text = a.text := by
  rw [text, text, precision_resolved, name_resolved]
  rfl

theorem write_resolved (a : Asset) : codec.write a.resolved = codec.write a := by
  simp only [codec, precision_resolved, name_resolved]
  rfl

end Asset

/-! ### Fields -/

/-- A value of a shape with resolved symbols. -/
def Shape.resolved : (s : Shape) → s.Carrier → s.Carrier
  | asset, (a : Asset) => a.resolved
  | list item, (xs : List item.Carrier) => xs.map (resolved item)
  | option item, (x : Option item.Carrier) => x.map (resolved item)
  | _, v => v

mutual

/-- A record with resolved symbols. -/
def Record.resolved : {layout : Layout} → Record layout → Record layout
  | _, .empty => .empty
  | _, @Record.field _ shape _ value rest => .field (shape.resolved value) rest.resolved
  | _, .operations ops rest => .operations (Operation.resolvedAll ops) rest.resolved

/-- Operations with resolved symbols. -/
def Operation.resolvedAll : List Operation → List Operation
  | [] => []
  | op :: ops => op.resolved :: Operation.resolvedAll ops

/-- An operation with resolved symbols, at any depth. -/
def Operation.resolved : Operation → Operation
  | .known kind supported payload => .known kind supported payload.resolved
  | .unknown u => .unknown u

end

/-- A part with resolved symbols. -/
def Part.resolved : Part → Part
  | operation op => .operation op.resolved
  | asset a => .asset a.resolved
  | count n => .count n

namespace Shape

theorem form_write_resolved : (s : Shape) → (v : s.Carrier) →
    s.form.write (s.resolved v) = s.form.write v
  | asset, a => congrArg Json.str a.text_resolved
  | list item, (xs : List item.Carrier) => by
    simp [form, resolved, Json.Form.list, Function.comp_def, form_write_resolved item]
  | option item, (x : Option item.Carrier) => by
    cases x with
    | none => rfl
    | some x => exact form_write_resolved item x
  | text, _ | timestamp, _ | key, _ | u16, _ | i16, _ | u32, _ | flag, _ | sequence, _
  | authority, _ | beneficiary, _ | extension, _ | contentExtension, _ => rfl

theorem codec_write_resolved : (s : Shape) → (v : s.Carrier) →
    s.codec.write (s.resolved v) = s.codec.write v
  | asset, a => a.write_resolved
  | list item, (xs : List item.Carrier) => by
    simp only [codec, resolved, Codec.list, Output.ofList_map, List.length_map,
      codec_write_resolved item]
  | option item, (x : Option item.Carrier) => by
    cases x with
    | none => rfl
    | some x => exact congrArg (Output.ofBytes [1] ++ ·) (codec_write_resolved item x)
  | text, _ | timestamp, _ | key, _ | u16, _ | i16, _ | u32, _ | flag, _ | sequence, _
  | authority, _ | beneficiary, _ | extension, _ | contentExtension, _ => rfl

theorem parts_resolved : (s : Shape) → (v : s.Carrier) →
    s.parts (s.resolved v) = (s.parts v).map Part.resolved
  | text, _ | asset, _ | timestamp, _ | key, _ | u16, _ | i16, _ | u32, _ | flag, _ | sequence, _
  | extension, _ => rfl
  | authority, _ | beneficiary, _ | contentExtension, _ => by
    simp [parts, resolved, Part.resolved]
  | list item, (xs : List item.Carrier) => by
    simp [parts, resolved, List.flatMap_map, List.map_flatMap, parts_resolved item, Part.resolved]
  | option item, (x : Option item.Carrier) => by
    cases x with
    | none => rfl
    | some x => simp [parts, resolved, parts_resolved item]

end Shape

/-! ### Operations -/

theorem Operation.length_resolvedAll (ops : List Operation) :
    (Operation.resolvedAll ops).length = ops.length := by
  induction ops with
  | nil => rfl
  | cons op ops ih => exact congrArg Nat.succ ih

mutual

theorem Record.members_resolved : {layout : Layout} → (r : Record layout) →
    r.resolved.members = r.members
  | _, .empty => rfl
  | _, @Record.field _ shape _ value rest => by
    rw [Record.resolved, Record.members, Record.members, shape.form_write_resolved,
      rest.members_resolved]
  | _, .operations ops rest => by
    rw [Record.resolved, Record.members, Record.members, Operation.wrapAll_resolvedAll ops,
      rest.members_resolved]

theorem Operation.wrapAll_resolvedAll : (ops : List Operation) →
    Operation.wrapAll (Operation.resolvedAll ops) = Operation.wrapAll ops
  | [] => rfl
  | op :: ops => by
    rw [Operation.resolvedAll, Operation.wrapAll, Operation.wrapAll, op.toJson_resolved,
      Operation.wrapAll_resolvedAll ops]

/-- A resolved operation has the same JSON form. -/
theorem Operation.toJson_resolved : (op : Operation) → op.resolved.toJson = op.toJson
  | .known kind supported payload => by
    rw [Operation.resolved, Operation.toJson, Operation.toJson, payload.members_resolved]
  | .unknown _ => rfl

end

mutual

theorem Record.write_resolved : {layout : Layout} → (r : Record layout) →
    r.resolved.write = r.write
  | _, .empty => rfl
  | _, @Record.field _ shape _ value rest => by
    rw [Record.resolved, Record.write, Record.write, shape.codec_write_resolved,
      rest.write_resolved]
  | _, .operations ops rest => by
    rw [Record.resolved, Record.write, Record.write, Operation.length_resolvedAll,
      Operation.writeList_resolvedAll ops, rest.write_resolved]

theorem Operation.writeList_resolvedAll : (ops : List Operation) →
    Operation.writeList (Operation.resolvedAll ops) = Operation.writeList ops
  | [] => rfl
  | op :: ops => by
    rw [Operation.resolvedAll, Operation.writeList, Operation.writeList, op.write_resolved,
      Operation.writeList_resolvedAll ops]

/-- A resolved operation has the same wire form. -/
theorem Operation.write_resolved : (op : Operation) → op.resolved.write = op.write
  | .known kind supported payload => by
    rw [Operation.resolved, Operation.write, Operation.write, payload.write_resolved]
  | .unknown _ => rfl

end

mutual

theorem Record.parts_resolved : {layout : Layout} → (r : Record layout) →
    r.resolved.parts = r.parts.map Part.resolved
  | _, .empty => rfl
  | _, @Record.field _ shape _ value rest => by
    rw [Record.resolved, Record.parts, Record.parts, List.map_append, shape.parts_resolved,
      rest.parts_resolved]
  | _, .operations ops rest => by
    rw [Record.resolved, Record.parts, Record.parts, List.map_cons, List.map_append,
      Operation.length_resolvedAll, Operation.partsList_resolvedAll ops, rest.parts_resolved]
    rfl

theorem Operation.partsList_resolvedAll : (ops : List Operation) →
    Operation.partsList (Operation.resolvedAll ops) = (Operation.partsList ops).map Part.resolved
  | [] => rfl
  | op :: ops => by
    rw [Operation.resolvedAll, Operation.partsList, Operation.partsList, List.map_append,
      op.parts_resolved, Operation.partsList_resolvedAll ops]

/-- The parts of a resolved operation are the resolved parts. -/
theorem Operation.parts_resolved : (op : Operation) →
    op.resolved.parts = op.parts.map Part.resolved
  | .known kind supported payload => by
    rw [Operation.resolved, Operation.parts, Operation.parts, List.map_cons, payload.parts_resolved]
    rfl
  | .unknown _ => rfl

end

/-! ### Readable parts -/

/-- The amount is readable, if the part is one. -/
def Part.IsReadable : Part → Prop
  | asset a => a.IsReadable
  | _ => True

/-- A readable part of an operation that can be written is text-safe once it is resolved. -/
theorem Part.isTextSafe_resolved {tidy : Json → Json} : {p : Part} → p.IsReadable → p.IsWritable →
    p.resolved.IsTextSafe tidy
  | asset _, h, _ => h.isTextSafe_resolved
  | operation (.known _ _ _), _, _ | count _, _, _ => trivial
  | operation (.unknown _), _, h => nomatch h

theorem Operation.forall_parts_resolved_isTextSafe {tidy : Json → Json} {op : Operation}
    (h : ∀ p ∈ op.parts, p.IsReadable) (hwritable : ∀ p ∈ op.parts, p.IsWritable) :
    ∀ p ∈ op.resolved.parts, p.IsTextSafe tidy := by
  rw [op.parts_resolved, List.forall_mem_map]
  exact fun p hp => Part.isTextSafe_resolved (h p hp) (hwritable p hp)

end LedgerClient
