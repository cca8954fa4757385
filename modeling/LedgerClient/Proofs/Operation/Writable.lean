import LedgerClient.Proofs.Operation.Parts
import LedgerClient.Operation.Wire

/-!
# Which operations have a wire form

Writing ends in a fault for two reasons only: an operation is unknown, or the name of a symbol does
not fit its seven bytes. Both are looked at in every part of an operation, at any depth, and the
parts are listed in the order in which they are written: `Operation.fault_write` says that the fault
is that of the first part with a fault. So an operation is written without a fault exactly if all
its parts are *writable*. Nothing here asks whether a nested operation is virtual.
-/

namespace LedgerClient

open Wire Wire.Codec

namespace Wire

/-! ### First members -/

theorem findSome?_cons_eq_or {α β : Type} (f : α → Option β) (x : α) (xs : List α) :
    (x :: xs).findSome? f = (f x).or (xs.findSome? f) := by
  rw [List.findSome?_cons]
  cases f x <;> rfl

/-- What is found first in lists joined end to end is found in the first list where it is found. -/
theorem findSome?_flatMap {α β γ : Type} (f : β → Option γ) (g : α → List β) (xs : List α) :
    (xs.flatMap g).findSome? f = xs.findSome? fun x => (g x).findSome? f := by
  induction xs with
  | nil => rfl
  | cons x xs ih => rw [List.flatMap_cons, List.findSome?_append, findSome?_cons_eq_or, ih]

/-! ### Faults of outputs -/

namespace Output

@[simp]
theorem fault_ofBytes (bytes : Bytes) : (ofBytes bytes).fault = none := rfl

@[simp]
theorem fault_empty : empty.fault = none := rfl

@[simp]
theorem fault_ofFault (fault : Fault) : (ofFault fault).fault = some fault := rfl

/-- Two outputs in a row have no fault exactly if neither has. -/
@[simp]
theorem fault_append_eq_none_iff {a b : Output} :
    (a ++ b).fault = none ↔ a.fault = none ∧ b.fault = none := by
  obtain ⟨bytes, fault⟩ := a
  cases fault <;> simp [append_def, append]

/-- The fault of two outputs in a row is that of the first, or else that of the second. -/
theorem fault_append (a b : Output) : (a ++ b).fault = a.fault.or b.fault := by
  obtain ⟨bytes, fault⟩ := a
  cases fault <;> rfl

/-- The fault of the output of a list is that of the first member with a fault. -/
theorem fault_ofList {α : Type} (write : α → Output) (xs : List α) :
    (ofList write xs).fault = xs.findSome? fun x => (write x).fault := by
  induction xs with
  | nil => rfl
  | cons x xs ih => rw [ofList, fault_append, findSome?_cons_eq_or, ih]

@[simp]
theorem fault_ofList_eq_none_iff {α : Type} {write : α → Output} {xs : List α} :
    (ofList write xs).fault = none ↔ ∀ x ∈ xs, (write x).fault = none := by
  rw [fault_ofList, List.findSome?_eq_none_iff]

/-- What ended the output of a list is what ended the output of one of its members. -/
theorem exists_of_fault_ofList {α : Type} {write : α → Output} {xs : List α} {fault : Fault}
    (h : (ofList write xs).fault = some fault) : ∃ x ∈ xs, (write x).fault = some fault := by
  rw [fault_ofList] at h
  exact List.exists_of_findSome?_eq_some h

end Output

/-- There are bytes exactly if there is no fault. -/
theorem Codec.exists_toBytes_iff {α : Type} {c : Codec α} {x : α} :
    (∃ bytes, c.toBytes x = .ok bytes) ↔ (c.write x).fault = none := by
  rw [Codec.toBytes, Output.toExcept]
  cases (c.write x).fault <;> simp

end Wire

/-! ### Writable parts -/

/-- The part does not prevent a wire form: it is not an unknown operation, and the name of its
symbol fits. -/
def Part.IsWritable : Part → Prop
  | operation op => op.isUnknown = false
  | asset a => (Utf8.encode a.symbol.name).length ≤ Asset.symbolWidth
  | count _ => True

instance : DecidablePred Part.IsWritable
  | .operation op => inferInstanceAs (Decidable (op.isUnknown = false))
  | .asset a => inferInstanceAs (Decidable ((Utf8.encode a.symbol.name).length ≤ Asset.symbolWidth))
  | .count _ => inferInstanceAs (Decidable True)

/-- The fault that the part ends the writing in, if it does. -/
def Part.fault? : Part → Option Fault
  | operation op => if op.isUnknown then some (.unsupported .unknownOperation) else none
  | asset a =>
    if Asset.symbolWidth < (Utf8.encode a.symbol.name).length then
      some (.symbolTooLong a.symbol.name)
    else none
  | count _ => none

theorem Part.fault?_eq_none_iff {p : Part} : p.fault? = none ↔ p.IsWritable := by
  cases p <;> simp [fault?, IsWritable]

theorem Asset.fault_write (a : Asset) : (Asset.codec.write a).fault = (Part.asset a).fault? := by
  simp only [Asset.codec, Part.fault?]
  split
  · rfl
  · simp [Codec.i64, Codec.u8, Codec.fixed]

theorem Authority.fault_write (a : Authority) : (Authority.codec.write a).fault = none := by
  simp [Authority.codec, Codec.via, Codec.pair, Codec.list, Codec.text, Codec.blob, Codec.u32,
    Codec.u16, Codec.fixed, PublicKey.codec, Codec.vector]

theorem Beneficiary.fault_write (b : Beneficiary) : (Beneficiary.codec.write b).fault = none := by
  simp [Beneficiary.codec, Codec.via, Codec.pair, Codec.text, Codec.blob, Codec.u16, Codec.fixed]

theorem ContentExtension.fault_write : (e : ContentExtension) →
    (ContentExtension.codec.write e).fault = none
  | beneficiaries list => by
    simp [ContentExtension.codec, Codec.list, Beneficiary.fault_write]

/-- Lengths end no writing. -/
theorem Part.findSome?_fault?_count (ns : List Nat) :
    (ns.map Part.count).findSome? Part.fault? = none := by
  simp [List.findSome?_map, Function.comp_def, fault?]

/-- The fault of a value of any shape is that of the first part with a fault. -/
theorem Shape.fault_write : (s : Shape) → (v : s.Carrier) →
    (s.codec.write v).fault = (s.parts v).findSome? Part.fault?
  | text, t => by simp [codec, parts, Codec.text, Codec.blob, Part.fault?]
  | asset, a => by simp [codec, parts, Asset.fault_write]
  | timestamp, _ | key, _ | u16, _ | i16, _ | u32, _ | flag, _ | sequence, _ => by
    simp [codec, parts, Timestamp.codec, PublicKey.codec, Codec.via, Codec.vector, Codec.u16,
      Codec.i16, Codec.u32, Codec.flag, Codec.u64, Codec.fixed]
  | authority, a => by rw [codec, parts, a.fault_write, Part.findSome?_fault?_count]
  | beneficiary, b => by rw [codec, parts, b.fault_write, Part.findSome?_fault?_count]
  | extension, e => by cases e; simp [codec, parts, Extension.codec]
  | contentExtension, e => by rw [codec, parts, e.fault_write, Part.findSome?_fault?_count]
  | list item, (xs : List item.Carrier) => by
    have hitems : (Output.ofList item.codec.write xs).fault =
        (xs.flatMap item.parts).findSome? Part.fault? := by
      rw [Output.fault_ofList, findSome?_flatMap]
      simp only [fault_write item]
    rw [parts, List.findSome?_cons, ← hitems]
    simp [codec, Codec.list, Output.fault_append, Part.fault?]
  | option item, (x : Option item.Carrier) => by
    cases x with
    | none => simp [codec, parts, Codec.option]
    | some v => simp [codec, parts, Codec.option, Output.fault_append, fault_write item]

mutual

/-- The fault of a record is that of the first part with a fault. -/
theorem Record.fault_write : {layout : Layout} → (r : Record layout) →
    r.write.fault = r.parts.findSome? Part.fault?
  | _, .empty => by simp [Record.write, Record.parts]
  | _, @Record.field _ shape _ v r => by
    rw [Record.write, Record.parts, Output.fault_append, List.findSome?_append,
      shape.fault_write v, r.fault_write]
  | _, .operations ops r => by
    rw [Record.write, Record.parts, Output.fault_append, Output.fault_append,
      findSome?_cons_eq_or, List.findSome?_append, Operation.fault_writeList ops,
      r.fault_write]
    rfl

/-- The fault of operations is that of the first part with a fault. -/
theorem Operation.fault_writeList : (ops : List Operation) →
    (Operation.writeList ops).fault = (Operation.partsList ops).findSome? Part.fault?
  | [] => by simp [Operation.writeList, Operation.partsList]
  | op :: ops => by
    rw [Operation.writeList, Operation.partsList, Output.fault_append, List.findSome?_append,
      op.fault_write, Operation.fault_writeList ops]

/-- **Faults.** The fault of an operation is that of the first part, at any depth, with a fault. -/
theorem Operation.fault_write : (op : Operation) →
    op.write.fault = op.parts.findSome? Part.fault?
  | .known kind supported payload => by
    rw [Operation.write, Operation.parts, Output.fault_append, findSome?_cons_eq_or,
      payload.fault_write]
    rfl
  | .unknown u => by
    simp [Operation.write, Operation.parts, Part.fault?, Operation.isUnknown]

end

/-- Operations are written without a fault exactly if their parts are writable. -/
theorem Operation.fault_writeList_eq_none_iff (ops : List Operation) :
    (Operation.writeList ops).fault = none ↔ ∀ p ∈ Operation.partsList ops, p.IsWritable := by
  simp only [Operation.fault_writeList, List.findSome?_eq_none_iff, Part.fault?_eq_none_iff]

/-- An operation is written without a fault exactly if its parts, at any depth, are writable. -/
theorem Operation.fault_write_eq_none_iff (op : Operation) :
    op.write.fault = none ↔ ∀ p ∈ op.parts, p.IsWritable := by
  simp only [Operation.fault_write, List.findSome?_eq_none_iff, Part.fault?_eq_none_iff]

end LedgerClient
