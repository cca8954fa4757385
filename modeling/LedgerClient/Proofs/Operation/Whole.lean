import LedgerClient.Proofs.Json.Whole
import LedgerClient.Proofs.Operation.Parts
import LedgerClient.Transaction.Signed

/-!
# The JSON forms of operations and transactions are whole

Every number that the fields of an operation hold is a whole number of at most 64 bits, and so is
every number in its JSON form. The payload of an unknown operation is the one place where another
number can stand: an operation is *whole* if the payloads of the unknown operations in it are, at
any depth. A transaction of whole operations has a whole JSON form, with any signatures.
-/

namespace LedgerClient

open Json Json.Form

/-! ### Authorities and extensions -/

theorem Authority.form_writesWhole (a : Authority) : Authority.form.WritesWhole a := by
  have haccounts : (Form.text.pair .u16).list.WritesWhole a.accounts :=
    .list fun p _ => .pair trivial (writesWhole_u16 p.2)
  have hkeys : (PublicKey.form.pair .u16).list.WritesWhole a.keys :=
    .list fun p _ => .pair (writesWhole_ofText p.1) (writesWhole_u16 p.2)
  exact ((((Fields.writesWhole_start mk a).field (writesWhole_u32 a.threshold)).field
    haccounts).field hkeys).record

theorem Beneficiary.form_writesWhole (b : Beneficiary) : Beneficiary.form.WritesWhole b := by
  have haccount : Form.text.WritesWhole b.account := trivial
  exact (((Fields.writesWhole_start mk b).field haccount).field (writesWhole_u16 b.weight)).record

theorem Extension.form_writesWhole : (e : Extension) → Extension.form.WritesWhole e
  | void => ⟨isWhole_nat (by decide), trivial, trivial⟩

theorem ContentExtension.form_writesWhole :
    (e : ContentExtension) → ContentExtension.form.WritesWhole e
  | beneficiaries list => by
    have hlist : Beneficiary.form.list.WritesWhole list := .list fun b _ => b.form_writesWhole
    have hbody : bodyForm.WritesWhole list :=
      ((Fields.writesWhole_start id list).field hlist).record
    exact ⟨isWhole_nat (by decide), hbody, trivial⟩

/-! ### Fields -/

/-- What is written for a value of any shape is whole. -/
theorem Shape.form_writesWhole : (s : Shape) → (v : s.Carrier) → s.form.WritesWhole v
  | text, _ | asset, _ | timestamp, _ | key, _ | flag, _ => trivial
  | u16, n => writesWhole_u16 n
  | i16, n => writesWhole_i16 n
  | u32, n => writesWhole_u32 n
  | sequence, n => writesWhole_flexU64 n
  | authority, a => Authority.form_writesWhole a
  | beneficiary, b => Beneficiary.form_writesWhole b
  | extension, e => Extension.form_writesWhole e
  | contentExtension, e => ContentExtension.form_writesWhole e
  | list item, _ => .list fun x _ => form_writesWhole item x
  | option item, _ => .option fun x _ => form_writesWhole item x

/-! ### Operations -/

/-- The payload of the part is whole, if it is an unknown operation. -/
def Part.IsWhole : Part → Prop
  | operation (.unknown u) => u.body.IsWhole
  | _ => True

/-- At any depth, the payloads of unknown operations are whole. -/
def Operation.IsWhole (op : Operation) : Prop := ∀ p ∈ op.parts, p.IsWhole

/-- An operation without unknown ones in it is whole. -/
theorem Operation.isWhole_of_known {op : Operation} (h : ∀ o ∈ op.within, o.isUnknown = false) :
    op.IsWhole := by
  intro p hp
  match p with
  | .operation (.unknown u) => exact nomatch h _ (mem_within_iff.mpr hp)
  | .operation (.known _ _ _) | .asset _ | .count _ => trivial

mutual

/-- The members of a record with whole parts are whole. -/
theorem Record.isWholeMembers_members : {layout : Layout} → (r : Record layout) →
    (∀ p ∈ r.parts, p.IsWhole) → IsWholeMembers r.members
  | _, .empty, _ => trivial
  | _, @Record.field _ shape _ value rest, h => by
    rw [Record.parts, List.forall_mem_append] at h
    exact ⟨shape.form_writesWhole value, rest.isWholeMembers_members h.2⟩
  | _, .operations ops rest, h => by
    rw [Record.parts, List.forall_mem_cons, List.forall_mem_append] at h
    exact ⟨Operation.isWholeItems_wrapAll ops h.2.1, rest.isWholeMembers_members h.2.2⟩

/-- Operations with whole parts have whole forms, each within an object. -/
theorem Operation.isWholeItems_wrapAll : (ops : List Operation) →
    (∀ p ∈ Operation.partsList ops, p.IsWhole) → IsWholeItems (Operation.wrapAll ops)
  | [], _ => trivial
  | op :: ops, h => by
    rw [Operation.partsList, List.forall_mem_append] at h
    exact ⟨⟨op.form_writesWhole h.1, trivial⟩, Operation.isWholeItems_wrapAll ops h.2⟩

/-- What is written for a whole operation is whole. -/
theorem Operation.form_writesWhole : (op : Operation) → op.IsWhole → Operation.form.WritesWhole op
  | .known kind supported payload, h => by
    rw [Operation.IsWhole, Operation.parts, List.forall_mem_cons] at h
    exact ⟨trivial, payload.isWholeMembers_members h.2, trivial⟩
  | .unknown ⟨id, name, raw, body⟩, h => by
    have hbody : body.IsWhole := h _ (Operation.mem_parts_self _)
    refine ⟨?_, hbody, trivial⟩
    match name, id with
    | some _, _ | none, none => trivial
    | none, some id => exact isWhole_nat id.toNat_lt

end

/-! ### Transactions -/

/-- The fields of a transaction of whole operations are whole. -/
theorem Transaction.fields_writesWhole {t : Transaction} (h : ∀ op ∈ t.operations, op.IsWhole) :
    fields.WritesWhole t := by
  have htime : Timestamp.form.WritesWhole t.expiration := writesWhole_ofText t.expiration
  have hops : Operation.form.list.WritesWhole t.operations :=
    .list fun op hop => op.form_writesWhole (h op hop)
  have hextensions : Extension.form.list.WritesWhole t.extensions :=
    .list fun e _ => e.form_writesWhole
  exact (((((Fields.writesWhole_start mk t).field (writesWhole_u16 t.blockNumber)).field
    (writesWhole_u32 t.blockMark)).field htime).field hops).field hextensions

/-- What is written for a signed transaction of whole operations is whole. -/
theorem SignedTransaction.form_writesWhole {s : SignedTransaction}
    (h : ∀ op ∈ s.body.operations, op.IsWhole) : SignedTransaction.form.WritesWhole s := by
  have hsignatures : Signature.form.list.WritesWhole s.signatures :=
    .list fun signature _ => writesWhole_ofText signature
  refine isWholeMembers_iff.mpr
    (List.forall_mem_append.mpr ⟨Transaction.fields_writesWhole h, ?_⟩)
  exact List.forall_mem_singleton.mpr hsignatures

end LedgerClient
