import LedgerClient.Operation.Basic
import LedgerClient.Proofs.Asset.Wire
import LedgerClient.Proofs.Authority

/-!
# The parts of an operation

A proposal nests operations to any depth, so that a statement about "every asset of an operation"
speaks of a tree. `Operation.parts` walks this tree once and lists what it meets: the operations,
the amounts in their fields, and the lengths of their texts and lists. The views `Operation.within`,
`Operation.assets` and `Operation.counts` pick one sort of part each.

An operation is *canonical* if all its parts are: none of the operations is unknown, every symbol is
canonical, and every length fits the 64 bits that precede a text or a list on the wire. Stated on
the list of parts, the condition splits along the constructors of operations and records, which is
how the inductions of the wire form take it apart.
-/

namespace LedgerClient

/-- A proposal of operations, without memo and review period. -/
def Operation.proposal (author title : String) (expiration : Timestamp) (ops : List Operation) :
    Operation :=
  known .proposalCreate rfl (.field author (.field title (.field "" (.field expiration
    (.operations ops (.field none (.field [] .empty)))))))

/-! ### Parts -/

/-- A part of an operation. -/
inductive Part
  /-- An operation, the whole or a nested one. -/
  | operation (op : Operation)
  /-- An amount in a field. -/
  | asset (a : Asset)
  /-- The length of a text or a list. -/
  | count (n : Nat)

namespace Part

/-- The operation, if the part is one. -/
def operation? : Part → Option Operation
  | operation op => some op
  | _ => none

/-- The amount, if the part is one. -/
def asset? : Part → Option Asset
  | asset a => some a
  | _ => none

/-- The length, if the part is one. -/
def count? : Part → Option Nat
  | count n => some n
  | _ => none

/-- The part is not an unknown operation, its symbol is canonical, its length fits 64 bits. -/
def IsCanonical : Part → Prop
  | operation op => op.isUnknown = false
  | asset a => a.symbol.IsCanonical
  | count n => n < 2 ^ 64

instance : DecidablePred IsCanonical
  | operation op => inferInstanceAs (Decidable (op.isUnknown = false))
  | asset a => inferInstanceAs (Decidable a.symbol.IsCanonical)
  | count n => inferInstanceAs (Decidable (n < 2 ^ 64))

end Part

/-- The parts of a value of a shape. -/
def Shape.parts : (s : Shape) → s.Carrier → List Part
  | text, (t : String) => [.count (Utf8.encode t).length]
  | asset, (a : Asset) => [.asset a]
  | authority, (a : Authority) => a.counts.map .count
  | beneficiary, (b : Beneficiary) => b.counts.map .count
  | contentExtension, (e : ContentExtension) => e.counts.map .count
  | list item, (xs : List item.Carrier) => .count xs.length :: xs.flatMap (parts item)
  | option item, (x : Option item.Carrier) => x.toList.flatMap (parts item)
  | _, _ => []

mutual

/-- The parts of the fields of a record. -/
def Record.parts : {layout : Layout} → Record layout → List Part
  | _, .empty => []
  | _, @Record.field _ shape _ value rest => shape.parts value ++ rest.parts
  | _, .operations ops rest => .count ops.length :: (Operation.partsList ops ++ rest.parts)

/-- The parts of operations, one after another. -/
def Operation.partsList : List Operation → List Part
  | [] => []
  | op :: ops => op.parts ++ Operation.partsList ops

/-- The parts of an operation: first the operation itself. -/
def Operation.parts : Operation → List Part
  | .known kind supported payload => .operation (.known kind supported payload) :: payload.parts
  | .unknown u => [.operation (.unknown u)]

end

namespace Operation

theorem partsList_eq_flatMap : (ops : List Operation) → partsList ops = ops.flatMap parts
  | [] => rfl
  | op :: ops => by rw [partsList, partsList_eq_flatMap ops, List.flatMap_cons]

/-- The operation and the operations nested in it, at any depth. -/
def within (op : Operation) : List Operation := op.parts.filterMap Part.operation?

/-- The amounts in an operation and in the operations nested in it. -/
def assets (op : Operation) : List Asset := op.parts.filterMap Part.asset?

/-- The lengths of the texts and lists in an operation and in the operations nested in it. -/
def counts (op : Operation) : List Nat := op.parts.filterMap Part.count?

theorem mem_within_iff {op o : Operation} : o ∈ op.within ↔ .operation o ∈ op.parts := by
  simp only [within, List.mem_filterMap]
  constructor
  · rintro ⟨p, hp, ho⟩
    cases p <;> simp_all [Part.operation?]
  · exact fun h => ⟨_, h, rfl⟩

theorem mem_assets_iff {op : Operation} {a : Asset} : a ∈ op.assets ↔ .asset a ∈ op.parts := by
  simp only [assets, List.mem_filterMap]
  constructor
  · rintro ⟨p, hp, ha⟩
    cases p <;> simp_all [Part.asset?]
  · exact fun h => ⟨_, h, rfl⟩

theorem mem_counts_iff {op : Operation} {n : Nat} : n ∈ op.counts ↔ .count n ∈ op.parts := by
  simp only [counts, List.mem_filterMap]
  constructor
  · rintro ⟨p, hp, hn⟩
    cases p <;> simp_all [Part.count?]
  · exact fun h => ⟨_, h, rfl⟩

/-- An operation is the first of its parts. -/
theorem mem_parts_self (op : Operation) : .operation op ∈ op.parts := by
  cases op <;> exact List.mem_cons_self

theorem mem_within_self (op : Operation) : op ∈ op.within :=
  mem_within_iff.mpr op.mem_parts_self

/-! ### Canonical operations -/

/-- All parts of the operation are canonical. -/
def IsCanonical (op : Operation) : Prop := ∀ p ∈ op.parts, p.IsCanonical

instance : DecidablePred IsCanonical := fun op =>
  inferInstanceAs (Decidable (∀ p ∈ op.parts, p.IsCanonical))

theorem IsCanonical.not_isUnknown {op o : Operation} (h : op.IsCanonical) (ho : o ∈ op.within) :
    ¬o.isUnknown = true := by
  have hknown : o.isUnknown = false := h _ (mem_within_iff.mp ho)
  rw [hknown]
  exact Bool.noConfusion

/-- An operation is canonical if, at any depth, no operation is unknown, every symbol is canonical,
and every length fits 64 bits. -/
theorem isCanonical_iff {op : Operation} :
    op.IsCanonical ↔ (∀ o ∈ op.within, o.isUnknown = false) ∧
      (∀ a ∈ op.assets, a.symbol.IsCanonical) ∧ ∀ n ∈ op.counts, n < 2 ^ 64 := by
  constructor
  · intro h
    exact ⟨fun o ho => h _ (mem_within_iff.mp ho), fun a ha => h _ (mem_assets_iff.mp ha),
      fun n hn => h _ (mem_counts_iff.mp hn)⟩
  · rintro ⟨hknown, hassets, hcounts⟩ p hp
    cases p with
    | operation o => exact hknown o (mem_within_iff.mpr hp)
    | asset a => exact hassets a (mem_assets_iff.mpr hp)
    | count n => exact hcounts n (mem_counts_iff.mpr hp)

end Operation

end LedgerClient
