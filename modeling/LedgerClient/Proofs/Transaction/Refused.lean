import LedgerClient.Proofs.Transaction.Validation

/-!
# Which transactions have no bytes, and why

What can prevent the bytes of a transaction are items of three sorts: a virtual operation in the
list, an unknown operation at any depth, and an amount at any depth whose symbol is too long. This
module lists the items of a transaction in the order in which they are written
(`Transaction.items`), says which of them offend, and how (`Item.Offends`), and shows that the bytes
are missing if and only if an item offends, with the fault of the first one that does
(`toBytes_ok_or_first_offence`).

The check of a transaction looks at the operations of the list only. Of the three sorts it leaves
the unknown operations that are nested and the symbols, and these decide whether a transaction that
passes can be bound to a chain.
-/

namespace LedgerClient

open Wire Wire.Codec

/-! ### Items -/

/-- Something in a transaction that may prevent its bytes. -/
inductive Item
  /-- An operation as a member of the list. -/
  | listed (op : Operation)
  /-- A part of an operation of the list. -/
  | part (p : Part)

namespace Item

/-- The item prevents the bytes of its transaction, in this fault. -/
inductive Offends : Item → Fault → Prop
  /-- A virtual operation must not stand in the list. -/
  | virtual {op : Operation} (h : op.isVirtual = true) :
      Offends (.listed op) (.unsupported (.virtualOperation op.name))
  /-- An unknown operation has no bytes, whatever it is nested in. -/
  | unknown {op : Operation} (h : op.isUnknown = true) :
      Offends (.part (.operation op)) (.unsupported .unknownOperation)
  /-- There are seven bytes for the name of a symbol. -/
  | longSymbol {a : Asset} (h : 7 < (Utf8.encode a.symbol.name).length) :
      Offends (.part (.asset a)) (.symbolTooLong a.symbol.name)

/-- The fault of an item, if it offends. -/
def fault? : Item → Option Fault
  | listed op => if op.isVirtual then some (.unsupported (.virtualOperation op.name)) else none
  | part p => p.fault?

theorem offends_iff {item : Item} {fault : Fault} :
    item.Offends fault ↔ item.fault? = some fault := by
  constructor
  · rintro (h | h | h)
    · exact if_pos h
    · exact if_pos h
    · exact if_pos h
  · intro h
    match item with
    | listed op =>
      obtain ⟨hvirtual, hfault⟩ := Option.ite_none_right_eq_some.mp h
      rw [← Option.some.inj hfault]
      exact .virtual hvirtual
    | part (.operation op) =>
      obtain ⟨hunknown, hfault⟩ := Option.ite_none_right_eq_some.mp h
      rw [← Option.some.inj hfault]
      exact .unknown hunknown
    | part (.asset a) =>
      obtain ⟨hlong, hfault⟩ := Option.ite_none_right_eq_some.mp h
      rw [← Option.some.inj hfault]
      exact .longSymbol hlong
    | part (.count n) => cases h

theorem fault?_eq_none_iff {item : Item} : item.fault? = none ↔ ∀ fault, ¬item.Offends fault := by
  simp only [offends_iff, Option.eq_none_iff_forall_ne_some, ne_eq]

end Item

namespace Transaction

/-- The items of a transaction in the order in which they are written: every operation of the list,
followed by its parts. -/
def items (t : Transaction) : List Item :=
  t.operations.flatMap fun op => .listed op :: op.parts.map .part

/-- The fault of an operation of the list is that of its first item with a fault. -/
theorem fault_writeOperation (op : Operation) : (writeOperation op).fault =
    (Item.listed op :: op.parts.map Item.part).findSome? Item.fault? := by
  have hparts : (op.parts.map Item.part).findSome? Item.fault? = op.write.fault := by
    rw [List.findSome?_map, op.fault_write]
    rfl
  rw [findSome?_cons_eq_or, hparts, Item.fault?, writeOperation]
  split
  · rfl
  · rfl

/-- **The first item decides.** The fault of a transaction is that of its first item with a
fault. -/
theorem fault_write_eq_findSome? (t : Transaction) :
    t.write.fault = t.items.findSome? Item.fault? := by
  rw [fault_write, Output.fault_ofList, items, findSome?_flatMap]
  simp only [fault_writeOperation]

theorem toBytes_eq_error_iff_findSome? {t : Transaction} {fault : Fault} :
    t.toBytes = .error fault ↔ t.items.findSome? Item.fault? = some fault := by
  rw [← fault_write_eq_findSome?, toBytes, toBytes_eq_error_iff]
  rfl

/-- A transaction that passes the check can be bound unless a nested operation is unknown or a
symbol is too long: everything else that prevents its bytes the check has looked at. -/
theorem isBindable_iff_of_validate {t : Transaction} (h : t.validate = .ok ()) :
    t.IsBindable ↔ (∀ op ∈ t.nested, op.isUnknown = false) ∧
      ∀ a ∈ t.assets, (Utf8.encode a.symbol.name).length ≤ 7 := by
  obtain ⟨hne, hsignable⟩ := validate_eq_ok_iff.mp h
  constructor
  · rintro ⟨-, -, hknown, hfits⟩
    exact ⟨(forall_within_iff.mp hknown).2, hfits⟩
  · rintro ⟨hnested, hfits⟩
    have hlisted : ∀ op ∈ t.operations, op.isUnknown = false := fun op hop => (hsignable op hop).2
    exact ⟨hne, fun op hop => (hsignable op hop).1, forall_within_iff.mpr ⟨hlisted, hnested⟩, hfits⟩

end Transaction

/-- An unbound transaction is bound exactly if its body can be. -/
theorem SignedTransaction.exists_run_bind_iff {s : SignedTransaction} (h : s.binding = none)
    (chain : ChainId) : (∃ d, (run (bind chain) s).1 = .ok d) ↔ s.body.IsBindable := by
  rw [← Transaction.exists_checkedDigest_iff chain]
  cases hdigest : s.body.checkedDigest chain with
  | ok d => simp [run_bind_first h hdigest]
  | error fault => simp [run_bind_first_failed h hdigest]

namespace Transaction

/-- **The domain of the writer.** A transaction has bytes exactly if no operation of the list is
virtual, no operation at any depth is unknown, and the names of all symbols at any depth have at
most seven bytes. If it has none, the fault is that of the first item that offends, in the order in
which the items are written. So a transaction that passes the check and is not bound yet can be
bound, to any chain, exactly if no nested operation is unknown and no symbol is too long. -/
theorem toBytes_ok_or_first_offence (t : Transaction) :
    ((∃ bytes, t.toBytes = .ok bytes) ↔ (∀ op ∈ t.operations, op.isVirtual = false) ∧
      (∀ op ∈ t.within, op.isUnknown = false) ∧
      ∀ a ∈ t.assets, (Utf8.encode a.symbol.name).length ≤ 7) ∧
    (∀ fault, t.toBytes = .error fault ↔ ∃ before item after, t.items = before ++ item :: after ∧
      item.Offends fault ∧ ∀ x ∈ before, ∀ other, ¬x.Offends other) ∧
    ∀ (s : SignedTransaction) (chain : ChainId), s.body = t → s.binding = none →
      t.validate = .ok () →
        ((∃ d, (SignedTransaction.run (SignedTransaction.bind chain) s).1 = .ok d) ↔
          (∀ op ∈ t.nested, op.isUnknown = false) ∧
            ∀ a ∈ t.assets, (Utf8.encode a.symbol.name).length ≤ 7) := by
  refine ⟨?_, fun fault => ?_, ?_⟩
  · exact exists_bytes_iff
  · rw [toBytes_eq_error_iff_findSome?, List.findSome?_eq_some_iff]
    simp only [← Item.offends_iff, Item.fault?_eq_none_iff]
  · rintro s chain rfl hunbound hvalid
    rw [SignedTransaction.exists_run_bind_iff hunbound, isBindable_iff_of_validate hvalid]

/-- A proposal of an operation that only nodes emit, of an amount whose symbol has eight letters,
and of an operation that has no payload here. -/
def threefoldProposal : Transaction :=
  ofOperations [.proposal "alice" "title" .epoch [
    .known .contentPayoutUpdate rfl (.field "bob" (.field "post" .empty)),
    .transfer "alice" "bob" ⟨1, .custom "EIGHTLET" 3⟩ "", .unknown ⟨none, some "x", [], .null⟩]]

theorem toBytes_ok_or_first_offence_threefoldProposal :
    threefoldProposal.validate = .ok () ∧
      threefoldProposal.toBytes = .error (.symbolTooLong "EIGHTLET") ∧
      ¬∃ d, (SignedTransaction.run (SignedTransaction.bind .mainnet)
        (.unsigned threefoldProposal)).1 = .ok d := by
  obtain ⟨-, hfault, hbind⟩ := toBytes_ok_or_first_offence threefoldProposal
  have hvalid : threefoldProposal.validate = .ok () := rfl
  refine ⟨hvalid, ?_, ?_⟩
  · -- The nested virtual operation does not offend, and the unknown one comes later.
    have hlong : 7 < (Utf8.encode "EIGHTLET").length := by decide
    refine (hfault _).mpr ⟨threefoldProposal.items.take 12,
      .part (.asset ⟨1, .custom "EIGHTLET" 3⟩), threefoldProposal.items.drop 13, rfl,
      .longSymbol hlong, ?_⟩
    simp only [← Item.fault?_eq_none_iff]
    decide
  · rw [hbind (.unsigned threefoldProposal) .mainnet rfl rfl hvalid]
    exact fun h => absurd (h.1 (.unknown ⟨none, some "x", [], .null⟩) (by decide)) (by decide)

end Transaction

end LedgerClient
