import LedgerClient.Proofs.Operation.Writable
import LedgerClient.Proofs.Transaction.Preimage
import LedgerClient.Proofs.Transaction.Signing

/-!
# What validation looks at

Operations that only nodes emit must not be signed, and unknown ones cannot be. The check of a
transaction and its writer ask whether an operation is virtual at the top of the list only; that no
operation is unknown is seen at any depth, since an unknown one has no wire form.

So a proposal carries a virtual operation past both. `signable_iff_nested_signable` says exactly how
far the check goes: which transactions pass, which of these hold only operations that may be signed,
which can be bound to a chain, and what a signature implies about the operations that it covers.
-/

namespace LedgerClient

open Wire Wire.Codec

/-! ### Operations at any depth -/

namespace Operation

/-- The operation may be signed: it is neither virtual nor unknown. -/
def IsSignable (op : Operation) : Prop := op.isVirtual = false ∧ op.isUnknown = false

instance : DecidablePred IsSignable := fun op =>
  inferInstanceAs (Decidable (op.isVirtual = false ∧ op.isUnknown = false))

/-- The operations nested in an operation, at any depth. -/
def nested : Operation → List Operation
  | known _ _ payload => payload.parts.filterMap Part.operation?
  | unknown _ => []

theorem within_eq_cons_nested (op : Operation) : op.within = op :: op.nested := by
  cases op <;> rfl

end Operation

namespace Transaction

/-- The operations of a transaction and those nested in them, at any depth. -/
def within (t : Transaction) : List Operation := t.operations.flatMap Operation.within

/-- The operations nested in the operations of a transaction, at any depth. -/
def nested (t : Transaction) : List Operation := t.operations.flatMap Operation.nested

/-- What holds of all operations holds of those of the list and of those nested in them. -/
theorem forall_within_iff {t : Transaction} {P : Operation → Prop} :
    (∀ op ∈ t.within, P op) ↔ (∀ op ∈ t.operations, P op) ∧ ∀ op ∈ t.nested, P op := by
  simp only [within, nested, List.forall_mem_flatMap, Operation.within_eq_cons_nested,
    List.forall_mem_cons]
  constructor
  · exact fun h => ⟨fun op hop => (h op hop).1, fun op hop => (h op hop).2⟩
  · exact fun h op hop => ⟨h.1 op hop, h.2 op hop⟩

/-! ### Validation and the wire form -/

/-- **The check.** There are operations, and those of the list may be signed. -/
theorem validate_eq_ok_iff {t : Transaction} :
    t.validate = .ok () ↔ t.operations ≠ [] ∧ ∀ op ∈ t.operations, op.IsSignable := by
  have hsignable : (∀ op ∈ t.operations, op.IsSignable) ↔
      t.operations.find? Operation.isVirtual = none ∧
        t.operations.find? Operation.isUnknown = none := by
    simp only [List.find?_eq_none, Bool.not_eq_true]
    exact ⟨fun h => ⟨fun op hop => (h op hop).1, fun op hop => (h op hop).2⟩,
      fun h op hop => ⟨h.1 op hop, h.2 op hop⟩⟩
  rw [hsignable, validate]
  by_cases hempty : t.operations = []
  · simp [hempty]
  · -- Both searches of the check are for what may not be signed.
    cases hvirtual : t.operations.find? Operation.isVirtual <;>
      cases hunknown : t.operations.find? Operation.isUnknown <;> simp [hempty]

/-- Only the operations of a transaction can prevent its wire form. -/
theorem fault_write (t : Transaction) :
    t.write.fault = (Output.ofList writeOperation t.operations).fault := by
  have hextensions : (Extension.codec.list.write t.extensions).fault = none := by
    rw [write_list, Output.fault_append_eq_none_iff, Output.fault_ofList_eq_none_iff]
    exact ⟨rfl, fun .void _ => rfl⟩
  simp only [write, Output.fault_append, hextensions, Option.or_none]
  rfl

/-- Within a transaction an operation is written without a fault exactly if it is not virtual and
its parts are writable. -/
theorem fault_writeOperation_eq_none_iff {op : Operation} :
    (writeOperation op).fault = none ↔ op.isVirtual = false ∧ ∀ p ∈ op.parts, p.IsWritable := by
  rw [writeOperation]
  split
  · simp_all
  · simp_all [op.fault_write_eq_none_iff]

/-- The parts of all operations are writable exactly if no operation is unknown and all symbols fit,
at any depth. -/
theorem forall_parts_isWritable_iff {t : Transaction} :
    (∀ op ∈ t.operations, ∀ p ∈ op.parts, p.IsWritable) ↔
      (∀ op ∈ t.within, op.isUnknown = false) ∧
        ∀ a ∈ t.assets, (Utf8.encode a.symbol.name).length ≤ Asset.symbolWidth := by
  simp only [within, assets, List.forall_mem_flatMap]
  constructor
  · exact fun h => ⟨fun op hop o ho => h op hop _ (Operation.mem_within_iff.mp ho),
      fun op hop a ha => h op hop _ (Operation.mem_assets_iff.mp ha)⟩
  · rintro ⟨hknown, hfits⟩ op hop p hp
    cases p with
    | operation o => exact hknown op hop o (Operation.mem_within_iff.mpr hp)
    | asset a => exact hfits op hop a (Operation.mem_assets_iff.mpr hp)
    | count n => trivial

/-- **The wire form.** A transaction has bytes exactly if no operation of the list is virtual, none
at any depth is unknown, and all symbols fit. -/
theorem exists_bytes_iff {t : Transaction} :
    (∃ bytes, t.toBytes = .ok bytes) ↔ (∀ op ∈ t.operations, op.isVirtual = false) ∧
      (∀ op ∈ t.within, op.isUnknown = false) ∧
      ∀ a ∈ t.assets, (Utf8.encode a.symbol.name).length ≤ Asset.symbolWidth := by
  rw [toBytes, exists_toBytes_iff, codec, fault_write, Output.fault_ofList_eq_none_iff,
    ← forall_parts_isWritable_iff]
  simp only [fault_writeOperation_eq_none_iff]
  exact ⟨fun h => ⟨fun op hop => (h op hop).1, fun op hop => (h op hop).2⟩,
    fun h op hop => ⟨h.1 op hop, h.2 op hop⟩⟩

/-- A transaction has a digest exactly if it has bytes. -/
theorem exists_digest_iff {t : Transaction} {chain : ChainId} :
    (∃ d, t.digest chain = .ok d) ↔ (∀ op ∈ t.operations, op.isVirtual = false) ∧
      (∀ op ∈ t.within, op.isUnknown = false) ∧
      ∀ a ∈ t.assets, (Utf8.encode a.symbol.name).length ≤ Asset.symbolWidth := by
  have hbytes : (∃ d, t.digest chain = .ok d) ↔ ∃ bytes, t.toBytes = .ok bytes := by
    rw [digest]
    cases t.toBytes <;> simp
  rw [hbytes, exists_bytes_iff]

/-- The condition under which a transaction can be bound to a chain. -/
structure IsBindable (t : Transaction) : Prop where
  /-- There are operations. -/
  nonempty : t.operations ≠ []
  /-- No operation of the list is virtual. -/
  regular : ∀ op ∈ t.operations, op.isVirtual = false
  /-- No operation is unknown, at any depth. -/
  known : ∀ op ∈ t.within, op.isUnknown = false
  /-- The names of all symbols fit. -/
  fits : ∀ a ∈ t.assets, (Utf8.encode a.symbol.name).length ≤ Asset.symbolWidth

theorem exists_checkedDigest_iff {t : Transaction} (chain : ChainId) :
    (∃ d, t.checkedDigest chain = .ok d) ↔ t.IsBindable := by
  simp only [checkedDigest_eq_ok_iff, exists_and_left, exists_digest_iff, validate_eq_ok_iff]
  constructor
  · rintro ⟨⟨hne, -⟩, hregular, hknown, hfits⟩
    exact ⟨hne, hregular, hknown, hfits⟩
  · rintro ⟨hne, hregular, hknown, hfits⟩
    have htop := (forall_within_iff.mp hknown).1
    exact ⟨⟨hne, fun op hop => ⟨hregular op hop, htop op hop⟩⟩, hregular, hknown, hfits⟩

end Transaction

/-! ### Signing -/

namespace SignedTransaction

/-- Calls bind a transaction that is not bound yet only if it can be bound. -/
theorem isBindable_of_binding {s : SignedTransaction} (hunbound : s.binding = none)
    {calls : List Call} {b : Binding} (hb : (s.after calls).binding = some b) :
    s.body.IsBindable := by
  rcases (extends_after s calls).sound b hb with hbound | hdigest
  · rw [hunbound] at hbound
    cases hbound
  · exact (Transaction.exists_checkedDigest_iff _).mp ⟨_, hdigest⟩

/-- Calls add a signature only if they bind the transaction. -/
theorem exists_binding_of_signatures_ne {s : SignedTransaction} {calls : List Call}
    (h : (s.after calls).signatures ≠ s.signatures) : ∃ b, (s.after calls).binding = some b := by
  obtain ⟨made, hmade, hsigned⟩ := (extends_after s calls).signatures
  cases made with
  | nil => exact absurd (hmade.trans (List.append_nil _)) h
  | cons signature rest =>
    obtain ⟨b, -, hb, -⟩ := hsigned signature List.mem_cons_self
    exact ⟨b, hb⟩

/-- A first signature is made exactly if the transaction can be bound and the key signs the
digest. -/
theorem exists_run_sign_iff {t : Transaction} {key : PrivateKey} {chain : ChainId}
    {signature : Signature} :
    (∃ s, run (sign key chain) (unsigned t) = (.ok signature, s)) ↔
      t.IsBindable ∧ ∃ d, t.digest chain = .ok d ∧ key.sign d = .ok signature := by
  constructor
  · rintro ⟨s, hrun⟩
    obtain ⟨-, d, hbinding, hmade⟩ := run_sign_ok hrun
    have hextends := extends_sign key chain (unsigned t)
    rw [hrun] at hextends
    rcases hextends.sound _ hbinding with hbound | hchecked
    · cases hbound
    · exact ⟨(Transaction.exists_checkedDigest_iff _).mp ⟨d, hchecked⟩, d,
        (Transaction.checkedDigest_eq_ok_iff.mp hchecked).2, hmade⟩
  · rintro ⟨hbindable, d, hdigest, hmade⟩
    obtain ⟨d', hchecked⟩ := (Transaction.exists_checkedDigest_iff chain).mpr hbindable
    cases hdigest.symm.trans (Transaction.checkedDigest_eq_ok_iff.mp hchecked).2
    rw [run_sign_of_ok (run_bind_first rfl hchecked) key]
    exact ⟨_, run_cosign_signed rfl hmade⟩

end SignedTransaction

namespace Transaction

/-- **How far the check goes.** A transaction passes if it has operations and those of its list may
be signed. All its operations, at any depth, may then be signed exactly if the nested ones may,
which the check does not look at. Which transactions can be bound to a chain does not depend on
nested virtual operations either, and a key that signs the digest signs them: so what a signature
implies is that no operation is unknown, and that a virtual operation can only be a nested one. -/
theorem signable_iff_nested_signable (t : Transaction) :
    (t.validate = .ok () ↔ t.operations ≠ [] ∧ ∀ op ∈ t.operations, op.IsSignable) ∧
    (t.validate = .ok () →
      ((∀ op ∈ t.within, op.IsSignable) ↔ ∀ op ∈ t.nested, op.IsSignable)) ∧
    ((∃ calls b, ((SignedTransaction.unsigned t).after calls).binding = some b) ↔ t.IsBindable) ∧
    (∀ key chain signature,
      (∃ s, SignedTransaction.run (SignedTransaction.sign key chain) (.unsigned t) =
        (.ok signature, s)) ↔
        t.IsBindable ∧ ∃ d, t.digest chain = .ok d ∧ PrivateKey.sign key d = .ok signature) ∧
    ∀ s : SignedTransaction, s.IsFresh → s.body = t → ∀ calls,
      (s.after calls).signatures ≠ s.signatures →
        t.validate = .ok () ∧ (∀ op ∈ t.within, op.isUnknown = false) ∧
          ((∀ op ∈ t.within, op.isVirtual = false) ↔ ∀ op ∈ t.nested, op.isVirtual = false) := by
  refine ⟨validate_eq_ok_iff, fun hvalid => ?_, ⟨?_, fun hbindable => ?_⟩,
    fun key chain signature => SignedTransaction.exists_run_sign_iff, ?_⟩
  · rw [forall_within_iff]
    exact and_iff_right (validate_eq_ok_iff.mp hvalid).2
  · rintro ⟨calls, b, hb⟩
    exact SignedTransaction.isBindable_of_binding rfl hb
  · obtain ⟨d, hd⟩ := (exists_checkedDigest_iff .mainnet).mpr hbindable
    have hrun := SignedTransaction.run_bind_first (s := .unsigned t) rfl hd
    exact ⟨[.bind .mainnet], ⟨.mainnet, d⟩, congrArg (fun r => r.2.binding) hrun⟩
  · rintro s hfresh rfl calls hsignatures
    obtain ⟨b, hb⟩ := SignedTransaction.exists_binding_of_signatures_ne hsignatures
    have hbindable := SignedTransaction.isBindable_of_binding hfresh.binding_eq_none hb
    obtain ⟨d, hd⟩ := (exists_checkedDigest_iff .mainnet).mpr hbindable
    refine ⟨(checkedDigest_eq_ok_iff.mp hd).1, hbindable.known, ?_⟩
    rw [forall_within_iff]
    exact and_iff_right hbindable.regular

theorem signable_iff_nested_signable_nestedTransfer :
    (ofOperations [nestedTransfer]).validate = .ok () ∧
      ∀ op ∈ (ofOperations [nestedTransfer]).within, op.IsSignable := by
  have h := signable_iff_nested_signable (ofOperations [nestedTransfer])
  have hvalid := h.1.mpr (by decide)
  exact ⟨hvalid, (h.2.1 hvalid).mpr (by decide)⟩

/-- A proposal of an operation that only nodes emit. -/
def proposedHardfork : Transaction :=
  ofOperations [.proposal "alice" "title" .epoch [.known .hardfork rfl (.field 1 .empty)]]

/-- A proposal of an operation that has no payload here. -/
def proposedUnknown : Transaction :=
  ofOperations [.proposal "alice" "title" .epoch [.unknown ⟨none, some "x", [], .null⟩]]

/-- The check lets a nested virtual operation and a nested unknown one pass, and the transaction
with the virtual one is bound to a chain, ready to be signed. -/
theorem validate_overlooks_nested :
    (proposedHardfork.validate = .ok () ∧ (∃ op ∈ proposedHardfork.within, op.isVirtual = true) ∧
      ∃ b, ((SignedTransaction.unsigned proposedHardfork).after [.bind .mainnet]).binding =
        some b) ∧
    proposedUnknown.validate = .ok () ∧ ∃ op ∈ proposedUnknown.within, op.isUnknown = true := by
  have hbindable : proposedHardfork.IsBindable := ⟨by decide, by decide, by decide, by decide⟩
  obtain ⟨d, hd⟩ := (exists_checkedDigest_iff .mainnet).mpr hbindable
  have hrun := SignedTransaction.run_bind_first (s := .unsigned proposedHardfork) rfl hd
  refine ⟨⟨rfl, ⟨.known .hardfork rfl (.field 1 .empty), by decide, rfl⟩, ⟨.mainnet, d⟩, ?_⟩,
    rfl, ⟨.unknown ⟨none, some "x", [], .null⟩, by decide, rfl⟩⟩
  exact congrArg (fun r => r.2.binding) hrun

end Transaction

end LedgerClient
