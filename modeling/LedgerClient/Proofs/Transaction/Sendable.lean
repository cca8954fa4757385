import LedgerClient.Proofs.Operation.Whole
import LedgerClient.Proofs.Rpc.Local
import LedgerClient.Proofs.Transaction.Json
import LedgerClient.Proofs.Transaction.Validation
import LedgerClient.Rpc.Request

/-!
# Operations that a client can send

A list of operations is *sendable* if it can be signed and if nothing of it is lost on the way to a
node: the operations of the list are not virtual, none at any depth is unknown, and every amount has
a text that determines it and a symbol that fits its field on the wire. A signed transaction of such
operations is received by a node as the call that submits it (`isReadable_broadcastSynchronous`),
unless it nests too deep for the reader of the node.
-/

namespace LedgerClient

open Json Rpc

/-! ### Sendable operations -/

/-- The name of a symbol that a text determines has one byte for each character. -/
theorem Symbol.IsTextSafe.length_encode_name {s : Symbol} (h : s.IsTextSafe) :
    (Utf8.encode s.name).length = s.name.length := by
  have hone : ∀ c ∈ s.name.toList, (String.utf8EncodeChar c).length = 1 := by
    intro c hc
    have hle : c ≤ 'Z' := by
      have hchar := h.name_places.2.1 c hc
      simp only [Asset.isSymbolChar, Numeral.isDigit, Bool.or_eq_true, Bool.and_eq_true,
        decide_eq_true_eq] at hchar
      rcases hchar with ⟨-, hletter⟩ | ⟨-, hdigit⟩
      · exact hletter
      · exact Char.le_trans hdigit (by decide)
    rw [String.length_utf8EncodeChar, Char.utf8Size_eq_one_iff]
    exact UInt32.le_trans hle (by decide)
  rw [Utf8.encode_eq_flatMap, List.length_flatMap, List.map_congr_left hone, List.map_const',
    List.sum_replicate_nat, Nat.mul_one, String.length_toList]

/-- Operations that a client can send: there are some, those of the list are not virtual, at any
depth none is unknown, and every amount is one that its text determines, of a symbol whose name
fits. -/
structure AreSendable (ops : List Operation) : Prop where
  /-- There are operations. -/
  nonempty : ops ≠ []
  /-- No operation of the list is virtual. -/
  regular : ∀ op ∈ ops, op.isVirtual = false
  /-- No operation is unknown, at any depth. -/
  known : ∀ op ∈ ops, ∀ o ∈ op.within, o.isUnknown = false
  /-- The amounts, at any depth, are those that their texts determine. -/
  assets : ∀ op ∈ ops, ∀ a ∈ op.assets, a.IsTextSafe
  /-- The names of their symbols fit. -/
  fits : ∀ op ∈ ops, ∀ a ∈ op.assets, a.symbol.name.length ≤ Asset.symbolWidth

namespace AreSendable

variable {ops : List Operation} {t : Transaction}

theorem isBindable (h : AreSendable t.operations) : t.IsBindable where
  nonempty := h.nonempty
  regular := h.regular
  known := by
    rw [Transaction.within, List.forall_mem_flatMap]
    exact h.known
  fits := by
    rw [Transaction.assets, List.forall_mem_flatMap]
    intro op hop a ha
    rw [(h.assets op hop a ha).symbol.length_encode_name]
    exact h.fits op hop a ha

theorem not_unknown (h : AreSendable ops) {op : Operation} (hop : op ∈ ops) (u : UnknownOperation) :
    .unknown u ∉ op.within := fun hu => nomatch h.known op hop _ hu

theorem isTextSafe (h : AreSendable t.operations) : t.IsTextSafe := fun op hop =>
  ⟨h.assets op hop, fun u hu => absurd hu (h.not_unknown hop u)⟩

theorem isTidied (h : AreSendable t.operations) (tidy : Json → Json) : t.IsTidied tidy :=
  fun _ hop u hu => absurd hu (h.not_unknown hop u)

theorem isWhole (h : AreSendable ops) {op : Operation} (hop : op ∈ ops) : op.IsWhole :=
  Operation.isWhole_of_known (h.known op hop)

end AreSendable

/-! ### The call that submits -/

/-- Signatures do not make the JSON form of a transaction nest deeper. -/
theorem SignedTransaction.depth_form_write_le (s : SignedTransaction) :
    (form.write s).depth ≤ (Transaction.form.write s.body).depth := by
  have hops : ("operations", Operation.form.list.write s.body.operations) ∈
      Transaction.fields.write s.body := by
    simp [Transaction.fields, Fields.default, Fields.field]
  have hfields :=
    depthMembers_le_iff.mp (Nat.le_refl (depthMembers (Transaction.fields.write s.body)))
  -- The list of operations nests as deep as that of the signatures, which are texts.
  have hsignatures : (Signature.form.list.write s.signatures).depth ≤
      depthMembers (Transaction.fields.write s.body) := by
    have htexts : depthItems (s.signatures.map Signature.form.write) ≤ 0 := by
      rw [depthItems_le_iff, List.forall_mem_map]
      exact fun _ _ => Nat.le_refl 0
    exact Nat.le_trans (Nat.succ_le_succ (Nat.le_trans htexts (Nat.zero_le _))) (hfields _ hops)
  refine Nat.succ_le_succ (depthMembers_le_iff.mpr (List.forall_mem_append.mpr ⟨hfields, ?_⟩))
  exact List.forall_mem_singleton.mpr hsignatures

namespace AreSendable

variable {signed : SignedTransaction}

/-- The text of the call that submits a sendable transaction can be read, unless the transaction
nests too deep within the envelope. -/
theorem isReadable_broadcastSynchronous (h : AreSendable signed.body.operations)
    (hdepth : (Transaction.form.write signed.body).depth + Invocation.envelopeDepth ≤
      nestingLimit) : (Request.broadcastSynchronous signed).invocation.IsReadable where
  whole := ⟨(SignedTransaction.form_writesWhole fun _ => h.isWhole).sorted, trivial⟩
  depth_le := by
    have hwrite := signed.depth_form_write_le
    have hsorted := depth_sorted_le (SignedTransaction.form.write signed)
    show max (SignedTransaction.form.write signed).sorted.depth 0 + _ ≤ _
    omega

/-- A sendable transaction is read from the parameters of the call, as a node receives them. -/
theorem read_transactionParam (h : AreSendable signed.body.operations) :
    SignedTransaction.form.read (Request.transactionParam signed).sorted = .ok signed.unbound := by
  rw [Request.transactionParam, sorted_sorted]
  exact SignedTransaction.read_tidy_write isTidying_sorted
    (Transaction.fields_readsBack isTidying_sorted h.isTextSafe (h.isTidied _))

end AreSendable

end LedgerClient
