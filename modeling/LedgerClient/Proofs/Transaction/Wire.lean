import LedgerClient.Proofs.Operation.Wire
import LedgerClient.Transaction.Signed

/-!
# Transactions are read back from the wire

A transaction whose operations are canonical and not virtual is read back from its bytes, and so is
a signed transaction, with the same signatures and without its binding to a chain, which has no wire
form. The reader of a transaction goes on after its operations only if none of them is unknown; a
canonical operation never is, so that extensions and signatures are always reached.

`wire_roundTrip` collects the round trips of operations, of the parts that they share, and of signed
transactions.
-/

namespace LedgerClient

open Wire Wire.Codec

theorem Signature.codec_carries (s : Signature) : Signature.codec.Carries s :=
  Carries.via (carries_vector (by omega) s.bytes) rfl

namespace Transaction

/-- The transaction of some operations that refers to no block. -/
def ofOperations (ops : List Operation) : Transaction := ⟨0, 0, .epoch, ops, []⟩

/-- The wire carries the transaction: no operation is virtual, all are canonical, and the lengths of
its lists fit 64 bits. -/
structure IsCanonical (t : Transaction) : Prop where
  /-- No operation is virtual. -/
  regular : ∀ op ∈ t.operations, op.isVirtual = false
  /-- All operations are canonical. -/
  canonical : ∀ op ∈ t.operations, op.IsCanonical
  /-- The number of operations fits 64 bits. -/
  operations_lt : t.operations.length < 2 ^ 64
  /-- The number of extensions fits 64 bits. -/
  extensions_lt : t.extensions.length < 2 ^ 64

/-- Canonical operations that are not virtual are all read back, none of them ending the list. -/
theorem takes_readOperations {ops : List Operation} (hregular : ∀ op ∈ ops, op.isVirtual = false)
    (hcanonical : ∀ op ∈ ops, op.IsCanonical) :
    ∃ bytes, Output.ofList writeOperation ops = .ofBytes bytes ∧ ops.length ≤ bytes.length ∧
      (readOperations ops.length).Takes bytes (ops, true) := by
  induction ops with
  | nil => exact ⟨[], rfl, Nat.le_refl _, Reader.takes_pure _⟩
  | cons op ops ih =>
    simp only [List.forall_mem_cons] at hregular hcanonical
    obtain ⟨first, hfirst, hpos, htake⟩ := Operation.codec_carries hcanonical.1
    obtain ⟨others, hothers, hlen, htakes⟩ := ih hregular.2 hcanonical.2
    have hknown : op.isUnknown = false := hcanonical.1 _ op.mem_parts_self
    have hwrite : writeOperation op = .ofBytes first := by
      rw [← hfirst, writeOperation, hregular.1]
      rfl
    refine ⟨first ++ others, ?_, ?_, htake.bind ?_⟩
    · rw [Output.ofList, hwrite, hothers, Output.ofBytes_append_ofBytes]
    · simp only [List.length_append, List.length_cons]
      omega
    · simp only [hknown]
      simpa using htakes.map fun p => (op :: p.1, p.2)

/-- **Transactions.** A canonical transaction is read back from exactly its bytes. -/
theorem codec_carries {t : Transaction} (h : t.IsCanonical) : codec.Carries t := by
  obtain ⟨number, hnumber, hpos, htakesNumber⟩ := carries_u16 t.blockNumber
  obtain ⟨mark, hmark, -, htakesMark⟩ := carries_u32 t.blockMark
  obtain ⟨time, htime, -, htakesTime⟩ := Timestamp.codec_carries t.expiration
  obtain ⟨ops, hops, hlen, htakesOps⟩ := takes_readOperations h.regular h.canonical
  obtain ⟨exts, hexts, -, htakesExts⟩ :=
    Carries.list (fun e (_ : e ∈ t.extensions) => Extension.codec_carries e) h.extensions_lt
  refine ⟨number ++ (mark ++ (time ++ (varintBytes t.operations.length ++ (ops ++ exts)))),
    ?_, ?_, ?_⟩
  · simp only [codec, write, hnumber, hmark, htime, hops, hexts, Output.ofBytes_append_ofBytes]
  · rw [List.length_append]
    omega
  · refine htakesNumber.bind (htakesMark.bind (htakesTime.bind ?_))
    refine Reader.takes_count_bind h.operations_lt (htakesOps.bind ?_) ?_
    · simpa using htakesExts.map fun extensions =>
        (⟨t.blockNumber, t.blockMark, t.expiration, t.operations, extensions⟩ : Transaction)
    · rw [List.length_append]
      omega

end Transaction

/-- **Signed transactions.** With a canonical body, the signed transaction is read back from exactly
its bytes, bound to no chain. -/
theorem SignedTransaction.takes_codec {s : SignedTransaction} (h : s.body.IsCanonical)
    (hsignatures : s.signatures.length < 2 ^ 64) :
    ∃ bytes, codec.write s = .ofBytes bytes ∧ codec.read.Takes bytes s.unbound := by
  obtain ⟨body, hbody, -, htakesBody⟩ := Transaction.codec_carries h
  obtain ⟨sigs, hsigs, hpos, htakesSigs⟩ :=
    Carries.list (fun x (_ : x ∈ s.signatures) => Signature.codec_carries x) hsignatures
  refine ⟨body ++ sigs, ?_, htakesBody.bind (Reader.takes_remaining_bind fun n hn => ?_)⟩
  · simp only [codec, hbody, hsigs, Output.ofBytes_append_ofBytes]
  · have hmore : ¬n = 0 := by omega
    have hparts : ofParts s.body s.signatures = s.unbound := rfl
    simpa [hmore, hparts] using htakesSigs.map (ofParts s.body)

/-- **The wire loses nothing.** An operation has a wire form if, at any depth, no operation is
unknown and every symbol is canonical, and reading from it, whatever follows, gives the operation
and leaves what follows; so it is for every authority, every extension of content and every list of
extensions. A signed transaction whose operations are such and not virtual is the one that its bytes
are read as, up to the chain that it is bound to. All texts and lists are shorter than `2 ^ 64`, as
lengths are words of 64 bits. -/
theorem wire_roundTrip :
    (∀ op : Operation, (∀ o ∈ op.within, o.isUnknown = false) →
      (∀ a ∈ op.assets, a.symbol.IsCanonical) → (∀ n ∈ op.counts, n < 2 ^ 64) →
      ∃ bytes, Operation.codec.toBytes op = .ok bytes ∧
        ∀ rest, Operation.codec.read.runOn (bytes ++ rest) = (.ok op, rest)) ∧
    (∀ a : Authority, (∀ n ∈ a.counts, n < 2 ^ 64) →
      ∃ bytes, Authority.codec.toBytes a = .ok bytes ∧
        ∀ rest, Authority.codec.read.runOn (bytes ++ rest) = (.ok a, rest)) ∧
    (∀ e : ContentExtension, (∀ n ∈ e.counts, n < 2 ^ 64) →
      ∃ bytes, ContentExtension.codec.toBytes e = .ok bytes ∧
        ∀ rest, ContentExtension.codec.read.runOn (bytes ++ rest) = (.ok e, rest)) ∧
    (∀ es : List Extension, es.length < 2 ^ 64 →
      ∃ bytes, Extension.codec.list.toBytes es = .ok bytes ∧
        ∀ rest, Extension.codec.list.read.runOn (bytes ++ rest) = (.ok es, rest)) ∧
    (∀ s : SignedTransaction, s.body.IsCanonical → s.signatures.length < 2 ^ 64 →
      ∃ bytes, s.toBytes = .ok bytes ∧ SignedTransaction.codec.ofBytes bytes = .ok s.unbound ∧
        s.unbound.sameContent s) := by
  refine ⟨fun op hknown hassets hcounts =>
      (Operation.codec_carries (Operation.isCanonical_iff.mpr ⟨hknown, hassets, hcounts⟩)).toBytes,
    fun a h => (Authority.codec_carries h).toBytes,
    fun e h => (ContentExtension.codec_carries h).toBytes,
    fun es h => (Carries.list (fun e _ => Extension.codec_carries e) h).toBytes,
    fun s hbody hsignatures => ?_⟩
  obtain ⟨bytes, hwrite, htakes⟩ := SignedTransaction.takes_codec hbody hsignatures
  have hsame : s.unbound.sameContent s := by simp [SignedTransaction.sameContent,
    SignedTransaction.unbound]
  exact ⟨bytes, toBytes_eq_ok_iff.mpr hwrite, htakes.readAll, hsame⟩

/-- A proposal within a proposal, of an amount whose symbol has the name of the liquid token but
other places. -/
def nestedTransfer : Operation :=
  .proposal "alice" "outer" .epoch [.proposal "bob" "inner" .epoch
    [.transfer "alice" "bob" ⟨-5, .custom "VIZ" 2⟩ "memo"]]

theorem wire_roundTrip_nestedTransfer :
    nestedTransfer.IsCanonical ∧ (Transaction.ofOperations [nestedTransfer]).IsCanonical ∧
    (∃ bytes, Operation.codec.toBytes nestedTransfer = .ok bytes ∧
      Operation.codec.read.runOn (bytes ++ [7]) = (.ok nestedTransfer, [7])) ∧
    ∃ bytes, (SignedTransaction.unsigned (.ofOperations [nestedTransfer])).toBytes = .ok bytes ∧
      SignedTransaction.codec.ofBytes bytes = .ok (.unsigned (.ofOperations [nestedTransfer])) := by
  have hop : nestedTransfer.IsCanonical := by decide
  have ht : (Transaction.ofOperations [nestedTransfer]).IsCanonical :=
    ⟨by decide, by decide, by decide, by decide⟩
  obtain ⟨hknown, hassets, hcounts⟩ := Operation.isCanonical_iff.mp hop
  obtain ⟨bytes, hbytes, hread⟩ := wire_roundTrip.1 nestedTransfer hknown hassets hcounts
  obtain ⟨bytes', hbytes', hread', -⟩ := wire_roundTrip.2.2.2.2
    (.unsigned (.ofOperations [nestedTransfer])) ht (by decide)
  exact ⟨hop, ht, ⟨bytes, hbytes, hread [7]⟩, bytes', hbytes', hread'⟩

end LedgerClient
