import LedgerClient.Proofs.Operation.Separation
import LedgerClient.Proofs.Transaction.Wire

/-!
# What is hashed for a signature names one chain and one transaction

The digest that is signed is the hash of the identifier of a chain followed by the bytes of a
transaction. `Transaction.preimage_injective` shows that these bytes determine both, for
transactions whose symbols are canonical: two different pairs of chain and transaction are never
hashed as the same bytes, so that they share a digest only if the hash function collides on them.

The argument goes from field to field. Identifiers, reference and expiration have fixed widths, the
number of operations tells operations from extensions, and operations are told apart by
`Operation.separates`. A virtual operation has no form within a transaction and agrees with nothing.
-/

namespace LedgerClient

open Wire Wire.Codec

/-! ### Identifiers -/

theorem Identifier.length_toBytes {n : Named} (i : Identifier n) : i.toBytes.length = n.size :=
  Vector.length_toList

theorem Identifier.toBytes_injective {n : Named} {i j : Identifier n} (h : i.toBytes = j.toBytes) :
    i = j := by
  have hbytes : i.bytes = j.bytes := Vector.toList_inj.mp h
  cases i
  exact congrArg mk hbytes

/-! ### Transactions -/

namespace Transaction

/-- The amounts in the operations of a transaction, at any depth. -/
def assets (t : Transaction) : List Asset := t.operations.flatMap Operation.assets

theorem hasCanonicalSymbol_of_assets {t : Transaction} (h : ∀ a ∈ t.assets, a.symbol.IsCanonical)
    {op : Operation} (hop : op ∈ t.operations) : ∀ p ∈ op.parts, p.HasCanonicalSymbol := by
  intro p hp
  cases p with
  | asset a => exact h a (List.mem_flatMap.mpr ⟨op, hop, Operation.mem_assets_iff.mpr hp⟩)
  | operation _ => trivial
  | count _ => trivial

/-- Operations agree within transactions only under what they agree under by themselves. -/
theorem writeOperation_agreeOnlyIf {op op' : Operation} {p : Prop}
    (h : op.write.AgreeOnlyIf op'.write p) :
    (writeOperation op).AgreeOnlyIf (writeOperation op') p := by
  unfold writeOperation
  split
  · exact Output.agreeOnlyIf_ofFault _ _ _
  · split
    · exact (Output.agreeOnlyIf_ofFault _ _ _).symm
    · exact h

/-- **Transactions.** With canonical symbols, transactions agree only if they are the same. -/
theorem codec_separates {t t' : Transaction} (h : ∀ a ∈ t.assets, a.symbol.IsCanonical)
    (h' : ∀ a ∈ t'.assets, a.symbol.IsCanonical) : codec.Separates t t' := by
  have hnumber := (carries_u16 t.blockNumber).separates (carries_u16 t'.blockNumber)
  have hmark := (carries_u32 t.blockMark).separates (carries_u32 t'.blockMark)
  have htime := (Timestamp.codec_carries t.expiration).separates
    (Timestamp.codec_carries t'.expiration)
  have hcount := Output.agreeOnlyIf_varintBytes t.operations.length t'.operations.length
  have hops : ∀ op ∈ t.operations, ∀ op' ∈ t'.operations,
      (writeOperation op).AgreeOnlyIf (writeOperation op') (op = op') := fun op hop op' hop' =>
    writeOperation_agreeOnlyIf (op.separates op' (hasCanonicalSymbol_of_assets h hop)
      (hasCanonicalSymbol_of_assets h' hop'))
  have hexts : Extension.codec.list.Separates t.extensions t'.extensions :=
    Separates.list fun e _ f _ => (Extension.codec_carries e).separates (Extension.codec_carries f)
  have hall := hnumber.append fun _ => hmark.append fun _ => htime.append fun _ =>
    hcount.append fun hlen => (agreeOnlyIf_ofList hlen hops).append fun _ => hexts
  refine Output.AgreeOnlyIf.imp hall ?_
  rintro ⟨hnumber, hmark, htime, -, hops, hexts⟩
  cases t
  simp_all

/-- **One chain, one transaction.** Of transactions with canonical symbols that have a wire form,
the bytes that are hashed for a signature determine the chain and the transaction. So one digest
belongs to two different pairs of them only if the hash function collides on their bytes. -/
theorem preimage_injective {c c' : ChainId} {t t' : Transaction} {bytes bytes' : Bytes}
    (hassets : ∀ a ∈ t.assets, a.symbol.IsCanonical)
    (hassets' : ∀ a ∈ t'.assets, a.symbol.IsCanonical)
    (hbytes : t.toBytes = .ok bytes) (hbytes' : t'.toBytes = .ok bytes') :
    (c.toBytes ++ bytes = c'.toBytes ++ bytes' → c = c' ∧ t = t') ∧
    (t.digest c = t'.digest c' → (c = c' ∧ t = t') ∨
      (c.toBytes ++ bytes ≠ c'.toBytes ++ bytes' ∧
        Digest.of (c.toBytes ++ bytes) = Digest.of (c'.toBytes ++ bytes'))) := by
  have hinjective : c.toBytes ++ bytes = c'.toBytes ++ bytes' → c = c' ∧ t = t' := by
    intro heq
    have hlen : c.toBytes.length = c'.toBytes.length :=
      c.length_toBytes.trans c'.length_toBytes.symm
    obtain ⟨hchain, hrest⟩ := List.append_inj heq hlen
    obtain ⟨htransaction, -⟩ := codec_separates hassets hassets' bytes bytes' [] []
      (toBytes_eq_ok_iff.mp hbytes) (toBytes_eq_ok_iff.mp hbytes') (by rw [hrest])
    exact ⟨Identifier.toBytes_injective hchain, htransaction⟩
  refine ⟨hinjective, fun hdigest => ?_⟩
  simp only [digest, hbytes, hbytes', Except.ok.injEq] at hdigest
  by_cases heq : c.toBytes ++ bytes = c'.toBytes ++ bytes'
  · exact .inl (hinjective heq)
  · exact .inr ⟨heq, hdigest⟩

/-- Moving a letter from one name to the next changes the bytes that are hashed. -/
theorem preimage_injective_adjacent_names :
    ∃ bytes bytes',
      (ofOperations [.transfer "ab" "c" (.viz 1) ""]).toBytes = .ok bytes ∧
      (ofOperations [.transfer "a" "bc" (.viz 1) ""]).toBytes = .ok bytes' ∧
      ChainId.mainnet.toBytes ++ bytes ≠ ChainId.mainnet.toBytes ++ bytes' := by
  have ht : (ofOperations [.transfer "ab" "c" (.viz 1) ""]).IsCanonical :=
    ⟨by decide, by decide, by decide, by decide⟩
  have ht' : (ofOperations [.transfer "a" "bc" (.viz 1) ""]).IsCanonical :=
    ⟨by decide, by decide, by decide, by decide⟩
  obtain ⟨bytes, hbytes, -⟩ := (codec_carries ht).toBytes
  obtain ⟨bytes', hbytes', -⟩ := (codec_carries ht').toBytes
  refine ⟨bytes, bytes', hbytes, hbytes', fun heq => ?_⟩
  obtain ⟨-, hsame⟩ := (preimage_injective (by decide) (by decide) hbytes hbytes').1 heq
  exact absurd hsame (by decide)

end Transaction

end LedgerClient
