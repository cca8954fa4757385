import LedgerClient.Proofs.Operation.Transfer
import LedgerClient.Proofs.Transaction.Json
import LedgerClient.Proofs.Transaction.Validation
import LedgerClient.Rpc.Request

/-!
# What is broadcast is what was signed

A transaction is signed over its wire form and broadcast in its JSON form. The two formats do not
hold the same symbols: on the wire a symbol has any name that fits its field and any number of
places, while a text has a name of capital letters and digits, at most eighteen places, and for the
ledger's own names only the places that belong to them. So a transaction can be signed although no
node would take from its JSON form what was signed.

`broadcast_keeps_bytes_iff` says that the symbols are all that matters: what is read from the value
that is broadcast has the bytes that were signed, and with them the digests and the identifier,
exactly if all symbols are readable. The transaction itself may come back changed, because symbols
that are merely written like the ledger's own are resolved.
-/

namespace LedgerClient

open Wire Wire.Codec Json Json.Form

variable {tidy : Json → Json}

namespace Transaction

/-! ### Resolving symbols -/

/-- The transaction with resolved symbols, at any depth. -/
def resolved (t : Transaction) : Transaction :=
  { t with operations := t.operations.map Operation.resolved }

theorem write_form_list_resolved (ops : List Operation) :
    Operation.form.list.write (ops.map Operation.resolved) = Operation.form.list.write ops := by
  simp [Form.list, Operation.form, Function.comp_def, Operation.toJson_resolved]

/-- A resolved transaction has the same fields in JSON. -/
theorem fields_write_resolved (t : Transaction) : fields.write t.resolved = fields.write t := by
  simp only [fields, Fields.default, Fields.field, Fields.start, resolved,
    write_form_list_resolved]

/-- A resolved transaction has the same wire form. -/
theorem codec_write_resolved (t : Transaction) : codec.write t.resolved = codec.write t := by
  have hop (op : Operation) : writeOperation op.resolved = writeOperation op := by
    rw [writeOperation, writeOperation, op.write_resolved]
    cases op <;> rfl
  simp only [codec, write, resolved, List.length_map, Output.ofList_map, hop]

/-- A transaction that can be written and has readable amounts is read back once it is resolved. -/
theorem fields_readsBack_resolved (ht : IsTidying tidy) {t : Transaction}
    (hwritable : ∀ op ∈ t.operations, ∀ p ∈ op.parts, p.IsWritable)
    (h : ∀ op ∈ t.operations, ∀ p ∈ op.parts, p.IsReadable) :
    fields.ReadsBack tidy t t.resolved := by
  have hsafe : ∀ op ∈ t.resolved.operations, op.IsTextSafe ∧ op.IsTidied tidy := by
    rw [resolved, List.forall_mem_map]
    exact fun op hop => Operation.forall_parts_isTextSafe_iff.mp
      (Operation.forall_parts_resolved_isTextSafe (h op hop) (hwritable op hop))
  have hback := fields_readsBack ht (fun op hop => (hsafe op hop).1) fun op hop => (hsafe op hop).2
  intro members hmembers
  exact hback members (by rwa [fields_write_resolved])

/-! ### Comparing bytes -/

/-- What is read for the fields of a transaction has its wire form only if all amounts are
readable. -/
theorem agreeOnlyIf_of_ofMembers (ht : IsTidying tidy) {t u : Transaction}
    {members : String → Option Json}
    (hmembers : ∀ m ∈ fields.write t, members m.1 = some (tidy m.2))
    (hread : fields.ofMembers members = .ok u) :
    t.write.AgreeOnlyIf u.write (∀ op ∈ t.operations, ∀ p ∈ op.parts, p.IsReadable) := by
  simp only [fields, Fields.default, Fields.field, List.forall_mem_append,
    List.forall_mem_singleton] at hmembers
  obtain ⟨⟨⟨⟨⟨-, hnumber⟩, hmark⟩, htime⟩, hops⟩, hexts⟩ := hmembers
  obtain ⟨g₄, exts, hg₄, -, rfl⟩ := (Fields.ofMembers_field_eq_ok_iff hexts).mp hread
  obtain ⟨g₃, ops, hg₃, hlist, rfl⟩ := (Fields.ofMembers_field_eq_ok_iff hops).mp hg₄
  obtain ⟨g₂, time, hg₂, -, rfl⟩ := (Fields.ofMembers_field_eq_ok_iff htime).mp hg₃
  obtain ⟨g₁, mark, hg₁, -, rfl⟩ := (Fields.ofMembers_field_eq_ok_iff hmark).mp hg₂
  obtain ⟨g₀, number, hg₀, -, rfl⟩ := (Fields.ofMembers_field_eq_ok_iff hnumber).mp hg₁
  obtain rfl : mk = g₀ := Except.ok.inj hg₀
  simp only [Form.list, ht.arr, List.map_map, readAll_eq_ok_iff, List.forall₂_map_left_iff]
    at hlist
  have hnumber := (carries_u16 t.blockNumber).separates (carries_u16 number)
  have hmark := (carries_u32 t.blockMark).separates (carries_u32 mark)
  have htime := (Timestamp.codec_carries t.expiration).separates (Timestamp.codec_carries time)
  have hcount := Output.agreeOnlyIf_varintBytes t.operations.length ops.length
  have hop (op op' : Operation)
      (h : Operation.form.read (tidy (Operation.form.write op)) = .ok op') :
      (writeOperation op).AgreeOnlyIf (writeOperation op') (∀ p ∈ op.parts, p.IsReadable) :=
    writeOperation_agreeOnlyIf (op.transfersOnlyIf ht op' h)
  have hops := Output.agreeOnlyIf_ofList_of_forall₂ (hlist.imp hop)
  have hexts : Extension.codec.list.Separates t.extensions exts :=
    Separates.list fun e _ f _ => (Extension.codec_carries e).separates (Extension.codec_carries f)
  have hall := hnumber.append fun _ => hmark.append fun _ => htime.append fun _ =>
    hcount.append fun _ => hops.append fun _ => hexts
  exact hall.imp fun h => h.2.2.2.2.1

theorem digest_congr {t u : Transaction} (h : u.toBytes = t.toBytes) (chain : ChainId) :
    u.digest chain = t.digest chain := by
  rw [digest, digest, h]

theorem id_congr {t u : Transaction} (h : u.toBytes = t.toBytes) : u.id = t.id := by
  rw [Transaction.id, Transaction.id, h]

theorem forall_parts_isReadable_iff {t : Transaction} :
    (∀ op ∈ t.operations, ∀ p ∈ op.parts, p.IsReadable) ↔ ∀ a ∈ t.assets, a.IsReadable := by
  rw [assets, List.forall_mem_flatMap]
  constructor
  · exact fun h op hop a ha => h op hop _ (Operation.mem_assets_iff.mp ha)
  · intro h op hop p hp
    cases p with
    | asset a => exact h op hop a (Operation.mem_assets_iff.mpr hp)
    | operation _ => trivial
    | count _ => trivial

/-- **Broadcasting.** Take a transaction that has a wire form and in which no amount is the least
one, whose text is out of range. From the value that is broadcast, with any signatures, a signed
transaction is read with the same signatures and the same bytes, hence with the same digest for
every chain and the same identifier, exactly if all its symbols are readable, at any depth. The same
holds of the JSON form as it is written. -/
theorem broadcast_keeps_bytes_iff {t : Transaction} {bytes : Bytes} (hbytes : t.toBytes = .ok bytes)
    (hmin : ∀ a ∈ t.assets, a.amount ≠ Int64.minValue) (signatures : List Signature) {v : Json}
    (hv : v = SignedTransaction.form.write (.ofParts t signatures) ∨
      v = Rpc.Request.transactionParam (.ofParts t signatures)) :
    (∃ s, SignedTransaction.form.read v = .ok s ∧ s.signatures = signatures ∧
      s.body.toBytes = .ok bytes ∧ (∀ chain, s.body.digest chain = t.digest chain) ∧
      s.body.id = t.id) ↔ ∀ a ∈ t.assets, a.symbol.IsReadable := by
  obtain ⟨tidy, ht, rfl⟩ : ∃ tidy, IsTidying tidy ∧
      v = tidy (SignedTransaction.form.write (.ofParts t signatures)) := by
    rcases hv with rfl | rfl
    · exact ⟨_, isTidying_id, rfl⟩
    · exact ⟨_, isTidying_sorted, rfl⟩
  have hreadable : (∀ a ∈ t.assets, a.symbol.IsReadable) ↔
      ∀ op ∈ t.operations, ∀ p ∈ op.parts, p.IsReadable := by
    rw [forall_parts_isReadable_iff]
    exact ⟨fun h a ha => ⟨hmin a ha, h a ha⟩, fun h a ha => (h a ha).symbol⟩
  rw [hreadable]
  constructor
  · -- The bytes of the whole settle the bytes of every field.
    rintro ⟨s, hread, -, hsame, -⟩
    obtain ⟨members, hmembers, hiff⟩ :=
      SignedTransaction.exists_read_write ht (.ofParts t signatures)
    obtain ⟨u, hu, rfl⟩ := (hiff s).mp hread
    have hagree := agreeOnlyIf_of_ofMembers ht hmembers hu
    exact (hagree bytes bytes [] [] (toBytes_eq_ok_iff.mp hbytes) (toBytes_eq_ok_iff.mp hsame)
      rfl).1
  · -- The resolved transaction shares both forms with the one that was signed, and is read back.
    intro h
    have hdigest : ∃ d, t.digest .mainnet = .ok d := by
      rw [digest, hbytes]
      exact ⟨_, rfl⟩
    have hwritable := forall_parts_isWritable_iff.mpr (exists_digest_iff.mp hdigest).2
    have hsame : t.resolved.toBytes = t.toBytes := by
      rw [toBytes, toBytes, Codec.toBytes, Codec.toBytes, codec_write_resolved]
    exact ⟨_, SignedTransaction.read_tidy_write ht (fields_readsBack_resolved ht hwritable h), rfl,
      hsame.trans hbytes, digest_congr hsame, id_congr hsame⟩

/-- A proposal to transfer coins of a symbol that is written like the liquid token. -/
def disguisedTransfer : Transaction :=
  ofOperations [.proposal "alice" "title" .epoch
    [.transfer "alice" "bob" ⟨-1000, .custom "VIZ" 3⟩ "memo"]]

theorem broadcast_keeps_bytes_disguisedTransfer :
    ∃ bytes, disguisedTransfer.toBytes = .ok bytes ∧
      (∀ a ∈ disguisedTransfer.assets, a.amount ≠ Int64.minValue) ∧
      (∀ a ∈ disguisedTransfer.assets, a.symbol.IsReadable) ∧
      ∃ s, SignedTransaction.form.read
          (Rpc.Request.transactionParam (.ofParts disguisedTransfer [])) = .ok s ∧
        s.body.toBytes = .ok bytes := by
  obtain ⟨bytes, hbytes⟩ : ∃ bytes, disguisedTransfer.toBytes = .ok bytes :=
    exists_toBytes_iff.mpr rfl
  have hmin : ∀ a ∈ disguisedTransfer.assets, a.amount ≠ Int64.minValue := by decide
  have hsymbol : ∀ a ∈ disguisedTransfer.assets, a.symbol.IsReadable := by
    intro a ha
    obtain rfl : a = ⟨-1000, .custom "VIZ" 3⟩ := List.mem_singleton.mp ha
    exact ⟨by decide, by decide, List.all_eq_true.mp (by decide), by decide⟩
  obtain ⟨s, hread, -, hsame, -⟩ :=
    (broadcast_keeps_bytes_iff hbytes hmin [] (.inr rfl)).mpr hsymbol
  exact ⟨bytes, hbytes, hmin, hsymbol, s, hread, hsame⟩

/-- A transfer of coins of a symbol in small letters. -/
def smallLetterTransfer : Transaction :=
  ofOperations [.transfer "alice" "bob" ⟨1, .custom "viz" 3⟩ ""]

/-- The transfer passes the check and can be signed, but nothing is read from the value that is
broadcast, nor from the JSON form as it is written. -/
theorem broadcast_loses_smallLetterTransfer :
    smallLetterTransfer.validate = .ok () ∧ (∃ bytes, smallLetterTransfer.toBytes = .ok bytes) ∧
      ∀ v, (v = SignedTransaction.form.write (.ofParts smallLetterTransfer []) ∨
          v = Rpc.Request.transactionParam (.ofParts smallLetterTransfer [])) →
        ¬∃ s, SignedTransaction.form.read v = .ok s := by
  refine ⟨rfl, exists_toBytes_iff.mpr rfl, ?_⟩
  rintro v (rfl | rfl) ⟨s, hread⟩
  · have hfault : SignedTransaction.form.read
        (SignedTransaction.form.write (.ofParts smallLetterTransfer [])) =
          .error (.payload "transfer" (.value (.asset (.text "0.001 viz" .symbol)))) := rfl
    cases hfault.symm.trans hread
  · have hfault : SignedTransaction.form.read
        (Rpc.Request.transactionParam (.ofParts smallLetterTransfer [])) =
          .error (.payload "transfer" (.value (.asset (.text "0.001 viz" .symbol)))) := rfl
    cases hfault.symm.trans hread

end Transaction

end LedgerClient
