import LedgerClient.Proofs.Operation.Json
import LedgerClient.Transaction.Signed

/-!
# Operations and transactions make the round trip through JSON

`json_round_trip`: what is text-safe is read back from its JSON form, what is read from JSON is
text-safe, and a pair that no kind claims is written as it was read. All this holds for the form as
it is written and for its sorted form, which is what generic JSON values have; there the payloads of
unknown operations are generic values themselves.

A signed transaction comes back without the chain that it was bound to, which its JSON form leaves
out. Its signatures stand among the fields of the transaction, so that one object is read twice, and
neither reading sees the members of the other.
-/

namespace LedgerClient

open Json Json.Form

variable {tidy : Json → Json}

namespace Transaction

/-- Every operation of the transaction is text-safe. -/
def IsTextSafe (t : Transaction) : Prop :=
  ∀ op ∈ t.operations, op.IsTextSafe

/-- At any depth, the payloads of unknown operations are tidied. -/
def IsTidied (tidy : Json → Json) (t : Transaction) : Prop :=
  ∀ op ∈ t.operations, op.IsTidied tidy

/-- The fields of a text-safe transaction are read back, whatever other members there are. -/
theorem fields_readsBack (ht : IsTidying tidy) {t : Transaction} (h : t.IsTextSafe)
    (htidied : t.IsTidied tidy) : fields.ReadsBack tidy t t := by
  have hops : Operation.form.list.ReadsBack tidy t.operations := .list ht fun op hop =>
    op.form_readsBack ht (Operation.forall_parts_isTextSafe_iff.mpr ⟨h op hop, htidied op hop⟩)
  have hextensions : Extension.form.list.ReadsBack tidy t.extensions :=
    .list ht fun e _ => e.form_readsBack ht
  exact (((((Fields.readsBack_start mk t).field (readsBack_u16 ht t.blockNumber)).field
    (readsBack_u32 ht t.blockMark)).field (t.expiration.form_readsBack ht)).field hops).field
      hextensions

/-- What is read for the fields of a transaction is text-safe. -/
theorem fields_yields (ht : IsTidying tidy) :
    fields.Yields tidy fun t => t.IsTextSafe ∧ t.IsTidied tidy := by
  have hany {α : Type} (f : Form α) : f.Yields tidy fun _ => True := fun _ _ _ _ => trivial
  have hstart : (Fields.start mk : Fields Transaction _).Yields tidy fun g =>
      ∀ n : UInt16, True → ∀ m : UInt32, True → ∀ time : Timestamp, True → ∀ ops : List Operation,
        (∀ op ∈ ops, ∀ p ∈ op.parts, p.IsTextSafe tidy) → ∀ es : List Extension, True →
          (g n m time ops es).IsTextSafe ∧ (g n m time ops es).IsTidied tidy := by
    refine Fields.yields_start fun n _ m _ time _ ops hops es _ =>
      ⟨fun op hop => ?_, fun op hop => ?_⟩
    · exact (Operation.forall_parts_isTextSafe_iff.mp (hops op hop)).1
    · exact (Operation.forall_parts_isTextSafe_iff.mp (hops op hop)).2
  exact ((((hstart.required (hany _)).required (hany _)).required (hany _)).required
    ((Operation.form_yields ht).list ht)).field (hany _) (fun _ _ => trivial) (fun _ _ => trivial)

theorem form_readsBack (ht : IsTidying tidy) {t : Transaction} (h : t.IsTextSafe)
    (htidied : t.IsTidied tidy) : form.ReadsBack tidy t := by
  refine ReadsBack.record ht (fields_readsBack ht h htidied) ?_
  show ["ref_block_num", "ref_block_prefix", "expiration", "operations", "extensions"].Nodup
  decide

theorem form_yields (ht : IsTidying tidy) :
    form.Yields tidy fun t => t.IsTextSafe ∧ t.IsTidied tidy :=
  .record ht (fields_yields ht)

end Transaction

namespace SignedTransaction

/-- A signed transaction is read from its JSON form by its fields, with its signatures and bound to
no chain. -/
theorem exists_read_write (ht : IsTidying tidy) (s : SignedTransaction) :
    ∃ members : String → Option Json,
      (∀ m ∈ Transaction.fields.write s.body, members m.1 = some (tidy m.2)) ∧
      ∀ r, form.read (tidy (form.write s)) = .ok r ↔
        ∃ t, Transaction.fields.ofMembers members = .ok t ∧ ofParts t s.signatures = r := by
  have hnames : ((Transaction.fields.write s.body ++
      [("signatures", Signature.form.list.write s.signatures)]).map Prod.fst).Nodup := by
    show ["ref_block_num", "ref_block_prefix", "expiration", "operations", "extensions",
      "signatures"].Nodup
    decide
  obtain ⟨ms, htidy, hmembers⟩ := ht.obj (Transaction.fields.write s.body ++
    [("signatures", Signature.form.list.write s.signatures)])
  have hfound := hmembers hnames
  rw [List.forall_mem_append, List.forall_mem_singleton] at hfound
  have hlist : Signature.form.list.ReadsBack tidy s.signatures :=
    .list ht fun signature _ => signature.form_readsBack ht
  have hsignatures : readMember "signatures" Signature.form.list.read .required (find? ms) =
      .ok s.signatures := (readMember_of_eq_some hfound.2).mpr hlist
  refine ⟨find? ms, hfound.1, fun r => ?_⟩
  simp only [form, htidy, ofMembers, hsignatures]
  rw [bind_eq_ok_iff]
  constructor
  · rintro ⟨_, ⟨rfl⟩, h⟩
    obtain ⟨t, hbody, h⟩ := bind_eq_ok_iff.mp h
    exact ⟨t, mapError_eq_ok_iff.mp hbody, Except.ok.inj h⟩
  · rintro ⟨t, hbody, rfl⟩
    exact ⟨_, rfl, bind_eq_ok_iff.mpr ⟨t, mapError_eq_ok_iff.mpr hbody, rfl⟩⟩

/-- A signed transaction is read back, bound to no chain, if its fields are. -/
theorem read_tidy_write (ht : IsTidying tidy) {s : SignedTransaction} {t : Transaction}
    (h : Transaction.fields.ReadsBack tidy s.body t) :
    form.read (tidy (form.write s)) = .ok (ofParts t s.signatures) := by
  obtain ⟨members, hmembers, hread⟩ := exists_read_write ht s
  exact (hread _).mpr ⟨t, h members hmembers, rfl⟩

theorem form_yields (ht : IsTidying tidy) :
    form.Yields tidy fun s => s.body.IsTextSafe ∧ s.body.IsTidied tidy := by
  intro v s hv h
  cases v with
  | obj ms =>
    obtain ⟨signatures, -, h⟩ := bind_eq_ok_iff.mp h
    obtain ⟨body, hbody, h⟩ := bind_eq_ok_iff.mp h
    obtain rfl : ofParts body signatures = s := Except.ok.inj h
    exact (Transaction.fields_yields ht).members (fun _ _ => tidied_of_find? ht hv)
      (mapError_eq_ok_iff.mp hbody)
  | _ => cases h

end SignedTransaction

/-! ### The round trip -/

/-- **The round trip through JSON**, with the values as they are written or sorted as generic values
are. A text-safe operation is read back, and every operation that is read is text-safe, so that
reading, writing and reading again gives the same operation. A pair whose tag leads to no kind with
a payload is written as it was read. The same holds of transactions, and of signed transactions
except for what they are bound to. -/
theorem json_round_trip (htidy : tidy = id ∨ tidy = sorted) :
    ((∀ op : Operation, op.IsTextSafe → op.IsTidied tidy →
        Operation.form.read (tidy (Operation.form.write op)) = .ok op) ∧
      ∀ v op, tidy v = v → Operation.form.read v = .ok op →
        op.IsTextSafe ∧ op.IsTidied tidy ∧
          Operation.form.read (tidy (Operation.form.write op)) = .ok op) ∧
    ((∀ name body, (∀ k ∈ Kind.ofName? name, k.isReserved = true) →
        (Operation.form.read (.arr [.str name, body])).map Operation.form.write =
          .ok (.arr [.str name, body])) ∧
      ∀ (number : UInt64) body, (∀ k ∈ Kind.ofTag? number.toNat, k.isReserved = true) →
        (Operation.form.read (.arr [.nat number.toNat, body])).map Operation.form.write =
          .ok (.arr [.nat number.toNat, body])) ∧
    ((∀ t : Transaction, t.IsTextSafe → t.IsTidied tidy →
        Transaction.form.read (tidy (Transaction.form.write t)) = .ok t) ∧
      ∀ v t, tidy v = v → Transaction.form.read v = .ok t →
        t.IsTextSafe ∧ t.IsTidied tidy ∧
          Transaction.form.read (tidy (Transaction.form.write t)) = .ok t) ∧
    (∀ s : SignedTransaction, s.body.IsTextSafe → s.body.IsTidied tidy →
        SignedTransaction.form.read (tidy (SignedTransaction.form.write s)) = .ok s.unbound) ∧
      ∀ v s, tidy v = v → SignedTransaction.form.read v = .ok s →
        s.body.IsTextSafe ∧ s.body.IsTidied tidy ∧
          SignedTransaction.form.read (tidy (SignedTransaction.form.write s)) = .ok s.unbound := by
  have ht : IsTidying tidy := by
    rcases htidy with rfl | rfl
    · exact isTidying_id
    · exact isTidying_sorted
  have hop (op : Operation) (h : op.IsTextSafe) (htidied : op.IsTidied tidy) :
      Operation.form.read (tidy (Operation.form.write op)) = .ok op :=
    op.form_readsBack ht (Operation.forall_parts_isTextSafe_iff.mpr ⟨h, htidied⟩)
  have hsigned (s : SignedTransaction) (h : s.body.IsTextSafe) (htidied : s.body.IsTidied tidy) :
      SignedTransaction.form.read (tidy (SignedTransaction.form.write s)) = .ok s.unbound :=
    SignedTransaction.read_tidy_write ht (Transaction.fields_readsBack ht h htidied)
  refine ⟨⟨hop, fun v op hv hread => ?_⟩, ⟨fun name body h => ?_, fun number body h => ?_⟩,
    ⟨fun t => Transaction.form_readsBack ht, fun v t hv hread => ?_⟩, hsigned,
    fun v s hv hread => ?_⟩
  · obtain ⟨hsafe, htidied⟩ :=
      Operation.forall_parts_isTextSafe_iff.mp (Operation.form_yields ht hv hread)
    exact ⟨hsafe, htidied, hop op hsafe htidied⟩
  · exact map_eq_ok_iff.mpr ⟨_, Operation.ofJson_named h body, rfl⟩
  · exact map_eq_ok_iff.mpr ⟨_, Operation.ofJson_numbered h body, rfl⟩
  · obtain ⟨hsafe, htidied⟩ := Transaction.form_yields ht hv hread
    exact ⟨hsafe, htidied, Transaction.form_readsBack ht hsafe htidied⟩
  · obtain ⟨hsafe, htidied⟩ := SignedTransaction.form_yields ht hv hread
    exact ⟨hsafe, htidied, hsigned s hsafe htidied⟩

/-- A proposal that sells the most divided of coins and holds two operations without a payload
here, one of them under a number. -/
def mixedProposal : Operation :=
  .proposal "alice" "mixed" .epoch
    [.transfer "alice" "bob" ⟨-1, .custom "GOLD" 18⟩ "",
      .unknown ⟨none, some "chain_properties_update", [], .obj [("a", .nat 1), ("b", .null)]⟩,
      .unknown ⟨some 46, none, [], .arr []⟩]

theorem json_round_trip_mixedProposal : mixedProposal.IsTextSafe ∧ mixedProposal.IsTidied sorted ∧
    Operation.form.read (Operation.form.write mixedProposal).sorted = .ok mixedProposal := by
  have hunknown :
      ∀ u, .unknown u ∈ mixedProposal.within → u.IsTextSafe ∧ u.body.sorted = u.body := by
    intro u hu
    have hcases :
        ⟨none, some "chain_properties_update", [], .obj [("a", .nat 1), ("b", .null)]⟩ = u ∨
          ⟨some 46, none, [], .arr []⟩ = u := by
      simpa [mixedProposal, Operation.proposal, Operation.transfer, Operation.within,
        Operation.parts, Operation.partsList, Record.parts, Shape.parts, Part.operation?] using hu
    rcases hcases with rfl | rfl
    · exact ⟨.named (by decide +kernel), rfl⟩
    · exact ⟨.numbered (by decide), rfl⟩
  have hsafe : mixedProposal.IsTextSafe := by
    refine ⟨fun a ha => ?_, fun u hu => (hunknown u hu).1⟩
    obtain rfl : a = ⟨-1, .custom "GOLD" 18⟩ := List.mem_singleton.mp ha
    exact ⟨by decide, by decide, by decide, List.all_eq_true.mp (by decide), by decide, by decide⟩
  have htidied : mixedProposal.IsTidied sorted := fun u hu => (hunknown u hu).2
  exact ⟨hsafe, htidied, (json_round_trip (.inr rfl)).1.1 _ hsafe htidied⟩

end LedgerClient
