import LedgerClient.Chain.Account
import LedgerClient.Chain.Block
import LedgerClient.Chain.Committee
import LedgerClient.Chain.Witness
import LedgerClient.Proofs.Json.Stable
import LedgerClient.Proofs.Transaction.Json
import LedgerClient.Proofs.Transaction.Signing

/-!
# Reports survive being written back

What a node reports can be spelled in many ways: numbers as texts, members left out, `null` or in
any order, records as lists, members that nobody asks for. `report_round_trip` says that none of
this is lost on a reader who writes down what was read: the next reader reads the same.

For most fields this holds because their forms read back every value. Amounts, operations and
whatever a header keeps as it is are read back if they were read. The proof for a record names the
reason for each of its fields, in the order of the description; that the record agrees in every
field with what was read is for `simp` to see. A block is the exception, because it shares its
object with its header.
-/

namespace LedgerClient

open Json Json.Form

variable {tidy : Json → Json}

/-! ### Parts of reports -/

theorem Asset.form_isStable (ht : IsTidying tidy) : Asset.form.IsStable tidy :=
  Asset.form_yields.imp fun _ => Asset.form_readsBack ht

theorem Timestamp.form_isStable (ht : IsTidying tidy) : Timestamp.form.IsStable tidy :=
  isStable_of_forall (Timestamp.form_readsBack ht)

theorem PublicKey.form_isStable (ht : IsTidying tidy) : PublicKey.form.IsStable tidy :=
  isStable_of_forall (PublicKey.form_readsBack ht)

theorem Identifier.form_isStable (ht : IsTidying tidy) {n : Named} :
    (Identifier.form : Form (Identifier n)).IsStable tidy :=
  isStable_of_forall (Identifier.form_readsBack ht)

theorem Operation.form_isStable (ht : IsTidying tidy) : Operation.form.IsStable tidy :=
  (Operation.form_yields ht).imp fun op => op.form_readsBack ht

/-- What is read is bound to no chain, so that the binding, which is not written, is not lost. -/
theorem SignedTransaction.form_isStable (ht : IsTidying tidy) :
    SignedTransaction.form.IsStable tidy := by
  intro v s hv hread
  obtain ⟨hsafe, htidied⟩ := SignedTransaction.form_yields ht hv hread
  have hback := SignedTransaction.read_tidy_write ht (Transaction.fields_readsBack ht hsafe htidied)
  have hunbound : ofParts s.body s.signatures = s := by
    rw [ofParts, ← (IsFresh.ofJson hread).binding_eq_none]
  rwa [hunbound] at hback

/-! ### The chain -/

theorem ChainState.form_isStable (ht : IsTidying tidy) : ChainState.form.IsStable tidy :=
  have hasset : Asset.form.IsStable tidy := Asset.form_isStable ht
  .record ht (Fields.restores_start (by simp)
    |>.always (readsBack_u32 ht)
    |>.always (Identifier.form_readsBack ht)
    |>.always (Timestamp.form_readsBack ht)
    |>.optional ht rejectsNull_ofText (Timestamp.form_isStable ht)
    |>.always (readsBack_text ht)
    |>.always (readsBack_u32 ht)
    |>.optional ht rejectsNull_ofText hasset
    |>.optional ht rejectsNull_ofText hasset
    |>.optional ht rejectsNull_ofText hasset
    |>.optional ht rejectsNull_ofText hasset
    |>.optional ht rejectsNull_ofText hasset
    |>.always (readsBack_u32 ht)
    |>.always (readsBack_u32 ht)
    |>.always (readsBack_flexU64 ht)
    |>.always (readsBack_u32 ht)
    |>.always (readsBack_u16 ht)
    |>.always (readsBack_u16 ht)) (by decide)

theorem ChainParameters.form_isStable (ht : IsTidying tidy) : ChainParameters.form.IsStable tidy :=
  have hasset : Asset.form.IsStable tidy := Asset.form_isStable ht
  .record ht (Fields.restores_start (by simp)
    |>.required hasset
    |>.always (readsBack_u32 ht)
    |>.always (readsBack_u32 ht)
    |>.always (readsBack_u32 ht)
    |>.required hasset
    |>.always (readsBack_i16 ht)
    |>.always (readsBack_i16 ht)
    |>.always (readsBack_i16 ht)
    |>.required hasset
    |>.always (readsBack_i16 ht)
    |>.always (readsBack_u32 ht)
    |>.always (readsBack_i16 ht)
    |>.always (readsBack_i16 ht)
    |>.always (readsBack_i16 ht)
    |>.always (readsBack_u32 ht)
    |>.always (readsBack_u32 ht)
    |>.always (readsBack_i16 ht)
    |>.always (readsBack_u32 ht)
    |>.optional ht rejectsNull_ofText hasset
    |>.optional ht rejectsNull_ofText hasset
    |>.optional ht rejectsNull_ofText hasset
    |>.optional ht rejectsNull_ofText hasset
    |>.optional ht rejectsNull_ofText hasset
    |>.optional ht rejectsNull_ofText hasset
    |>.always (readsBack_u16 ht)) (by decide)

/-! ### Accounts and witnesses -/

theorem Account.form_isStable (ht : IsTidying tidy) : Account.form.IsStable tidy :=
  have hasset : Asset.form.IsStable tidy := Asset.form_isStable ht
  have htime : Timestamp.form.IsStable tidy := Timestamp.form_isStable ht
  .record ht (Fields.restores_start (by simp)
    |>.always (readsBack_u32 ht)
    |>.always (readsBack_text ht)
    |>.always (Authority.form_readsBack ht)
    |>.always (Authority.form_readsBack ht)
    |>.always (Authority.form_readsBack ht)
    |>.always (PublicKey.form_readsBack ht)
    |>.always (readsBack_text ht)
    |>.always (readsBack_text ht)
    |>.always (readsBack_text ht)
    |>.always (Timestamp.form_readsBack ht)
    |>.always (readsBack_text ht)
    |>.always (readsBack_i16 ht)
    |>.optional ht rejectsNull_ofText htime
    |>.required hasset
    |>.required hasset
    |>.optional ht rejectsNull_ofText hasset
    |>.optional ht rejectsNull_ofText hasset
    |>.optional ht rejectsNull_ofText hasset
    |>.optional ht rejectsNull_ofText htime
    |>.always (readsBack_flexU64 ht)
    |>.always (readsBack_u16 ht)) (by decide)

theorem Witness.form_isStable (ht : IsTidying tidy) : Witness.form.IsStable tidy :=
  .record ht (Fields.restores_start (by simp)
    |>.always (readsBack_u32 ht)
    |>.always (readsBack_text ht)
    |>.always (Timestamp.form_readsBack ht)
    |>.always (readsBack_text ht)
    |>.always (readsBack_flexI64 ht)
    |>.always (readsBack_u32 ht)
    |>.always (readsBack_flexU64 ht)
    |>.always (readsBack_flexU64 ht)
    |>.always (PublicKey.form_readsBack ht)
    |>.optional ht rejectsNull_record (ChainParameters.form_isStable ht)
    |>.always (readsBack_text ht)
    |>.always (readsBack_text ht)
    |>.optional ht rejectsNull_ofText (Timestamp.form_isStable ht)) (by decide)

/-! ### Blocks and history -/

theorem BlockHeader.fields_isStable (ht : IsTidying tidy) :
    BlockHeader.fields.IsStable tidy
      ["previous", "timestamp", "witness", "transaction_merkle_root", "extensions"] :=
  Fields.restores_start (by simp)
    |>.always (Identifier.form_readsBack ht)
    |>.always (Timestamp.form_readsBack ht)
    |>.always (readsBack_text ht)
    |>.always (readsBack_text ht)
    |>.list ht isStable_any

theorem BlockHeader.form_isStable (ht : IsTidying tidy) : BlockHeader.form.IsStable tidy :=
  .record ht (BlockHeader.fields_isStable ht) (by decide)

theorem BlockContent.fields_isStable (ht : IsTidying tidy) :
    BlockContent.fields.IsStable tidy
      ["witness_signature", "transactions", "block_id", "signing_key", "transaction_ids"] :=
  Fields.restores_start (by simp)
    |>.always (Signature.form_readsBack ht)
    |>.list ht (SignedTransaction.form_isStable ht)
    |>.optional ht rejectsNull_ofText (Identifier.form_isStable ht)
    |>.optional ht rejectsNull_ofText (PublicKey.form_isStable ht)
    |>.list ht (Identifier.form_isStable ht)

/-- One object is read twice, and neither reading sees the members of the other. -/
theorem SignedBlock.form_isStable (ht : IsTidying tidy) : SignedBlock.form.IsStable tidy := by
  intro v block hv hread
  cases v with
  | obj ms =>
    obtain ⟨content, hcontent, hread⟩ := bind_eq_ok_iff.mp hread
    obtain ⟨header, hheader, hread⟩ := bind_eq_ok_iff.mp hread
    obtain rfl : ⟨header, content⟩ = block := Except.ok.inj hread
    have htidied : ∀ name w, find? ms name = some w → tidy w = w := fun _ _ =>
      tidied_of_find? ht hv
    have hcontentBack : BlockContent.fields.ReadsBack tidy content content :=
      (BlockContent.fields_isStable ht).yields_readsBack.members htidied
        (mapError_eq_ok_iff.mp hcontent)
    have hheaderBack : BlockHeader.fields.ReadsBack tidy header header :=
      (BlockHeader.fields_isStable ht).yields_readsBack.members htidied
        (mapError_eq_ok_iff.mp hheader)
    obtain ⟨ns, htidy, hmembers⟩ :=
      ht.obj (BlockHeader.fields.write header ++ BlockContent.fields.write content)
    have hfound := hmembers (by
      rw [List.map_append, (BlockHeader.fields_isStable ht).names_eq,
        (BlockContent.fields_isStable ht).names_eq]
      decide)
    obtain ⟨hinHeader, hinContent⟩ := List.forall_mem_append.mp hfound
    simp only [ReadsBack, SignedBlock.form, htidy]
    exact bind_eq_ok_iff.mpr ⟨content, mapError_eq_ok_iff.mpr (hcontentBack _ hinContent),
      bind_eq_ok_iff.mpr ⟨header, mapError_eq_ok_iff.mpr (hheaderBack _ hinHeader), rfl⟩⟩
  | _ => cases hread

theorem AppliedOperation.form_isStable (ht : IsTidying tidy) :
    AppliedOperation.form.IsStable tidy :=
  .record ht (Fields.restores_start (by simp)
    |>.always (Identifier.form_readsBack ht)
    |>.always (readsBack_u32 ht)
    |>.always (readsBack_u32 ht)
    |>.always (readsBack_u32 ht)
    |>.always (readsBack_flexU64 ht)
    |>.always (Timestamp.form_readsBack ht)
    |>.required (Operation.form_isStable ht)) (by decide)

theorem Confirmation.form_isStable (ht : IsTidying tidy) : Confirmation.form.IsStable tidy :=
  .record ht (Fields.restores_start (by simp)
    |>.always (Identifier.form_readsBack ht)
    |>.always (readsBack_u32 ht)
    |>.always (readsBack_u32 ht)
    |>.always (readsBack_flag ht)) (by decide)

/-! ### Committee requests and invites -/

theorem CommitteeVote.form_isStable (ht : IsTidying tidy) : CommitteeVote.form.IsStable tidy :=
  .record ht (Fields.restores_start (by simp)
    |>.always (readsBack_text ht)
    |>.always (readsBack_i16 ht)
    |>.always (Timestamp.form_readsBack ht)) (by decide)

theorem CommitteeRequest.form_isStable (ht : IsTidying tidy) :
    CommitteeRequest.form.IsStable tidy :=
  have hasset : Asset.form.IsStable tidy := Asset.form_isStable ht
  .record ht (Fields.restores_start (by simp)
    |>.always (readsBack_u32 ht)
    |>.always (readsBack_u32 ht)
    |>.always (readsBack_text ht)
    |>.always (readsBack_text ht)
    |>.always (readsBack_text ht)
    |>.required hasset
    |>.required hasset
    |>.always (Timestamp.form_readsBack ht)
    |>.always (readsBack_u32 ht)
    |>.always (Timestamp.form_readsBack ht)
    |>.always (readsBack_u16 ht)
    |>.always (readsBack_u32 ht)
    |>.optional ht rejectsNull_ofText (Timestamp.form_isStable ht)
    |>.optional ht rejectsNull_ofText hasset
    |>.optional ht rejectsNull_ofText hasset
    |>.optional ht rejectsNull_ofText hasset
    |>.list ht (CommitteeVote.form_isStable ht)) (by decide)

theorem Invite.form_isStable (ht : IsTidying tidy) : Invite.form.IsStable tidy :=
  have hasset : Asset.form.IsStable tidy := Asset.form_isStable ht
  .record ht (Fields.restores_start (by simp)
    |>.always (readsBack_u32 ht)
    |>.always (readsBack_text ht)
    |>.always (readsBack_text ht)
    |>.always (PublicKey.form_readsBack ht)
    |>.always (readsBack_text ht)
    |>.required hasset
    |>.required hasset
    |>.always (Timestamp.form_readsBack ht)
    |>.optional ht rejectsNull_ofText (Timestamp.form_isStable ht)
    |>.always (readsBack_u16 ht)) (by decide)

/-! ### Reports -/

/-- What a node reports about. -/
inductive Report
  /-- The state of the chain at its latest block. -/
  | chainState
  /-- The parameters of the chain. -/
  | chainParameters
  /-- An account. -/
  | account
  /-- The header of a block. -/
  | blockHeader
  /-- A block with its transactions. -/
  | block
  /-- An operation with its place on the chain. -/
  | operation
  /-- A witness. -/
  | witness
  /-- An invite. -/
  | invite
  /-- A request for funds of the committee. -/
  | committeeRequest
  /-- The confirmation of a transaction. -/
  | confirmation

namespace Report

/-- What is reported. -/
def Content : Report → Type
  | chainState => ChainState
  | chainParameters => ChainParameters
  | account => Account
  | blockHeader => BlockHeader
  | block => SignedBlock
  | operation => AppliedOperation
  | witness => Witness
  | invite => Invite
  | committeeRequest => CommitteeRequest
  | confirmation => Confirmation

/-- The JSON form. -/
def form : (report : Report) → Form report.Content
  | chainState => ChainState.form
  | chainParameters => ChainParameters.form
  | account => Account.form
  | blockHeader => BlockHeader.form
  | block => SignedBlock.form
  | operation => AppliedOperation.form
  | witness => Witness.form
  | invite => Invite.form
  | committeeRequest => CommitteeRequest.form
  | confirmation => Confirmation.form

theorem form_isStable (ht : IsTidying tidy) : (report : Report) → report.form.IsStable tidy
  | chainState => ChainState.form_isStable ht
  | chainParameters => ChainParameters.form_isStable ht
  | account => Account.form_isStable ht
  | blockHeader => BlockHeader.form_isStable ht
  | block => SignedBlock.form_isStable ht
  | operation => AppliedOperation.form_isStable ht
  | witness => Witness.form_isStable ht
  | invite => Invite.form_isStable ht
  | committeeRequest => CommitteeRequest.form_isStable ht
  | confirmation => Confirmation.form_isStable ht

end Report

/-- **Reports.** What is read of a report, however it is spelled, is read again from what is written
for it. If the report is a generic value, whose members are sorted, this holds of the generic value
that is written as well. -/
theorem report_round_trip (report : Report) {v : Json} {content : report.Content}
    (hread : report.form.read v = .ok content) :
    report.form.read (report.form.write content) = .ok content ∧
      (v.sorted = v → report.form.read (report.form.write content).sorted = .ok content) :=
  ⟨report.form_isStable isTidying_id rfl hread,
    fun hsorted => report.form_isStable isTidying_sorted hsorted hread⟩

/-- A report of a later node. There is a member that no reader asks for and an operation without a
kind; a number stands as a text with blanks and a sign, and the time states its zone. -/
def laterReport : Json :=
  .obj [("block", .nat 100), ("node", .str "north"),
    ("op", .arr [.nat 77, .obj [("a", .null)]]), ("op_in_trx", .nat 0),
    ("timestamp", .str "2024-01-01T00:00:03Z"),
    ("trx_id", .str "502E2fb63d05f1dfdb91c5715cf61c8d14e356c4"), ("trx_in_block", .nat 1),
    ("virtual_op", .str " +5000000000 ")]

/-- What the report says. -/
def laterOperation : AppliedOperation :=
  ⟨⟨#v[80, 46, 47, 182, 61, 5, 241, 223, 219, 145, 197, 113, 92, 246, 28, 141, 20, 227, 86, 196]⟩,
    100, 1, 0, 5000000000, ⟨1704067203⟩, .unknown ⟨some 77, none, [], .obj [("a", .null)]⟩⟩

theorem report_round_trip_laterOperation :
    Report.operation.form.read laterReport = .ok laterOperation ∧
      laterReport.sorted = laterReport ∧
      Report.operation.form.read (Report.operation.form.write laterOperation) =
        .ok laterOperation ∧
      Report.operation.form.read (Report.operation.form.write laterOperation).sorted =
        .ok laterOperation := by
  have hread : Report.operation.form.read laterReport = .ok laterOperation := rfl
  obtain ⟨hwritten, hsorted⟩ := report_round_trip .operation hread
  exact ⟨hread, rfl, hwritten, hsorted rfl⟩

end LedgerClient
