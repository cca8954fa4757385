import LedgerClient.Proofs.Chain.Report
import LedgerClient.Proofs.Client.Task
import LedgerClient.Proofs.Rpc.Local
import LedgerClient.Proofs.Timestamp.Shift
import LedgerClient.Proofs.Transaction.Validation
import LedgerClient.Proofs.Wire.Accepted

/-!
# Transactions on the reported head

A client that prepares a transaction asks for a report on the chain. What it makes of the report is
settled by the head and the time in it, by how long the client lets transactions live and by the
operations: `Client.prepare_on_head` says which transaction this is, down to the bytes of the head,
and that there is none if the expiration is beyond the times of 32 bits or if the operations do not
pass the check of a transaction.
-/

namespace LedgerClient

open Json Rpc

/-! ### The bytes of a block identifier -/

namespace BlockId

/-- The value of the byte at a place of a block identifier. -/
def byte (i : BlockId) (k : Fin 20) : Nat :=
  (i.bytes.get k).toNat

/-- The first eight bytes are at the front of all bytes. -/
theorem exists_toBytes_eq (i : BlockId) : ∃ b₀ b₁ b₂ b₃ b₄ b₅ b₆ b₇ rest,
    i.toBytes = b₀ :: b₁ :: b₂ :: b₃ :: b₄ :: b₅ :: b₆ :: b₇ :: rest ∧
      i.byte 0 = b₀.toNat ∧ i.byte 1 = b₁.toNat ∧ i.byte 2 = b₂.toNat ∧ i.byte 3 = b₃.toNat ∧
      i.byte 4 = b₄.toNat ∧ i.byte 5 = b₅.toNat ∧ i.byte 6 = b₆.toNat ∧ i.byte 7 = b₇.toNat := by
  obtain ⟨⟨⟨l⟩, h⟩⟩ := i
  have hlen : l.length = 20 := h
  match l, hlen with
  | b₀ :: b₁ :: b₂ :: b₃ :: b₄ :: b₅ :: b₆ :: b₇ :: rest, _ =>
    exact ⟨b₀, b₁, b₂, b₃, b₄, b₅, b₆, b₇, rest, rfl, rfl, rfl, rfl, rfl, rfl, rfl, rfl, rfl⟩

theorem toNat_shortNumber (i : BlockId) : (BlockId.shortNumber i).toNat =
    (2 ^ 24 * i.byte 0 + 2 ^ 16 * i.byte 1 + 2 ^ 8 * i.byte 2 + i.byte 3) % 2 ^ 16 := by
  obtain ⟨b₀, b₁, b₂, b₃, b₄, b₅, b₆, b₇, rest, hbytes, h₀, h₁, h₂, h₃, -⟩ := i.exists_toBytes_eq
  have hnumber : ofBigEndian [b₀, b₁, b₂, b₃] =
      2 ^ 24 * b₀.toNat + 2 ^ 16 * b₁.toNat + 2 ^ 8 * b₂.toNat + b₃.toNat := by
    simp only [ofBigEndian, List.foldl]
    omega
  rw [h₀, h₁, h₂, h₃, ← hnumber]
  simp only [shortNumber, number, hbytes, List.take]
  simp

theorem toNat_mark (i : BlockId) : (BlockId.mark i).toNat =
    i.byte 4 + 2 ^ 8 * i.byte 5 + 2 ^ 16 * i.byte 6 + 2 ^ 24 * i.byte 7 := by
  obtain ⟨b₀, b₁, b₂, b₃, b₄, b₅, b₆, b₇, rest, hbytes, -, -, -, -, h₄, h₅, h₆, h₇⟩ :=
    i.exists_toBytes_eq
  have hmark : ofLittleEndian [b₄, b₅, b₆, b₇] =
      b₄.toNat + 2 ^ 8 * b₅.toNat + 2 ^ 16 * b₆.toNat + 2 ^ 24 * b₇.toNat := by
    simp only [ofLittleEndian]
    omega
  have hlt : ofLittleEndian [b₄, b₅, b₆, b₇] < 256 ^ 4 := ofLittleEndian_lt [b₄, b₅, b₆, b₇]
  rw [h₄, h₅, h₆, h₇, ← hmark]
  simp only [mark, hbytes, List.drop, List.take]
  exact UInt32.toNat_ofNat_of_lt' hlt

end BlockId

/-! ### What is built -/

/-- The check finds that a transaction is invalid, if anything. -/
theorem Transaction.exists_flaw_of_validate {t : Transaction} {fault : TransactionFault}
    (h : t.validate = .error fault) : ∃ flaw, fault = .invalid flaw := by
  rw [validate] at h
  split at h
  · cases h
    exact ⟨_, rfl⟩
  · split at h
    · cases h
      exact ⟨_, rfl⟩
    · split at h <;> cases h
      exact ⟨_, rfl⟩

namespace Client

variable {σ : Type} {config : ClientConfig} {state : ChainState} {ops : List Operation}

/-- A transaction is built if and only if its expiration fits and its operations may be signed, and
then it is the one on the head of the state. -/
theorem build_eq_ok_iff_fits {t : Transaction} : build config state ops = .ok t ↔
    (state.time.seconds.toNat + config.expiration.seconds < 2 ^ 32 ∧ ops ≠ [] ∧
      ∀ op ∈ ops, op.IsSignable) ∧
    t.blockNumber = BlockId.shortNumber state.head ∧ t.blockMark = BlockId.mark state.head ∧
    t.expiration.seconds.toNat = state.time.seconds.toNat + config.expiration.seconds ∧
    t.operations = ops ∧ t.extensions = [] := by
  rw [build_eq_ok_iff]
  constructor
  · rintro ⟨expiration, hadd, hvalid, rfl⟩
    obtain ⟨hfits, hexpiration⟩ := Timestamp.add?_eq_some_iff.mp hadd
    exact ⟨⟨hfits, Transaction.validate_eq_ok_iff.mp hvalid⟩, rfl, rfl, hexpiration, rfl, rfl⟩
  · obtain ⟨number, mark, expiration, operations, extensions⟩ := t
    rintro ⟨⟨hfits, hops⟩, rfl, rfl, hexpiration, rfl, rfl⟩
    exact ⟨expiration, Timestamp.add?_eq_some_iff.mpr ⟨hfits, hexpiration⟩,
      Transaction.validate_eq_ok_iff.mpr hops, rfl⟩

/-- What is not built would be an invalid transaction. -/
theorem exists_flaw_of_build {fault : TransactionFault}
    (h : build config state ops = .error fault) : ∃ flaw, fault = .invalid flaw := by
  cases hadd : state.time.add? config.expiration.seconds with
  | none =>
    rw [build_of_add?_eq_none hadd] at h
    cases h
    exact ⟨_, rfl⟩
  | some expiration =>
    rw [build_of_add?_eq_some hadd] at h
    rcases bind_eq_error_iff.mp h with hvalid | ⟨_, -, hpure⟩
    · exact Transaction.exists_flaw_of_validate hvalid
    · cases hpure

/-- **Transactions on the reported head.** Let the reply to the call report any head and any time. A
transaction is prepared if and only if the sum of the time and the seconds that transactions live is
a number of 32 bits, and there are operations, none of them virtual or unknown. It refers to the
head by the number that the first four bytes of its identifier are, high byte first and modulo
`2 ^ 16`, and by the number that the next four are, low byte first; it expires at the sum, and has
just these operations and no extensions. Whenever no transaction is prepared, the fault is that of
an invalid one. -/
theorem prepare_on_head {c : Client σ} {reply : Reply} {v : Json} {head : BlockId}
    {time : Timestamp} (hreply : c.connection.Receives (Request.invocation .chainState) reply)
    (hresult : reply.resolve c.connection.ids.take.1 = .ok v)
    (hreport : ChainState.Reports v head time) (ops : List Operation) :
    (∀ t, (run (prepare ops) c).1 = .ok t ↔
      (time.seconds.toNat + c.config.expiration.seconds < 2 ^ 32 ∧ ops ≠ [] ∧
        ∀ op ∈ ops, op.IsSignable) ∧
      t.blockNumber.toNat = (2 ^ 24 * head.byte 0 + 2 ^ 16 * head.byte 1 + 2 ^ 8 * head.byte 2 +
        head.byte 3) % 2 ^ 16 ∧
      t.blockMark.toNat = head.byte 4 + 2 ^ 8 * head.byte 5 + 2 ^ 16 * head.byte 6 +
        2 ^ 24 * head.byte 7 ∧
      t.expiration.seconds.toNat = time.seconds.toNat + c.config.expiration.seconds ∧
      t.operations = ops ∧ t.extensions = []) ∧
    ((∃ t, (run (prepare ops) c).1 = .ok t) ∨
      ∃ flaw, (run (prepare ops) c).1 = .error (.transaction (.invalid flaw))) := by
  obtain ⟨state, hread, rfl, rfl⟩ := ChainState.reports_iff.mp hreport
  have hperform := hreply.perform_call
  have hdecode : Request.decode .chainState v = .ok state := mapError_eq_ok_iff.mpr hread
  rw [hresult] at hperform
  have hrun : (run (prepare ops) c).1 = (build c.config state ops).mapError .transaction := by
    rw [run_prepare (hperform.trans (congrArg (·, _) hdecode))]
  rw [hrun]
  refine ⟨fun t => ?_, ?_⟩
  · rw [mapError_eq_ok_iff, build_eq_ok_iff_fits, ← UInt16.toNat_inj, ← UInt32.toNat_inj,
      BlockId.toNat_shortNumber, BlockId.toNat_mark]
  · cases hbuild : build c.config state ops with
    | ok t => exact .inl ⟨t, rfl⟩
    | error fault =>
      obtain ⟨flaw, rfl⟩ := exists_flaw_of_build hbuild
      exact .inr ⟨flaw, rfl⟩

/-! ### A report in the last minute -/

/-- A client whose transactions live for a while, and whose first call is answered with a value. -/
def answeredWith (value : Json) (window : Duration) : Client Unit :=
  .new { expiration := window }
    (fun _ network => ⟨network, ⟨0⟩, .ok ((Answer.result value).reply (.nat 1)), network⟩) ()

/-- The block whose identifier counts from 0 to 19. -/
def countingHead : BlockId :=
  ⟨Vector.ofFn fun k => .ofNat k⟩

/-- The report in the last minute of the times of 32 bits. -/
def lastReport : Json :=
  ChainState.shortReport 1 countingHead ⟨4294967235⟩

theorem resolve_lastReport :
    ((Answer.result lastReport).reply (.nat 1)).resolve 1 = .ok lastReport := by
  have hnames : ["current_witness", "head_block_id", "head_block_number",
      "last_irreversible_block_num", "time"].Pairwise (· < ·) := by decide
  have hsorted : lastReport.sorted = lastReport := sorted_obj_of_names hnames
  have hreadable : Answer.IsReadable lastReport :=
    ⟨⟨trivial, trivial, isWhole_nat (by decide), isWhole_nat (by decide), trivial, trivial⟩,
      by decide⟩
  have hresolve := Answer.resolve_result hreadable 1
  rwa [hsorted] at hresolve

/-- A minute before the end a transaction that lives for a minute is prepared, and one that lives
for a second more is not. -/
theorem prepare_on_head_lastMinute :
    (run (prepare [.transfer "alice" "bob" (.viz 1000) ""])
      (answeredWith lastReport (.ofSeconds 60))).1 =
        .ok ⟨0x0203, 0x07060504, ⟨4294967295⟩, [.transfer "alice" "bob" (.viz 1000) ""], []⟩ ∧
    ∃ flaw, (run (prepare [.transfer "alice" "bob" (.viz 1000) ""])
      (answeredWith lastReport (.ofSeconds 61))).1 = .error (.transaction (.invalid flaw)) := by
  have hreport : ChainState.Reports lastReport countingHead ⟨4294967235⟩ :=
    ChainState.reports_shortReport _ _ _
  have hminute := prepare_on_head (c := answeredWith lastReport (.ofSeconds 60)) ⟨rfl, by decide⟩
    resolve_lastReport hreport [.transfer "alice" "bob" (.viz 1000) ""]
  have hmore := prepare_on_head (c := answeredWith lastReport (.ofSeconds 61)) ⟨rfl, by decide⟩
    resolve_lastReport hreport [.transfer "alice" "bob" (.viz 1000) ""]
  refine ⟨(hminute.1 _).mpr (by decide), hmore.2.resolve_left ?_⟩
  rintro ⟨t, ht⟩
  exact absurd ((hmore.1 t).mp ht).1.1 (by decide)

end Client

end LedgerClient
