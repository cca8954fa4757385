import LedgerClient.Proofs.Operation.Nesting
import LedgerClient.Proofs.Transaction.Quarantine

/-!
# Reading is bounded by its input

Operations, transactions and signed transactions are read from bytes of any origin, and it is the
bytes that say how many members a list has and how deep proposals are nested. The main statement
(`decoding_isBounded`) collects what keeps a reader within its input all the same: the recursion
ends, a suffix of the input is left, what is read is small against the bytes it took, and no loop is
entered with more rounds than there are bytes. It also says where unknown operations are found,
which have no end of their own: only where nothing follows them, as an operation of their own or as
the last one of the list of a transaction.
-/

namespace LedgerClient

open Wire Wire.Codec Wire.Reader

namespace Transaction

/-! ### The parts of the reader -/

/-- What is read of a transaction after the number of its operations. -/
def readCounted (blockNumber : UInt16) (blockMark : UInt32) (expiration : Timestamp)
    (count : Nat) : Reader Transaction := do
  let (operations, complete) ← readOperations count
  let extensions ← if complete then Extension.codec.list.read else pure []
  return ⟨blockNumber, blockMark, expiration, operations, extensions⟩

theorem codec_read_eq : codec.read = (do
    let blockNumber ← u16.read
    let blockMark ← u32.read
    let expiration ← Timestamp.codec.read
    Reader.count >>= readCounted blockNumber blockMark expiration) :=
  rfl

/-! ### What is left -/

theorem leavesSuffix_readOperations : ∀ n, (readOperations n).LeavesSuffix := by
  intro n
  induction n with
  | zero => exact leavesSuffix_pure _
  | succ n ih =>
    refine Operation.leavesSuffix_codec_read.bind fun op => ?_
    split
    · exact leavesSuffix_pure _
    · exact ih.bind fun _ => leavesSuffix_pure _

theorem leavesSuffix_readCounted (blockNumber : UInt16) (blockMark : UInt32)
    (expiration : Timestamp) (count : Nat) :
    (readCounted blockNumber blockMark expiration count).LeavesSuffix := by
  refine (leavesSuffix_readOperations count).bind fun p => ?_
  dsimp only
  split
  · exact (leavesSuffix_list Extension.leavesSuffix_codec).map _
  · exact leavesSuffix_pure _

/-- Whatever becomes of reading a transaction, a suffix of the input is left. -/
theorem leavesSuffix_codec_read : codec.read.LeavesSuffix := by
  rw [codec_read_eq]
  exact (leavesSuffix_fixed _ _).bind fun _ => (leavesSuffix_fixed _ _).bind fun _ =>
    Timestamp.leavesSuffix_codec.bind fun _ => leavesSuffix_count.bind fun _ =>
      leavesSuffix_readCounted _ _ _ _

/-! ### Unknown operations -/

/-- An unknown operation in a transaction that was read is one of the list, not a nested one. -/
theorem eq_of_mem_within_of_runOn {bytes rest : Bytes} {t : Transaction}
    (hread : codec.read.runOn bytes = (.ok t, rest)) {op o : Operation} (hop : op ∈ t.operations)
    (ho : o ∈ op.within) (hunknown : o.isUnknown = true) : o = op := by
  have hcanonical : op.IsCanonical → o = op := fun h => absurd hunknown (h.not_isUnknown ho)
  -- Either all operations are known, or one at the end of the list has taken all that was left.
  rcases of_runOn_read hread with hall | ⟨⟨front, tag, raw, hops, -, hfront⟩, -, -⟩
  · exact hcanonical (hall op hop)
  · rw [hops, List.mem_append, List.mem_singleton] at hop
    rcases hop with hop | rfl
    · exact hcanonical (hfront op hop)
    · have hself : o ∈ [Operation.unknown (.ofTag tag raw)] := ho
      exact List.mem_singleton.mp hself

end Transaction

namespace SignedTransaction

/-- Whatever becomes of reading a signed transaction, a suffix of the input is left. -/
theorem leavesSuffix_codec_read : codec.read.LeavesSuffix := by
  have hsignature : Signature.codec.read.LeavesSuffix :=
    leavesSuffix_via (leavesSuffix_vector 65) _ _
  refine Transaction.leavesSuffix_codec_read.bind fun body =>
    leavesSuffix_remaining.bind fun left => ?_
  dsimp only
  split
  · exact leavesSuffix_pure _
  · exact (leavesSuffix_list hsignature).map _

end SignedTransaction

/-- **Reading is bounded by its input.** Whatever the bytes are,

* operations are read by a recursion that ends: the reader satisfies the equation of the recursion,
  and with more levels than there are bytes nothing depends on what stands at their end;
* what is unread after a success or a failure is a suffix of the input;
* reading an operation takes eleven bytes for each level of proposals and one byte for each
  operation at any depth;
* every list, the operations of a proposal and those of a transaction are entered with a count of at
  most the bytes that are unread then;
* an unknown operation in what was read is an operation that was to be read or one of the list of a
  transaction, and never one within another. -/
theorem decoding_isBounded :
    ((∀ bytes, Operation.codec.read.runOn bytes =
        runOn (varint >>= Operation.readPayload Operation.codec.read) bytes) ∧
      ∀ bottom bytes depth, bytes.length < depth →
        (Operation.readWith bottom depth).runOn bytes = Operation.codec.read.runOn bytes) ∧
    (∀ bytes, (Operation.codec.read.runOn bytes).2 <:+ bytes ∧
      (Transaction.codec.read.runOn bytes).2 <:+ bytes ∧
      (SignedTransaction.codec.read.runOn bytes).2 <:+ bytes) ∧
    (∀ bytes op rest, Operation.codec.read.runOn bytes = (.ok op, rest) →
      ∃ used, bytes = used ++ rest ∧ 11 * op.levels ≤ used.length ∧
        op.within.length ≤ used.length) ∧
    ((∀ (α : Type) (c : Codec α), IsCounted c.list.read c.read.times) ∧
      (∀ nested name layout, IsCounted (Record.read nested (.operations name :: layout)) fun n => do
        let ops ← nested.times n
        let rest ← Record.read nested layout
        return .operations ops rest) ∧
      Transaction.codec.read = (do
        let blockNumber ← u16.read
        let blockMark ← u32.read
        let expiration ← Timestamp.codec.read
        Reader.count >>= Transaction.readCounted blockNumber blockMark expiration) ∧
      ∀ blockNumber blockMark expiration,
        IsCounted (Reader.count >>= Transaction.readCounted blockNumber blockMark expiration)
          (Transaction.readCounted blockNumber blockMark expiration)) ∧
    (∀ bytes op rest, Operation.codec.read.runOn bytes = (.ok op, rest) →
      ∀ o ∈ op.within, o.isUnknown = true → o = op) ∧
    (∀ bytes t rest, Transaction.codec.read.runOn bytes = (.ok t, rest) →
      ∀ op ∈ t.operations, ∀ o ∈ op.within, o.isUnknown = true → o = op) ∧
    ∀ bytes s rest, SignedTransaction.codec.read.runOn bytes = (.ok s, rest) →
      ∀ op ∈ s.body.operations, ∀ o ∈ op.within, o.isUnknown = true → o = op := by
  refine ⟨⟨Operation.runOn_codec_read_eq, fun bottom bytes depth =>
      Operation.runOn_readWith bottom⟩,
    fun bytes => ⟨Operation.leavesSuffix_codec_read bytes,
      Transaction.leavesSuffix_codec_read bytes, SignedTransaction.leavesSuffix_codec_read bytes⟩,
    fun bytes op rest => Operation.levels_le_of_runOn,
    ⟨fun α c => isCounted_count_bind _, fun nested name layout => isCounted_count_bind _,
      Transaction.codec_read_eq, fun _ _ _ => isCounted_count_bind _⟩,
    fun bytes op rest hread o => Operation.eq_of_mem_within_of_runOn hread,
    fun bytes t rest hread op hop o => Transaction.eq_of_mem_within_of_runOn hread hop, ?_⟩
  intro bytes s rest hread op hop o
  obtain ⟨mid, hbody⟩ := SignedTransaction.exists_runOn_of_runOn_read hread
  exact Transaction.eq_of_mem_within_of_runOn hbody hop

theorem decoding_isBounded_nestedTransfer : nestedTransfer.levels = 2 ∧ ∃ bytes,
    Operation.codec.read.runOn (bytes ++ [7]) = (.ok nestedTransfer, [7]) ∧ 22 ≤ bytes.length := by
  have hlevels : nestedTransfer.levels = 2 := rfl
  have hcanonical : nestedTransfer.IsCanonical := by decide
  obtain ⟨bytes, -, -, htakes⟩ := Operation.codec_carries hcanonical
  obtain ⟨-, -, hsmall, -⟩ := decoding_isBounded
  obtain ⟨used, hused, hle, -⟩ := hsmall _ _ _ (htakes [7])
  obtain rfl := List.append_cancel_right hused
  rw [hlevels] at hle
  exact ⟨hlevels, bytes, htakes [7], hle⟩

end LedgerClient
