import LedgerClient.Proofs.Operation.Unknown
import LedgerClient.Proofs.Transaction.Validation

/-!
# Transactions with an unknown operation

An unknown operation takes all the bytes that remain, so the reader of a transaction stops at it,
however many operations were announced, and neither extensions nor signatures are looked for. What
is read so far is kept: such a transaction can be looked at, but nothing else can be done with it.

`Transaction.of_runOn_read` says what the reader can give at all: a transaction of canonical
operations, or one that ends in its only unknown operation. In the second case the check refuses the
transaction, and the writer stops at an operation that it does not support, which is the unknown one
unless a virtual one stands before it. As calls bind a transaction only if it passes both, none of
them has an effect.
-/

namespace LedgerClient

open Wire Wire.Codec Wire.Reader

namespace Transaction

/-! ### Reading up to an unknown operation -/

/-- The bytes of a transaction that is said to have `n` operations, up to one of a number without a
payload: those in front of it are written as `enc`, and `raw` follows it. -/
def cutBytes (blockNumber : UInt16) (blockMark : UInt32) (expiration : Timestamp) (n : Nat)
    (enc : Bytes) (tag : UInt64) (raw : Bytes) : Bytes :=
  littleEndian 2 blockNumber.toNat ++ (littleEndian 4 blockMark.toNat ++
    (littleEndian 4 expiration.seconds.toNat ++
      (varintBytes n ++ (enc ++ (varintBytes tag.toNat ++ raw)))))

section Unassigned

variable {tag : UInt64}

/-- Canonical operations are read up to the unknown one behind them, before the count runs out. -/
theorem runOn_readOperations_unknown (h : ∀ k ∈ Kind.ofTag? tag.toNat, k.isReserved = true)
    (raw : Bytes) : ∀ {ops : List Operation} {enc : Bytes} {n : Nat},
      (∀ op ∈ ops, op.IsCanonical) → Operation.writeList ops = .ofBytes enc → ops.length < n →
        (readOperations n).runOn (enc ++ (varintBytes tag.toNat ++ raw)) =
          (.ok (ops ++ [.unknown (.ofTag tag raw)], false), []) := by
  intro ops
  induction ops with
  | nil =>
    intro enc n _ hwrite hn
    obtain rfl : [] = enc := (Output.mk.inj hwrite).1
    obtain ⟨n, rfl⟩ : ∃ m, n = m + 1 := ⟨n - 1, (Nat.sub_add_cancel hn).symm⟩
    rw [readOperations, List.nil_append, runOn_bind_of_ok (Operation.runOn_codec_read_unknown h)]
    rfl
  | cons op ops ih =>
    intro enc n hcanonical hwrite hn
    obtain ⟨hop, hops⟩ := List.forall_mem_cons.mp hcanonical
    obtain ⟨first, others, hfirst, hothers, rfl⟩ := Output.append_eq_ofBytes hwrite
    rw [List.length_cons] at hn
    obtain ⟨n, rfl⟩ : ∃ m, n = m + 1 := ⟨n - 1, by omega⟩
    have hread := (Operation.codec_carries hop).takes_of_write hfirst
    have hknown := hop.not_isUnknown op.mem_within_self
    rw [readOperations, List.append_assoc, runOn_bind_of_ok (hread _), if_neg hknown,
      runOn_bind_of_ok (ih hops hothers (Nat.lt_of_succ_lt_succ hn))]
    rfl

variable {ops : List Operation} {enc raw : Bytes} {n : Nat}

theorem runOn_read_cutBytes (h : ∀ k ∈ Kind.ofTag? tag.toNat, k.isReserved = true)
    (hcanonical : ∀ op ∈ ops, op.IsCanonical) (hwrite : Operation.writeList ops = .ofBytes enc)
    (hmore : ops.length < n) (hcount : n ≤ (enc ++ (varintBytes tag.toNat ++ raw)).length)
    (hn : n < 2 ^ 64) (blockNumber : UInt16) (blockMark : UInt32) (expiration : Timestamp) :
    codec.read.runOn (cutBytes blockNumber blockMark expiration n enc tag raw) =
      (.ok ⟨blockNumber, blockMark, expiration, ops ++ [.unknown (.ofTag tag raw)], []⟩, []) := by
  have hnumber : u16.read.Takes (littleEndian 2 blockNumber.toNat) blockNumber :=
    (carries_u16 blockNumber).takes_of_write rfl
  have hmark : u32.read.Takes (littleEndian 4 blockMark.toNat) blockMark :=
    (carries_u32 blockMark).takes_of_write rfl
  have htime : Timestamp.codec.read.Takes (littleEndian 4 expiration.seconds.toNat) expiration :=
    (Timestamp.codec_carries expiration).takes_of_write rfl
  have hops := runOn_readOperations_unknown h raw hcanonical hwrite hmore
  rw [cutBytes]
  refine (runOn_bind_of_ok (hnumber _)).trans ((runOn_bind_of_ok (hmark _)).trans ?_)
  refine (runOn_bind_of_ok (htime _)).trans ?_
  rw [runOn_count_bind (takes_varint hn _), if_neg (Nat.not_lt.mpr hcount), runOn_bind_of_ok hops]
  -- Not all operations were read, so no extensions are looked for.
  rfl

end Unassigned

/-! ### What can be read -/

/-- The operations end in an unknown one, as it is read from the wire, and those in front of it are
canonical. -/
def EndsUnknown (ops : List Operation) : Prop :=
  ∃ front tag raw, ops = front ++ [.unknown (.ofTag tag raw)] ∧
    (tag = 25 ∨ tag = 46 ∨ 62 ≤ tag) ∧ ∀ op ∈ front, op.IsCanonical

/-- Operations that were read are canonical, or they end in an unknown one and no byte is left. -/
theorem of_runOn_readOperations : ∀ {n : Nat} {bytes rest : Bytes} {ops : List Operation}
    {complete : Bool}, (readOperations n).runOn bytes = (.ok (ops, complete), rest) →
      (complete = true ∧ ∀ op ∈ ops, op.IsCanonical) ∨
        (complete = false ∧ EndsUnknown ops ∧ rest = []) := by
  intro n
  induction n with
  | zero =>
    intro bytes rest ops complete hread
    cases hread
    exact .inl ⟨rfl, nofun⟩
  | succ n ih =>
    intro bytes rest ops complete hread
    obtain ⟨op, mid, hop, hrun⟩ := exists_of_runOn_bind hread
    rcases Operation.isGivenBy_or_of_runOn hop with hgiven | ⟨rfl, tag, raw, rfl, hreserved⟩
    · have hcanonical : op.IsCanonical := hgiven.1
      rw [if_neg (hcanonical.not_isUnknown op.mem_within_self)] at hrun
      obtain ⟨⟨others, complete'⟩, hothers, heq⟩ := runOn_bind_pure hrun
      obtain ⟨rfl, rfl⟩ := Prod.mk.inj heq
      rcases ih hothers with ⟨hcomplete, hrest⟩ | ⟨hcomplete, hends, hrest⟩
      · exact .inl ⟨hcomplete, List.forall_mem_cons.mpr ⟨hcanonical, hrest⟩⟩
      · obtain ⟨front, tag, raw, rfl, htag, hfront⟩ := hends
        exact .inr ⟨hcomplete, ⟨op :: front, tag, raw, rfl, htag,
          List.forall_mem_cons.mpr ⟨hcanonical, hfront⟩⟩, hrest⟩
    · -- The unknown operation ends the list, whatever the count.
      cases hrun
      have htag := Kind.forall_ofTag?_isReserved_iff.mp hreserved
      exact .inr ⟨rfl, ⟨[], tag, raw, rfl, htag, nofun⟩, rfl⟩

/-- **Reading.** A transaction that was read has canonical operations, or it ends in an unknown one
and has taken all bytes. -/
theorem of_runOn_read {bytes rest : Bytes} {t : Transaction}
    (hread : codec.read.runOn bytes = (.ok t, rest)) : (∀ op ∈ t.operations, op.IsCanonical) ∨
      (EndsUnknown t.operations ∧ t.extensions = [] ∧ rest = []) := by
  obtain ⟨number, mid, -, hread⟩ := exists_of_runOn_bind hread
  obtain ⟨mark, mid', -, hread⟩ := exists_of_runOn_bind hread
  obtain ⟨time, mid'', -, hread⟩ := exists_of_runOn_bind hread
  obtain ⟨n, mid₃, -, hread⟩ := exists_of_runOn_bind hread
  obtain ⟨⟨ops, complete⟩, mid₄, hops, hread⟩ := exists_of_runOn_bind hread
  rcases of_runOn_readOperations hops with ⟨rfl, hcanonical⟩ | ⟨rfl, hends, rfl⟩
  · obtain ⟨exts, -, rfl⟩ := runOn_bind_pure hread
    exact .inl hcanonical
  · cases hread
    exact .inr ⟨hends, rfl, rfl⟩

/-- A transaction that was read with an unknown operation at any depth ends in it. -/
theorem endsUnknown_of_runOn_read {bytes rest : Bytes} {t : Transaction}
    (hread : codec.read.runOn bytes = (.ok t, rest)) (h : ∃ op ∈ t.within, op.isUnknown = true) :
    EndsUnknown t.operations ∧ t.extensions = [] ∧ rest = [] := by
  refine (of_runOn_read hread).resolve_left fun hcanonical => ?_
  obtain ⟨o, ho, hunknown⟩ := h
  obtain ⟨op, hop, ho⟩ := List.mem_flatMap.mp ho
  exact (hcanonical op hop).not_isUnknown ho hunknown

/-! ### What is refused -/

/-- The check either passes or names a flaw. -/
theorem validate_eq (t : Transaction) :
    t.validate = .ok () ∨ ∃ flaw, t.validate = .error (.invalid flaw) := by
  rw [validate]
  split
  · exact .inr ⟨_, rfl⟩
  · split
    · exact .inr ⟨_, rfl⟩
    · split
      · exact .inr ⟨_, rfl⟩
      · exact .inl rfl

/-- An operation that is canonical or unknown has a wire form within a transaction, unless the wire
has none for its kind. -/
theorem exists_of_fault_writeOperation {op : Operation} {fault : Fault}
    (h : op.IsCanonical ∨ op.isUnknown = true) (hfault : (writeOperation op).fault = some fault) :
    ∃ reason, fault = .unsupported reason := by
  rw [writeOperation] at hfault
  by_cases hvirtual : op.isVirtual = true
  · rw [if_pos hvirtual] at hfault
    exact ⟨_, (Option.some.inj hfault).symm⟩
  · rw [if_neg hvirtual] at hfault
    rcases h with hcanonical | hunknown
    · obtain ⟨bytes, hwrite, -⟩ := Operation.codec_carries hcanonical
      have hnone : op.write.fault = none := congrArg Output.fault hwrite
      rw [hnone] at hfault
      cases hfault
    · cases op with
      | known kind supported payload => cases hunknown
      | unknown u => exact ⟨_, (Option.some.inj hfault).symm⟩

section

variable {t : Transaction}

theorem EndsUnknown.exists_mem {ops : List Operation} (h : EndsUnknown ops) :
    ∃ op ∈ ops, op.isUnknown = true := by
  obtain ⟨front, tag, raw, rfl, -⟩ := h
  exact ⟨_, List.mem_append_right front List.mem_cons_self, rfl⟩

/-- The check refuses a transaction that ends in an unknown operation. -/
theorem EndsUnknown.validate (h : EndsUnknown t.operations) :
    ∃ flaw, t.validate = .error (.invalid flaw) := by
  refine t.validate_eq.resolve_left fun hvalid => ?_
  obtain ⟨op, hop, hunknown⟩ := h.exists_mem
  have hknown := ((validate_eq_ok_iff.mp hvalid).2 op hop).2
  rw [hunknown] at hknown
  cases hknown

/-- The writer ends at an operation that the wire does not support. -/
theorem EndsUnknown.fault_write (h : EndsUnknown t.operations) :
    ∃ reason, t.write.fault = some (.unsupported reason) := by
  rcases hfault : t.write.fault with _ | fault
  · -- The unknown operation is not written without a fault.
    obtain ⟨op, hop, hunknown⟩ := h.exists_mem
    rw [Transaction.fault_write, Output.fault_ofList_eq_none_iff] at hfault
    have hparts := (fault_writeOperation_eq_none_iff.mp (hfault op hop)).2
    have hknown : op.isUnknown = false := hparts _ op.mem_parts_self
    rw [hunknown] at hknown
    cases hknown
  · -- The fault may be that of a virtual operation in front of it.
    rw [Transaction.fault_write] at hfault
    obtain ⟨op, hop, hfault⟩ := Output.exists_of_fault_ofList hfault
    obtain ⟨front, tag, raw, hops, -, hfront⟩ := h
    have hcases : op.IsCanonical ∨ op.isUnknown = true := by
      rw [hops, List.mem_append, List.mem_singleton] at hop
      rcases hop with hop | rfl
      · exact .inl (hfront op hop)
      · exact .inr rfl
    obtain ⟨reason, rfl⟩ := exists_of_fault_writeOperation hcases hfault
    exact ⟨reason, rfl⟩

theorem EndsUnknown.toBytes (h : EndsUnknown t.operations) :
    ∃ reason, t.toBytes = .error (.unsupported reason) := by
  obtain ⟨reason, hfault⟩ := h.fault_write
  exact ⟨reason, toBytes_eq_error_iff.mpr hfault⟩

end

end Transaction

namespace SignedTransaction

/-! ### Signed transactions -/

/-- A transaction that ends in an unknown operation has nothing behind it that could be read as
signatures. -/
theorem runOn_read_of_nil {bytes : Bytes} {t : Transaction}
    (h : Transaction.codec.read.runOn bytes = (.ok t, [])) :
    codec.read.runOn bytes = (.ok (.unsigned t), []) :=
  runOn_bind_of_ok h

/-- The body of a signed transaction is read first. -/
theorem exists_runOn_of_runOn_read {bytes rest : Bytes} {s : SignedTransaction}
    (h : codec.read.runOn bytes = (.ok s, rest)) :
    ∃ mid, Transaction.codec.read.runOn bytes = (.ok s.body, mid) := by
  obtain ⟨t, mid, hbody, hread⟩ := exists_of_runOn_bind h
  obtain ⟨left, mid', -, hread⟩ := exists_of_runOn_bind hread
  refine ⟨mid, ?_⟩
  split at hread <;> obtain ⟨sigs, -, rfl⟩ := runOn_bind_pure hread <;> exact hbody

section

variable {s : SignedTransaction}

theorem toBytes_of_endsUnknown (h : Transaction.EndsUnknown s.body.operations) :
    ∃ reason, s.toBytes = .error (.unsupported reason) := by
  obtain ⟨reason, hfault⟩ := h.fault_write
  refine ⟨reason, toBytes_eq_error_iff.mpr ?_⟩
  have hbody : (Transaction.codec.write s.body).fault = some (.unsupported reason) := hfault
  rw [codec, Output.fault_append, hbody]
  rfl

/-- A transaction that the check refuses is neither bound nor signed by any call. -/
theorem run_step_of_invalid {fault : TransactionFault} (hunbound : s.binding = none)
    (hinvalid : s.body.validate = .error fault) (call : Call) :
    ∃ fault', run call.step s = (.error fault', s) := by
  have hbind : ∀ chain, run (bind chain) s = (.error fault, s) := fun chain =>
    run_bind_first_failed hunbound (Transaction.checkedDigest_of_invalid hinvalid)
  cases call with
  | bind chain => exact ⟨fault, hbind chain⟩
  | sign key chain => exact ⟨fault, run_sign_of_error (hbind chain) key⟩
  | cosign key => exact ⟨.notSigned, run_cosign_unbound hunbound⟩

/-- Calls that all fail without a trace leave a state as it is. -/
theorem after_eq_self (h : ∀ call : Call, (run call.step s).2 = s) (calls : List Call) :
    s.after calls = s := by
  induction calls with
  | nil => rfl
  | cons call calls ih => rw [after, h call, ih]

end

end SignedTransaction

/-! ### The quarantine -/

namespace Transaction

/-- **Quarantine.** A transaction of known operations that is cut off by one of a number without a
payload is read, up to that operation, whatever number of operations was announced, and read as a
signed transaction it is the same body without signatures. The unknown operation has a name exactly
if its number is reserved.

Whenever a transaction that was read has an unknown operation at any depth, this is the last of its
list, and all others are canonical. The check refuses the transaction, it has no wire form, and no
call binds or signs it. -/
theorem unknown_quarantined :
    (∀ ops : List Operation, (∀ op ∈ ops, ∀ o ∈ op.within, o.isUnknown = false) →
      (∀ op ∈ ops, ∀ a ∈ op.assets, a.symbol.IsCanonical) →
      ∃ enc, Operation.writeList ops = .ofBytes enc ∧
        ∀ blockNumber blockMark expiration n (tag : UInt64) raw t,
          tag = 25 ∨ tag = 46 ∨ 62 ≤ tag → ops.length < n →
          n ≤ (enc ++ (varintBytes tag.toNat ++ raw)).length →
          (cutBytes blockNumber blockMark expiration n enc tag raw).length < 2 ^ 64 →
          t = ⟨blockNumber, blockMark, expiration, ops ++ [.unknown (.ofTag tag raw)], []⟩ →
          codec.ofBytes (cutBytes blockNumber blockMark expiration n enc tag raw) = .ok t ∧
          SignedTransaction.codec.ofBytes
            (cutBytes blockNumber blockMark expiration n enc tag raw) = .ok (.unsigned t)) ∧
    (∀ (tag : UInt64) raw, tag = 25 ∨ tag = 46 ∨ 62 ≤ tag →
      ((UnknownOperation.ofTag tag raw).name.isSome ↔ tag = 25 ∨ tag = 46)) ∧
    (∀ bytes s, SignedTransaction.codec.ofBytes bytes = .ok s →
      (∃ op ∈ s.body.within, op.isUnknown = true) →
      codec.ofBytes bytes = .ok s.body ∧ s = .unsigned s.body) ∧
    ∀ bytes t, codec.ofBytes bytes = .ok t → (∃ op ∈ t.within, op.isUnknown = true) →
      (∃ front tag raw, t.operations = front ++ [.unknown (.ofTag tag raw)] ∧
        (tag = 25 ∨ tag = 46 ∨ 62 ≤ tag) ∧ ∀ op ∈ front, op.IsCanonical) ∧
      t.extensions = [] ∧
      (∃ flaw, t.validate = .error (.invalid flaw)) ∧
      (∃ reason, t.toBytes = .error (.unsupported reason)) ∧
      ∀ s : SignedTransaction, s.IsFresh → s.body = t →
        (∃ reason, s.toBytes = .error (.unsupported reason)) ∧
        (∀ call : SignedTransaction.Call,
          ∃ fault, SignedTransaction.run call.step s = (.error fault, s)) ∧
        ∀ calls, s.after calls = s := by
  refine ⟨?_, ?_, ?_, ?_⟩
  · intro ops hknown hsymbols
    obtain ⟨enc, hwrite⟩ := Operation.exists_writeList hknown hsymbols
    refine ⟨enc, hwrite, ?_⟩
    rintro blockNumber blockMark expiration n tag raw t htag hmore hcount hlen rfl
    obtain ⟨hn, henc⟩ : n < 2 ^ 64 ∧ enc.length < 2 ^ 64 := by
      simp only [cutBytes, List.length_append] at hlen hcount
      omega
    have hcanonical : ∀ op ∈ ops, op.IsCanonical := by
      have hparts := Operation.forall_partsList_isCanonical hknown hsymbols hwrite henc
      rwa [Operation.partsList_eq_flatMap, List.forall_mem_flatMap] at hparts
    have hread := runOn_read_cutBytes (Kind.forall_ofTag?_isReserved_iff.mpr htag) hcanonical hwrite
      hmore hcount hn blockNumber blockMark expiration
    exact ⟨readAll_of_runOn hread, readAll_of_runOn (SignedTransaction.runOn_read_of_nil hread)⟩
  · exact fun tag raw htag => UnknownOperation.isSome_name_ofTag_iff htag raw
  · intro bytes s hread hunknown
    obtain ⟨mid, hbody⟩ := SignedTransaction.exists_runOn_of_runOn_read (runOn_of_readAll hread)
    obtain ⟨-, -, rfl⟩ := endsUnknown_of_runOn_read hbody hunknown
    refine ⟨readAll_of_runOn hbody, ?_⟩
    have hsigned := readAll_of_runOn (SignedTransaction.runOn_read_of_nil hbody)
    exact Except.ok.inj (hread.symm.trans hsigned)
  · intro bytes t hread hunknown
    obtain ⟨hends, hextensions, -⟩ := endsUnknown_of_runOn_read (runOn_of_readAll hread) hunknown
    obtain ⟨flaw, hinvalid⟩ := hends.validate
    refine ⟨hends, hextensions, ⟨flaw, hinvalid⟩, hends.toBytes, ?_⟩
    rintro s hfresh rfl
    have hstep := SignedTransaction.run_step_of_invalid hfresh.binding_eq_none hinvalid
    refine ⟨SignedTransaction.toBytes_of_endsUnknown hends, hstep, ?_⟩
    refine SignedTransaction.after_eq_self fun call => ?_
    obtain ⟨fault, hrun⟩ := hstep call
    rw [hrun]

/-- A transaction that is said to have three operations. The second one is reserved. -/
theorem unknown_quarantined_after_transfer :
    ∃ bytes t, t.operations = [.transfer "a" "b" (.viz 1) "", .unknown (.ofTag 46 [7])] ∧
      (UnknownOperation.ofTag 46 [7]).name.isSome ∧ SignedTransaction.codec.ofBytes bytes =
        .ok (.unsigned t) ∧ codec.ofBytes bytes = .ok t ∧
      (∃ flaw, t.validate = .error (.invalid flaw)) ∧
      (∃ reason, t.toBytes = .error (.unsupported reason)) ∧
      ∀ calls, (SignedTransaction.unsigned t).after calls = .unsigned t := by
  obtain ⟨hread, hname, hsigned, hrefused⟩ := unknown_quarantined
  have hops : ∀ op ∈ [Operation.transfer "a" "b" (.viz 1) ""], op.IsCanonical := by decide
  simp only [Operation.isCanonical_iff] at hops
  obtain ⟨enc, hwrite, hread⟩ := hread [.transfer "a" "b" (.viz 1) ""]
    (fun op hop => (hops op hop).1) (fun op hop => (hops op hop).2.1)
  obtain rfl : (Operation.writeList [.transfer "a" "b" (.viz 1) ""]).bytes = enc :=
    congrArg Output.bytes hwrite
  obtain ⟨-, hwhole⟩ := hread 1 2 .epoch 3 46 [7] _ (by decide) (by decide)
    (by decide +kernel) (by decide +kernel) rfl
  have hunknown : ∃ op ∈ [Operation.transfer "a" "b" (.viz 1) "", .unknown (.ofTag 46 [7])].flatMap
      Operation.within, op.isUnknown = true := by decide
  obtain ⟨hbody, -⟩ := hsigned _ _ hwhole hunknown
  obtain ⟨-, -, hinvalid, hbytes, hcalls⟩ := hrefused _ _ hbody hunknown
  exact ⟨_, _, rfl, (hname 46 [7] (by decide)).mpr (.inr rfl), hwhole, hbody, hinvalid, hbytes,
    (hcalls _ (.unsigned _) rfl).2.2⟩

end Transaction

end LedgerClient
