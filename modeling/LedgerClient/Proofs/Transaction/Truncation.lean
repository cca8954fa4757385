import LedgerClient.Proofs.Operation.Accepted
import LedgerClient.Proofs.Transaction.Wire

/-!
# Cut-off transactions are recognized

If bytes are read as an operation of a known kind or as a transaction of such operations, every
proper front part of them is reported as truncated: no check of a text, a symbol, a mark or a key
fires before the bytes it would judge are all there, and no front part stands for another value.

A signed transaction is the exception, as its signatures may be missing altogether. The bytes of its
body alone are read as the same body without signatures, and they are the only front part that is
not reported.
-/

namespace LedgerClient

open Wire Wire.Codec Wire.Reader

theorem Signature.codec_gives : Signature.codec.Gives fun _ => True :=
  (gives_vector (by decide)).via fun _ => rfl

namespace Transaction

/-- Operations of known kinds are all read, from bytes that are delimited. -/
theorem delimits_of_runOn_readOperations : ∀ {n : Nat} {bytes rest : Bytes}
    {result : List Operation × Bool}, (readOperations n).runOn bytes = (.ok result, rest) →
    (∀ op ∈ result.1, op.isUnknown = false) → result.2 = true ∧
      ∃ used, bytes = used ++ rest ∧ n ≤ used.length ∧
        Delimits (fun _ => readOperations n) used result := by
  intro n
  induction n with
  | zero =>
    intro bytes rest result hread _
    cases hread
    exact ⟨rfl, [], rfl, Nat.le_refl _, .pure _⟩
  | succ n ih =>
    intro bytes rest result hread hknown
    obtain ⟨op, mid, hop, hrun⟩ := exists_of_runOn_bind hread
    split at hrun
    · rename_i hunknown
      cases hrun
      rw [hknown op List.mem_cons_self] at hunknown
      cases hunknown
    · rename_i hop'
      obtain ⟨others, hothers, rfl⟩ := runOn_bind_pure hrun
      obtain ⟨hknown', hothers'⟩ := List.forall_mem_cons.mp hknown
      obtain ⟨hcomplete, used', rfl, hle, hused'⟩ := ih hothers hothers'
      rcases Operation.givesKnown_codec_read hop with ⟨-, own, used, -, rfl, hpos, hused⟩ | ⟨h, -⟩
      · refine ⟨hcomplete, used ++ used', by rw [List.append_assoc], ?_,
          hused.delimits.remaining_bind.bind ?_⟩
        · rw [List.length_append]
          omega
        · simp only [hknown']
          exact hused'.map fun p => (op :: p.1, p.2)
      · exact absurd h hop'

/-- A transaction of known operations is read from bytes that are delimited. -/
theorem delimits_of_runOn_read {bytes rest : Bytes} {t : Transaction}
    (hread : codec.read.runOn bytes = (.ok t, rest))
    (hknown : ∀ op ∈ t.operations, op.isUnknown = false) :
    ∃ used, bytes = used ++ rest ∧ Delimits (fun _ => codec.read) used t := by
  obtain ⟨number, mid, hnumber, hread⟩ := exists_of_runOn_bind hread
  obtain ⟨mark, mid', hmark, hread⟩ := exists_of_runOn_bind hread
  obtain ⟨time, mid'', htime, hread⟩ := exists_of_runOn_bind hread
  obtain ⟨n, mid₃, hcount, hread⟩ := exists_of_runOn_bind hread
  obtain ⟨⟨ops, complete⟩, mid₄, hops, hread⟩ := exists_of_runOn_bind hread
  obtain ⟨exts, hexts, rfl⟩ : ∃ exts,
      (if complete then Extension.codec.list.read else pure []).runOn mid₄ = (.ok exts, rest) ∧
        ⟨number, mark, time, ops, exts⟩ = t := by
    cases complete <;> exact runOn_bind_pure hread
  obtain ⟨-, _, used, -, rfl, -, hused⟩ := gives_u16 hnumber
  obtain ⟨-, _, used', -, rfl, -, hused'⟩ := gives_u32 hmark
  obtain ⟨-, _, used'', -, rfl, -, hused''⟩ := Timestamp.codec_gives htime
  obtain ⟨-, used₃, rfl, -, hused₃⟩ := encodes_of_runOn_count hcount
  obtain ⟨hcomplete, used₄, rfl, hle, hused₄⟩ := delimits_of_runOn_readOperations hops hknown
  obtain rfl : complete = true := hcomplete
  obtain ⟨-, _, used₅, -, rfl, -, hused₅⟩ := Extension.codec_gives.list hexts
  refine ⟨used ++ (used' ++ (used'' ++ (used₃ ++ (used₄ ++ used₅)))), by simp, ?_⟩
  refine hused.delimits.bind (hused'.delimits.bind (hused''.delimits.bind
    (hused₃.delimits.count_bind (hused₄.bind (hused₅.delimits.map _)) ?_)))
  rw [List.length_append]
  omega

end Transaction

namespace SignedTransaction

/-- Behind the body nothing stands for no signatures. -/
theorem runOn_read_body {body : Bytes} {t : Transaction} (h : Transaction.codec.read.Takes body t) :
    codec.read.runOn body = (.ok (.unsigned t), []) := by
  have hbody : Transaction.codec.read.runOn body = (.ok t, []) := by simpa using h []
  exact runOn_bind_of_ok hbody

/-- Behind the body anything else must be a list of signatures. -/
theorem runOn_read_append {body mid : Bytes} {t : Transaction}
    (h : Transaction.codec.read.Takes body t) (hmid : mid ≠ []) :
    codec.read.runOn (body ++ mid) =
      (Signature.codec.list.read >>= fun sigs => pure (ofParts t sigs)).runOn mid := by
  have hmore : ¬mid.length = 0 := fun hzero => hmid (List.length_eq_zero_iff.mp hzero)
  have hremaining : remaining.runOn mid = (.ok mid.length, mid) := rfl
  exact (runOn_bind_of_ok (h mid)).trans <| (runOn_bind_of_ok hremaining).trans <| by
    rw [if_neg hmore]

end SignedTransaction

/-- **Truncation.** A proper front part of the bytes of an operation of a known kind, or of a
transaction of such operations, is truncated, and so is a proper front part of the bytes of a signed
transaction unless it is exactly the body, which is read as the same body without signatures. -/
theorem truncation_detected :
    (∀ bytes op, Operation.codec.ofBytes bytes = .ok op → op.isUnknown = false →
      ∀ front back, bytes = front ++ back → back ≠ [] →
        IsTruncated (Operation.codec.ofBytes front)) ∧
    (∀ bytes t, Transaction.codec.ofBytes bytes = .ok t →
      (∀ op ∈ t.operations, op.isUnknown = false) →
      ∀ front back, bytes = front ++ back → back ≠ [] →
        IsTruncated (Transaction.codec.ofBytes front)) ∧
    (∀ bytes s, SignedTransaction.codec.ofBytes bytes = .ok s →
      (∀ op ∈ s.body.operations, op.isUnknown = false) →
      ∃ body tail, bytes = body ++ tail ∧ Transaction.codec.ofBytes body = .ok s.body ∧
        SignedTransaction.codec.ofBytes body = .ok (.unsigned s.body) ∧
        ∀ front back, bytes = front ++ back → back ≠ [] → front ≠ body →
          IsTruncated (SignedTransaction.codec.ofBytes front)) := by
  refine ⟨fun bytes op hread hknown front back hcut hback => ?_,
    fun bytes t hread hknown front back hcut hback => ?_, fun bytes s hread hknown => ?_⟩
  · obtain ⟨-, own, -, hencodes⟩ := Operation.encodes_of_ofBytes hread hknown
    exact hencodes.delimits.remaining_bind.isTruncated_readAll hcut hback
  · obtain ⟨used, hused, hdelimits⟩ :=
      Transaction.delimits_of_runOn_read (runOn_of_readAll hread) hknown
    rw [List.append_nil] at hused
    subst hused
    exact hdelimits.isTruncated_readAll hcut hback
  · obtain ⟨t, tail, hbody, hrun⟩ := exists_of_runOn_bind (runOn_of_readAll hread)
    obtain rfl : t = s.body := by
      obtain ⟨left, mid, -, hrun⟩ := exists_of_runOn_bind hrun
      split at hrun <;> obtain ⟨sigs, -, rfl⟩ := runOn_bind_pure hrun <;> rfl
    obtain ⟨body, rfl, hdelimits⟩ := Transaction.delimits_of_runOn_read hbody hknown
    have htakes : Transaction.codec.read.Takes body s.body := hdelimits.takes (Nat.le_refl _)
    refine ⟨body, tail, rfl, htakes.readAll, ?_, fun front back hcut hback hbody' => ?_⟩
    · rw [ofBytes, readAll, runOn_bind_of_ok (SignedTransaction.runOn_read_body htakes)]
      rfl
    · rcases exists_of_append_eq_append hcut with ⟨mid, rfl, rfl⟩ | ⟨mid, hmid, hbody''⟩
      · -- The body is there and the signatures are cut.
        have hmid : mid ≠ [] := by
          rintro rfl
          exact hbody' (List.append_nil body)
        have hmore : mid ++ back ≠ [] := List.append_ne_nil_of_left_ne_nil hmid _
        have hsigs := runOn_of_readAll hread
        rw [SignedTransaction.runOn_read_append htakes hmore] at hsigs
        obtain ⟨sigs, hsigs, -⟩ := runOn_bind_pure hsigs
        obtain ⟨-, own, used, -, hused, -, hencodes⟩ := Signature.codec_gives.list hsigs
        rw [List.append_nil] at hused
        refine isTruncated_runOn_bind _ ?_
        rw [SignedTransaction.runOn_read_append htakes hmid]
        exact isTruncated_runOn_bind _
          (hencodes.delimits.truncated hused.symm hback (Nat.le_refl _))
      · -- The body is cut.
        exact isTruncated_runOn_bind _ (isTruncated_runOn_bind _
          (hdelimits.truncated hbody'' hmid (Nat.le_refl _)))

/-- A transfer of nothing. -/
def transferBytes : Bytes :=
  [2, 1, 0x61, 1, 0x62, 0, 0, 0, 0, 0, 0, 0, 0, 3, 0x56, 0x49, 0x5a, 0, 0, 0, 0, 0]

/-- A transaction of this transfer. -/
def transferBody : Bytes :=
  [0, 0, 0, 0, 0, 0, 0, 0, 0, 0, 1] ++ transferBytes ++ [0]

theorem truncation_detected_transferBody :
    IsTruncated (Operation.codec.ofBytes (transferBytes.take 3)) ∧
    IsTruncated (Transaction.codec.ofBytes (transferBody.take 30)) ∧
    IsTruncated (SignedTransaction.codec.ofBytes (transferBody.take 30)) := by
  let op : Operation := .transfer "a" "b" ⟨0, .viz⟩ ""
  have hop : Operation.codec.ofBytes transferBytes = .ok op := rfl
  have htransaction : Transaction.codec.ofBytes transferBody = .ok (.ofOperations [op]) := rfl
  have hsigned : SignedTransaction.codec.ofBytes (transferBody ++ [0]) =
      .ok (.unsigned (.ofOperations [op])) := rfl
  have hknown : ∀ o ∈ (Transaction.ofOperations [op]).operations, o.isUnknown = false := by
    simp [Transaction.ofOperations, op, Operation.transfer, Operation.isUnknown]
  obtain ⟨hop', htransaction', hsigned'⟩ := truncation_detected
  obtain ⟨body, tail, hbytes, hbody, -, hfronts⟩ := hsigned' _ _ hsigned hknown
  refine ⟨hop' _ _ hop rfl _ (transferBytes.drop 3) (by decide) (by decide),
    htransaction' _ _ htransaction hknown _ (transferBody.drop 30) (by decide) (by decide),
    hfronts _ (transferBody.drop 30 ++ [0]) (by decide) (by decide) ?_⟩
  -- The body is no shorter, because its own front parts are truncated.
  rintro rfl
  obtain ⟨needed, left, hresult, -⟩ := htransaction' _ _ htransaction hknown (transferBody.take 30)
    (transferBody.drop 30) (by decide) (by decide)
  rw [hresult] at hbody
  cases hbody

end LedgerClient
