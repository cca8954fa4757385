import LedgerClient.Proofs.Wire.Reader
import LedgerClient.Transaction.Signed

/-!
# What binding, signing and cosigning do

`BindEffect` and `CosignEffect` list, case by case, the results of binding and of cosigning and the
states that they leave; signing is one after the other. All else that is said about these calls is
read off the two lists, so that only `bindEffect_run`, `cosignEffect_run` and `run_sign` look into
the calls themselves.
-/

namespace LedgerClient

/-- The digest for a chain of a transaction that passes the checks. -/
def Transaction.checkedDigest (t : Transaction) (chain : ChainId) :
    Except TransactionFault Digest := do
  t.validate
  t.digest chain

namespace Transaction

theorem checkedDigest_of_invalid {t : Transaction} {chain : ChainId} {fault : TransactionFault}
    (h : t.validate = .error fault) : t.checkedDigest chain = .error fault := by
  rw [checkedDigest, h]
  rfl

theorem checkedDigest_of_valid {t : Transaction} (h : t.validate = .ok ()) (chain : ChainId) :
    t.checkedDigest chain = t.digest chain := by
  rw [checkedDigest, h]
  rfl

theorem checkedDigest_eq_ok_iff {t : Transaction} {chain : ChainId} {d : Digest} :
    t.checkedDigest chain = .ok d ↔ t.validate = .ok () ∧ t.digest chain = .ok d := by
  cases h : t.validate with
  | error fault => simp [checkedDigest_of_invalid h]
  | ok _ => simp [checkedDigest_of_valid h]

end Transaction

namespace SignedTransaction

/-! ### Running steps -/

section Run

variable {α β : Type}

/-- A step runs its first half and, if that succeeds, the second half on the state it left. -/
theorem run_then (step : Step α) (f : α → Step β) (s : SignedTransaction) :
    run (step >>= f) s =
      match run step s with
      | (.ok x, s') => run (f x) s'
      | (.error fault, s') => (.error fault, s') := by
  show (ExceptT.bindCont f (run step s).1).run (run step s).2 = _
  rcases run step s with ⟨_ | _, _⟩ <;> rfl

theorem run_set_then (s' : SignedTransaction) (f : PUnit → Step β) (s : SignedTransaction) :
    run (set s' >>= f) s = run (f ⟨⟩) s' := rfl

/-- Discarding the answer of a step keeps its fault and the state after it. -/
theorem run_discard (step : Step α) (s : SignedTransaction) :
    run (discard step) s = ((run step s).1.map fun _ => ⟨⟩, (run step s).2) := by
  show run ((fun _ => PUnit.unit) <$> step) s = _
  rw [map_eq_pure_bind, run_then]
  rcases run step s with ⟨_ | _, _⟩ <;> rfl

theorem run_get_then (f : SignedTransaction → Step β) (s : SignedTransaction) :
    run (get >>= f) s = run (f s) s := rfl

theorem run_liftExcept (r : Except TransactionFault α) (s : SignedTransaction) :
    run (bind.liftExcept r) s = (r, s) := by
  cases r <;> rfl

end Run

/-! ### What a call does -/

/-- What binding to a chain can do: the results and the states after it. -/
inductive BindEffect (chain : ChainId) (s : SignedTransaction) :
    Except TransactionFault Digest × SignedTransaction → Prop
  /-- The transaction is bound to the chain already. -/
  | again (b : Binding) (bound : s.binding = some b) (same : b.chain = chain) :
      BindEffect chain s (.ok b.digest, s)
  /-- The transaction is bound to another chain. -/
  | refused (b : Binding) (bound : s.binding = some b) (other : b.chain ≠ chain) :
      BindEffect chain s (.error (.invalid (.bound b.chain)), s)
  /-- The transaction is bound for the first time. -/
  | first (d : Digest) (unbound : s.binding = none) (digest : s.body.checkedDigest chain = .ok d) :
      BindEffect chain s (.ok d, { s with binding := some ⟨chain, d⟩ })
  /-- The transaction cannot be bound. -/
  | failed (fault : TransactionFault) (unbound : s.binding = none)
      (invalid : s.body.checkedDigest chain = .error fault) : BindEffect chain s (.error fault, s)

/-- What cosigning can do: the results and the states after it. -/
inductive CosignEffect (key : PrivateKey) (s : SignedTransaction) :
    Except TransactionFault Signature × SignedTransaction → Prop
  /-- There is no digest to sign. -/
  | refused (unbound : s.binding = none) : CosignEffect key s (.error .notSigned, s)
  /-- The key signs the digest that is kept. -/
  | signed (b : Binding) (signature : Signature) (bound : s.binding = some b)
      (made : key.sign b.digest = .ok signature) :
      CosignEffect key s (.ok signature, { s with signatures := s.signatures ++ [signature] })
  /-- The key cannot sign the digest. -/
  | failed (b : Binding) (fault : SignatureFault) (bound : s.binding = some b)
      (unmade : key.sign b.digest = .error fault) :
      CosignEffect key s (.error (.value (.signature fault)), s)

theorem bindEffect_run (chain : ChainId) (s : SignedTransaction) :
    BindEffect chain s (run (bind chain) s) := by
  rw [bind, run_get_then]
  cases hbinding : s.binding with
  | some b =>
    by_cases hchain : b.chain = chain
    · simp only [hchain, if_true]
      exact .again b hbinding hchain
    · simp only [hchain, if_false]
      exact .refused b hbinding hchain
  | none =>
    simp only [run_then, run_liftExcept]
    cases hvalid : s.body.validate with
    | error fault => exact .failed fault hbinding (Transaction.checkedDigest_of_invalid hvalid)
    | ok _ =>
      have hchecked := Transaction.checkedDigest_of_valid hvalid chain
      cases hdigest : s.body.digest chain with
      | error fault => exact .failed fault hbinding (hchecked.trans hdigest)
      | ok d => exact .first d hbinding (hchecked.trans hdigest)

theorem cosignEffect_run (key : PrivateKey) (s : SignedTransaction) :
    CosignEffect key s (run (cosign key) s) := by
  -- What the key answers is a variable from here on, so that no step below computes a signature.
  obtain ⟨make, hmake⟩ : ∃ make, key.sign = make := ⟨_, rfl⟩
  rw [cosign, run_get_then, hmake]
  cases hbinding : s.binding with
  | none => exact .refused hbinding
  | some b =>
    cases hsign : make b.digest with
    | error fault =>
      have hunmade : key.sign b.digest = .error fault := (congrFun hmake b.digest).trans hsign
      simp only [hsign]
      exact .failed b fault hbinding hunmade
    | ok signature =>
      have hmade : key.sign b.digest = .ok signature := (congrFun hmake b.digest).trans hsign
      simp only [hsign, run_set_then, ← hbinding]
      exact .signed b signature hbinding hmade

/-- Signing is binding and, if that succeeds, cosigning. -/
theorem run_sign (key : PrivateKey) (chain : ChainId) (s : SignedTransaction) :
    run (sign key chain) s =
      match run (bind chain) s with
      | (.ok _, s') => run (cosign key) s'
      | (.error fault, s') => (.error fault, s') := by
  rw [sign, run_then, run_discard]
  rcases run (bind chain) s with ⟨_ | _, _⟩ <;> rfl

theorem run_sign_of_ok {chain : ChainId} {s s' : SignedTransaction} {d : Digest}
    (h : run (bind chain) s = (.ok d, s')) (key : PrivateKey) :
    run (sign key chain) s = run (cosign key) s' := by
  rw [run_sign, h]

theorem run_sign_of_error {chain : ChainId} {s s' : SignedTransaction} {fault : TransactionFault}
    (h : run (bind chain) s = (.error fault, s')) (key : PrivateKey) :
    run (sign key chain) s = (.error fault, s') := by
  rw [run_sign, h]

/-- The effect of binding, when its result is known. -/
theorem bindEffect_of_run {chain : ChainId} {s : SignedTransaction}
    {r : Except TransactionFault Digest × SignedTransaction} (h : run (bind chain) s = r) :
    BindEffect chain s r :=
  h ▸ bindEffect_run chain s

/-- The effect of cosigning, when its result is known. -/
theorem cosignEffect_of_run {key : PrivateKey} {s : SignedTransaction}
    {r : Except TransactionFault Signature × SignedTransaction} (h : run (cosign key) s = r) :
    CosignEffect key s r :=
  h ▸ cosignEffect_run key s

/-! ### What a result implies -/

section Result

variable {s s' : SignedTransaction} {chain : ChainId} {key : PrivateKey}

/-- After a successful binding the digest is kept for the chain, and nothing was signed. -/
theorem run_bind_ok {d : Digest} (h : run (bind chain) s = (.ok d, s')) :
    s'.binding = some ⟨chain, d⟩ ∧ s'.signatures = s.signatures := by
  cases bindEffect_of_run h with
  | again b hbound hchain => exact ⟨by rw [hbound, ← hchain], rfl⟩
  | first => exact ⟨rfl, rfl⟩

/-- A binding that fails leaves nothing behind. -/
theorem run_bind_error {fault : TransactionFault} (h : run (bind chain) s = (.error fault, s')) :
    s' = s := by
  cases bindEffect_of_run h <;> rfl

theorem run_bind_other {b : Binding} (hbound : s.binding = some b) (hchain : chain ≠ b.chain) :
    run (bind chain) s = (.error (.invalid (.bound b.chain)), s) := by
  rcases hrun : run (bind chain) s with ⟨r, s'⟩
  cases bindEffect_of_run hrun with
  | again b' hbound' hsame =>
    cases hbound.symm.trans hbound'
    exact absurd hsame.symm hchain
  | refused b' hbound' =>
    cases hbound.symm.trans hbound'
    rfl
  | first _ hunbound => exact absurd (hunbound.symm.trans hbound) (by simp)
  | failed _ hunbound => exact absurd (hunbound.symm.trans hbound) (by simp)

/-- A cosignature is made over the digest that is kept, and only it is added. -/
theorem run_cosign_ok {signature : Signature} (h : run (cosign key) s = (.ok signature, s')) :
    s'.signatures = s.signatures ++ [signature] ∧ s'.binding = s.binding ∧
      ∃ b, s.binding = some b ∧ key.sign b.digest = .ok signature := by
  cases cosignEffect_of_run h with
  | signed b _ hbound hmade => exact ⟨rfl, rfl, b, hbound, hmade⟩

/-- A cosigning that fails leaves nothing behind; of a bound transaction, the key fails. -/
theorem run_cosign_error {fault : TransactionFault} (h : run (cosign key) s = (.error fault, s')) :
    s' = s ∧ ∀ b, s.binding = some b →
      ∃ keyFault, key.sign b.digest = .error keyFault ∧ fault = .value (.signature keyFault) := by
  cases cosignEffect_of_run h with
  | refused hunbound => exact ⟨rfl, fun b hb => by simp [hunbound] at hb⟩
  | failed b keyFault hbound hunmade =>
    refine ⟨rfl, fun b' hb' => ⟨keyFault, ?_, rfl⟩⟩
    cases hbound.symm.trans hb'
    exact hunmade

theorem run_bind_again {b : Binding} (hbound : s.binding = some b) :
    run (bind b.chain) s = (.ok b.digest, s) := by
  rcases hrun : run (bind b.chain) s with ⟨r, s'⟩
  cases bindEffect_of_run hrun with
  | again b' hbound' =>
    cases hbound.symm.trans hbound'
    rfl
  | refused b' hbound' hother =>
    cases hbound.symm.trans hbound'
    exact absurd rfl hother
  | first _ hunbound => exact absurd (hunbound.symm.trans hbound) (by simp)
  | failed _ hunbound => exact absurd (hunbound.symm.trans hbound) (by simp)

theorem run_bind_first {d : Digest} (hunbound : s.binding = none)
    (hdigest : s.body.checkedDigest chain = .ok d) :
    run (bind chain) s = (.ok d, { s with binding := some ⟨chain, d⟩ }) := by
  rcases hrun : run (bind chain) s with ⟨r, s'⟩
  cases bindEffect_of_run hrun with
  | again _ hbound => exact absurd (hunbound.symm.trans hbound) (by simp)
  | refused _ hbound => exact absurd (hunbound.symm.trans hbound) (by simp)
  | first d' _ hdigest' =>
    cases hdigest.symm.trans hdigest'
    rfl
  | failed _ _ hfault => exact absurd (hdigest.symm.trans hfault) (by simp)

theorem run_bind_first_failed {fault : TransactionFault} (hunbound : s.binding = none)
    (hfault : s.body.checkedDigest chain = .error fault) :
    run (bind chain) s = (.error fault, s) := by
  rcases hrun : run (bind chain) s with ⟨r, s'⟩
  cases bindEffect_of_run hrun with
  | again _ hbound => exact absurd (hunbound.symm.trans hbound) (by simp)
  | refused _ hbound => exact absurd (hunbound.symm.trans hbound) (by simp)
  | first _ _ hdigest => exact absurd (hfault.symm.trans hdigest) (by simp)
  | failed _ _ hfault' =>
    cases hfault.symm.trans hfault'
    rfl

theorem run_cosign_signed {b : Binding} {signature : Signature} (hbound : s.binding = some b)
    (hmade : key.sign b.digest = .ok signature) :
    run (cosign key) s = (.ok signature, { s with signatures := s.signatures ++ [signature] }) := by
  rcases hrun : run (cosign key) s with ⟨r, s'⟩
  cases cosignEffect_of_run hrun with
  | refused hunbound => exact absurd (hunbound.symm.trans hbound) (by simp)
  | signed b' _ hbound' hmade' =>
    cases hbound.symm.trans hbound'
    cases hmade.symm.trans hmade'
    rfl
  | failed b' _ hbound' hunmade =>
    cases hbound.symm.trans hbound'
    exact absurd (hmade.symm.trans hunmade) (by simp)

theorem run_cosign_unbound (hunbound : s.binding = none) :
    run (cosign key) s = (.error .notSigned, s) := by
  rcases hrun : run (cosign key) s with ⟨r, s'⟩
  cases cosignEffect_of_run hrun with
  | refused => rfl
  | signed _ _ hbound => exact absurd (hunbound.symm.trans hbound) (by simp)
  | failed _ _ hbound => exact absurd (hunbound.symm.trans hbound) (by simp)

/-- A signature is made over the digest that is then kept for the chain, and only it is added. -/
theorem run_sign_ok {signature : Signature} (h : run (sign key chain) s = (.ok signature, s')) :
    s'.signatures = s.signatures ++ [signature] ∧
      ∃ d, s'.binding = some ⟨chain, d⟩ ∧ key.sign d = .ok signature := by
  rcases hrun : run (bind chain) s with ⟨fault | d, mid⟩
  · rw [run_sign_of_error hrun] at h
    cases h
  · rw [run_sign_of_ok hrun] at h
    obtain ⟨hbound, hsame⟩ := run_bind_ok hrun
    obtain ⟨hadded, hkept, b, hb, hmade⟩ := run_cosign_ok h
    cases hbound.symm.trans hb
    exact ⟨by rw [hadded, hsame], d, hkept.trans hbound, hmade⟩

/-- A signing that fails leaves nothing behind, or the first binding of the transaction. -/
theorem run_sign_error {fault : TransactionFault}
    (h : run (sign key chain) s = (.error fault, s')) :
    s' = s ∨ ∃ d keyFault, s.binding = none ∧ run (bind chain) s = (.ok d, s') ∧
      key.sign d = .error keyFault ∧ fault = .value (.signature keyFault) ∧
      s' = { s with binding := some ⟨chain, d⟩ } := by
  rcases hrun : run (bind chain) s with ⟨fault' | d, mid⟩
  · rw [run_sign_of_error hrun] at h
    cases h
    exact .inl (run_bind_error hrun)
  · rw [run_sign_of_ok hrun] at h
    obtain ⟨rfl, hkey⟩ := run_cosign_error h
    cases bindEffect_of_run hrun with
    | again => exact .inl rfl
    | first _ hunbound hdigest =>
      obtain ⟨keyFault, hunmade, hfault⟩ := hkey _ rfl
      exact .inr ⟨d, keyFault, hunbound, rfl, hunmade, hfault, rfl⟩

end Result

end SignedTransaction

end LedgerClient
