import LedgerClient.Proofs.Transaction.Effect
import LedgerClient.Proofs.Transaction.Wire

/-!
# The states of a signed transaction

A signed transaction is changed by three calls only: `bind`, `sign` and `cosign`, in any order, with
any chains and keys, and each of them may fail. Two things are shown of them:

* `Extends s s'` says what calls can make of a state: the body stays, signatures are only added,
  each over the digest that is kept, and a binding stays and holds the digest of a valid body. One
  call does this (`extends_step`), and so do any calls in a row (`extends_after`).
* `ObeysRules` says what the next call adds to a state and what a refused or failed one leaves.
  Every state obeys these rules.

A run starts from a transaction as it is made or read, which is bound to no chain.
-/

namespace LedgerClient

namespace SignedTransaction

/-! ### Calls -/

/-- A call that may change a signed transaction. -/
inductive Call
  /-- Binds it to a chain. -/
  | bind (chain : ChainId)
  /-- Binds it to a chain and signs it. -/
  | sign (key : PrivateKey) (chain : ChainId)
  /-- Signs it for the chain that it is bound to. -/
  | cosign (key : PrivateKey)

/-- What a call answers if it succeeds. -/
def Call.Answer : Call → Type
  | bind _ => Digest
  | sign _ _ | cosign _ => Signature

/-- The step that a call takes. -/
def Call.step : (call : Call) → Step call.Answer
  | bind chain => SignedTransaction.bind chain
  | sign key chain => SignedTransaction.sign key chain
  | cosign key => SignedTransaction.cosign key

/-- The state after some calls, whether they succeed or fail. -/
def after (s : SignedTransaction) : List Call → SignedTransaction
  | [] => s
  | call :: calls => after (run call.step s).2 calls

/-- What calls can make of a state: signatures over the digest that is kept are added, and the
transaction may be bound to the digest for a chain, for good. -/
structure Extends (s s' : SignedTransaction) : Prop where
  /-- The body is the same. -/
  body_eq : s'.body = s.body
  /-- The signatures that were added were made over the digest that is kept. -/
  signatures : ∃ made, s'.signatures = s.signatures ++ made ∧ ∀ signature ∈ made,
    ∃ b key, s'.binding = some b ∧ PrivateKey.sign key b.digest = .ok signature
  /-- A binding stays. -/
  keeps : ∀ b, s.binding = some b → s'.binding = some b
  /-- A binding that was not there holds the digest of the checked body. -/
  sound : ∀ b, s'.binding = some b →
    s.binding = some b ∨ s.body.checkedDigest b.chain = .ok b.digest

namespace Extends

variable {s s' s'' : SignedTransaction}

protected theorem refl (s : SignedTransaction) : Extends s s where
  body_eq := rfl
  signatures := ⟨[], (List.append_nil _).symm, nofun⟩
  keeps _ h := h
  sound _ h := .inl h

protected theorem trans (h : Extends s s') (h' : Extends s' s'') : Extends s s'' where
  body_eq := h'.body_eq.trans h.body_eq
  signatures := by
    obtain ⟨made, hmade, hsigned⟩ := h.signatures
    obtain ⟨made', hmade', hsigned'⟩ := h'.signatures
    refine ⟨made ++ made', by rw [hmade', hmade, List.append_assoc], fun signature hmem => ?_⟩
    rcases List.mem_append.mp hmem with hmem | hmem
    · obtain ⟨b, key, hb, hkey⟩ := hsigned signature hmem
      exact ⟨b, key, h'.keeps b hb, hkey⟩
    · exact hsigned' signature hmem
  keeps b hb := h'.keeps b (h.keeps b hb)
  sound b hb := by
    rcases h'.sound b hb with hb | hd
    · exact h.sound b hb
    · exact .inr (h.body_eq ▸ hd)

end Extends

theorem BindEffect.extends {chain : ChainId} {s : SignedTransaction}
    {r : Except TransactionFault Digest × SignedTransaction} (h : BindEffect chain s r) :
    Extends s r.2 := by
  cases h with
  | again | refused | failed => exact .refl s
  | first d hunbound hdigest =>
    refine ⟨rfl, ⟨[], (List.append_nil _).symm, nofun⟩, fun b hb => ?_, fun b hb => .inr ?_⟩
    · rw [hunbound] at hb
      cases hb
    · cases hb
      exact hdigest

theorem CosignEffect.extends {key : PrivateKey} {s : SignedTransaction}
    {r : Except TransactionFault Signature × SignedTransaction} (h : CosignEffect key s r) :
    Extends s r.2 := by
  cases h with
  | refused | failed => exact .refl s
  | signed b signature hbound hmade =>
    refine ⟨rfl, ⟨[signature], rfl, fun x hx => ?_⟩, fun _ hb => hb, fun _ hb => .inl hb⟩
    rw [List.mem_singleton.mp hx]
    exact ⟨b, key, hbound, hmade⟩

theorem extends_sign (key : PrivateKey) (chain : ChainId) (s : SignedTransaction) :
    Extends s (run (sign key chain) s).2 := by
  -- A fault of the binding ends the call; else the key signs in the state that it left.
  rcases hrun : run (bind chain) s with ⟨fault | d, s'⟩
  · rw [run_sign_of_error hrun]
    exact (bindEffect_of_run hrun).extends
  · rw [run_sign_of_ok hrun]
    exact (bindEffect_of_run hrun).extends.trans (cosignEffect_run key s').extends

/-- **A call.** Whatever a call answers, it only adds to the state. -/
theorem extends_step (call : Call) (s : SignedTransaction) : Extends s (run call.step s).2 := by
  cases call with
  | bind chain => exact (bindEffect_run chain s).extends
  | sign key chain => exact extends_sign key chain s
  | cosign key => exact (cosignEffect_run key s).extends

/-- **A run.** So do any calls in a row. -/
theorem extends_after (s : SignedTransaction) (calls : List Call) : Extends s (s.after calls) := by
  induction calls generalizing s with
  | nil => exact .refl s
  | cons call calls ih => exact (extends_step call s).trans (ih _)

/-! ### What a call adds and what it leaves -/

/-- What the calls in a state add to it if they succeed, and what they leave if they are refused or
fail. -/
structure ObeysRules (s : SignedTransaction) : Prop where
  /-- A first binding succeeds if the body passes the checks and has a digest, which is kept. -/
  first_ok : s.binding = none → ∀ chain d, s.body.checkedDigest chain = .ok d →
    run (bind chain) s = (.ok d, { s with binding := some ⟨chain, d⟩ })
  /-- Binding again to the same chain answers with the digest that is kept. -/
  again_ok : ∀ b, s.binding = some b → run (bind b.chain) s = (.ok b.digest, s)
  /-- Cosigning succeeds if the key signs the digest that is kept. -/
  cosign_made : ∀ b, s.binding = some b →
    ∀ key signature, PrivateKey.sign key b.digest = .ok signature →
      run (cosign key) s = (.ok signature, { s with signatures := s.signatures ++ [signature] })
  /-- A first signing succeeds if the body passes the checks and the key signs its digest; both the
  digest and the signature are kept. -/
  sign_first_made : s.binding = none → ∀ chain d, s.body.checkedDigest chain = .ok d →
    ∀ key signature, PrivateKey.sign key d = .ok signature → run (sign key chain) s =
      (.ok signature,
        { s with binding := some ⟨chain, d⟩, signatures := s.signatures ++ [signature] })
  /-- Signing again for the same chain succeeds if the key signs the digest that is kept. -/
  sign_again_made : ∀ b, s.binding = some b →
    ∀ key signature, PrivateKey.sign key b.digest = .ok signature → run (sign key b.chain) s =
      (.ok signature, { s with signatures := s.signatures ++ [signature] })
  /-- Signing adds one signature, over the digest that is then kept for the chain. -/
  sign_ok : ∀ key chain signature s', run (sign key chain) s = (.ok signature, s') →
    s'.signatures = s.signatures ++ [signature] ∧
      ∃ d, s'.binding = some ⟨chain, d⟩ ∧ key.sign d = .ok signature
  /-- Cosigning adds one signature, over the digest that is kept, and keeps the binding. -/
  cosign_ok : ∀ key signature s', run (cosign key) s = (.ok signature, s') →
    s'.signatures = s.signatures ++ [signature] ∧
      ∃ b, s.binding = some b ∧ s'.binding = some b ∧ key.sign b.digest = .ok signature
  /-- Binding adds no signature. -/
  bind_adds_none : ∀ chain, (run (bind chain) s).2.signatures = s.signatures
  /-- A call that fails adds no signature. -/
  failed_adds_none : ∀ (call : Call) fault s', run call.step s = (.error fault, s') →
    s'.signatures = s.signatures
  /-- For a chain other than the one bound to, binding and signing are refused. -/
  other_chain : ∀ b, s.binding = some b → ∀ chain, chain ≠ b.chain →
    run (bind chain) s = (.error (.invalid (.bound b.chain)), s) ∧
      ∀ key, run (sign key chain) s = (.error (.invalid (.bound b.chain)), s)
  /-- Before a binding, cosigning is refused. -/
  cosign_unbound : s.binding = none → ∀ key, run (cosign key) s = (.error .notSigned, s)
  /-- A first binding whose checks fail, or that finds no wire form, leaves nothing behind. -/
  first_failed : s.binding = none → ∀ chain fault, s.body.checkedDigest chain = .error fault →
    run (bind chain) s = (.error fault, s) ∧ ∀ key, run (sign key chain) s = (.error fault, s)
  /-- A failed call leaves nothing behind, or it was the first signing, the binding succeeded and
  the key failed: then it leaves the binding. -/
  failed_trace : ∀ (call : Call) fault s', run call.step s = (.error fault, s') → s' = s ∨
    ∃ key chain d keyFault, call = .sign key chain ∧ s.binding = none ∧
      run (bind chain) s = (.ok d, s') ∧ key.sign d = .error keyFault ∧
      fault = .value (.signature keyFault) ∧ s' = { s with binding := some ⟨chain, d⟩ }

/-- **Every state obeys the rules.** -/
theorem obeysRules (s : SignedTransaction) : s.ObeysRules where
  first_ok hunbound chain d hdigest := run_bind_first hunbound hdigest
  again_ok b hbound := run_bind_again hbound
  cosign_made b hbound key signature hmade := run_cosign_signed hbound hmade
  sign_first_made hunbound chain d hdigest key signature hmade := by
    rw [run_sign_of_ok (run_bind_first hunbound hdigest)]
    exact run_cosign_signed rfl hmade
  sign_again_made b hbound key signature hmade := by
    rw [run_sign_of_ok (run_bind_again hbound)]
    exact run_cosign_signed hbound hmade
  sign_ok _ _ _ _ h := run_sign_ok h
  cosign_ok key signature s' h := by
    obtain ⟨hadded, hkept, b, hbound, hmade⟩ := run_cosign_ok h
    exact ⟨hadded, b, hbound, hkept.trans hbound, hmade⟩
  bind_adds_none chain := by
    rcases hrun : run (bind chain) s with ⟨fault | d, s'⟩
    · rw [run_bind_error hrun]
    · exact (run_bind_ok hrun).2
  failed_adds_none call fault s' h := by
    cases call with
    | bind chain => rw [run_bind_error h]
    | cosign key => rw [(run_cosign_error h).1]
    | sign key chain =>
      rcases run_sign_error h with rfl | ⟨_, _, _, _, _, _, rfl⟩ <;> rfl
  other_chain b hbound chain hchain :=
    have hrefused := run_bind_other hbound hchain
    ⟨hrefused, run_sign_of_error hrefused⟩
  cosign_unbound hunbound key := run_cosign_unbound hunbound
  first_failed hunbound chain fault hfault :=
    have hfailed := run_bind_first_failed hunbound hfault
    ⟨hfailed, run_sign_of_error hfailed⟩
  failed_trace call fault s' h := by
    cases call with
    | bind chain => exact .inl (run_bind_error h)
    | cosign key => exact .inl (run_cosign_error h).1
    | sign key chain =>
      rcases run_sign_error h with hsame | ⟨d, keyFault, hunbound, hbind, hkey, hfault, hstate⟩
      · exact .inl hsame
      · exact .inr ⟨key, chain, d, keyFault, rfl, hunbound, hbind, hkey, hfault, hstate⟩

/-! ### Runs -/

/-- A signed transaction as it is made or read. -/
inductive IsFresh : SignedTransaction → Prop
  /-- It has no signatures. -/
  | unsigned (body : Transaction) : IsFresh (.unsigned body)
  /-- It has signatures made elsewhere. -/
  | ofParts (body : Transaction) (signatures : List Signature) : IsFresh (.ofParts body signatures)
  /-- It was read from JSON. -/
  | ofJson {v : Json} {s : SignedTransaction} (h : form.read v = .ok s) : IsFresh s
  /-- It was read from the wire. -/
  | ofWire {bytes : Bytes} {s : SignedTransaction} (h : codec.ofBytes bytes = .ok s) : IsFresh s

theorem binding_of_ofMembers {ms : List (String × Json)} {s : SignedTransaction}
    (h : ofMembers ms = .ok s) : s.binding = none := by
  simp only [ofMembers, Bind.bind, Except.bind] at h
  split at h
  · cases h
  · split at h <;> cases h
    rfl

theorem binding_of_read {bytes rest : Bytes} {s : SignedTransaction}
    (h : codec.read.runOn bytes = (.ok s, rest)) : s.binding = none := by
  obtain ⟨body, _, -, h⟩ := Wire.Reader.exists_of_runOn_bind h
  obtain ⟨left, _, -, h⟩ := Wire.Reader.exists_of_runOn_bind h
  split at h <;>
  · obtain ⟨signatures, _, -, h⟩ := Wire.Reader.exists_of_runOn_bind h
    cases h
    rfl

theorem IsFresh.binding_eq_none {s : SignedTransaction} (h : s.IsFresh) : s.binding = none := by
  cases h with
  | unsigned body => rfl
  | ofParts body signatures => rfl
  | @ofJson v _ h =>
    cases v with
    | obj ms => exact binding_of_ofMembers h
    | _ => cases h
  | ofWire h =>
    obtain ⟨rest, hread⟩ := Wire.Reader.exists_of_readAll h
    exact binding_of_read hread

/-- **Signing.** Start from a transaction as it is made or read, and let any calls follow, of which
any may fail. Then the body is still that of the beginning, and the signatures of the beginning come
before those that were added, each made over the digest that is kept. A binding is for good: the
body is valid, and the digest is its digest for the chain. The state obeys the rules for the next
call. -/
theorem signing_invariants {s₀ s : SignedTransaction} (h₀ : s₀.IsFresh) (calls : List Call)
    (hs : s₀.after calls = s) :
    s.body = s₀.body ∧
    (∃ made, s.signatures = s₀.signatures ++ made ∧ ∀ signature ∈ made,
      ∃ b key, s.binding = some b ∧ PrivateKey.sign key b.digest = .ok signature) ∧
    (∀ b, s.binding = some b →
      (∀ more, (s.after more).binding = some b) ∧
      s₀.body.validate = .ok () ∧ s₀.body.digest b.chain = .ok b.digest) ∧
    s.ObeysRules := by
  subst hs
  have hextends := extends_after s₀ calls
  refine ⟨hextends.body_eq, hextends.signatures, fun b hb => ⟨fun more => ?_, ?_⟩, obeysRules _⟩
  · exact (extends_after _ more).keeps b hb
  · rcases hextends.sound b hb with hbound | hdigest
    · rw [h₀.binding_eq_none] at hbound
      cases hbound
    · exact Transaction.checkedDigest_eq_ok_iff.mp hdigest

/-- A transfer that is bound to the main network stays so when another chain is asked for. -/
theorem signing_invariants_refused_chain :
    ∃ d, (Transaction.ofOperations [.transfer "a" "b" (.viz 1) ""]).digest .mainnet = .ok d ∧
      ((unsigned (.ofOperations [.transfer "a" "b" (.viz 1) ""])).after
        [.bind .mainnet, .sign ⟨1, by decide, by decide⟩ .zero]).binding = some ⟨.mainnet, d⟩ := by
  have ht : (Transaction.ofOperations [.transfer "a" "b" (.viz 1) ""]).IsCanonical :=
    ⟨by decide, by decide, by decide, by decide⟩
  obtain ⟨bytes, hbytes, -⟩ := (Transaction.codec_carries ht).toBytes
  have hdigest : (Transaction.ofOperations [.transfer "a" "b" (.viz 1) ""]).digest .mainnet =
      .ok (.of (ChainId.mainnet.toBytes ++ bytes)) := by
    rw [Transaction.digest, Transaction.toBytes, hbytes]
  have hbound := run_bind_first (s := unsigned _) rfl
    (Transaction.checkedDigest_eq_ok_iff.mpr ⟨rfl, hdigest⟩)
  obtain ⟨-, -, hbinding, -⟩ := signing_invariants (.unsigned _) [.bind .mainnet] rfl
  refine ⟨_, hdigest, (hbinding _ ?_).1 [.sign ⟨1, by decide, by decide⟩ .zero]⟩
  exact congrArg (fun r => r.2.binding) hbound

end SignedTransaction

end LedgerClient
