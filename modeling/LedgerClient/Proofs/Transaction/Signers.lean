import Mathlib.Data.List.Forall2
import LedgerClient.Client.Basic
import LedgerClient.Proofs.Key.Signing
import LedgerClient.Proofs.Transaction.Signing

/-!
# The signers of a transaction are the keys that signed it

Who signed a transaction is computed from its signatures and a digest: the digest that is kept, if
it is kept for the chain in question, and a fresh one otherwise. `recovered_signers` says that the
short way and the long way agree in every state that calls can reach, and that the answer for the
chain bound to lists the keys of the calls that signed, one for one and in order.

That a signature is recovered to the key that made it is a property of the curve and is assumed of
the keys and the digest in question (`PrivateKey.SignsSoundly`). What is shown is the part that the
calls have in it: each successful one adds one signature of its own key over the one digest, and
failed ones add none.
-/

namespace LedgerClient

namespace SignedTransaction

/-! ### The keys of a run -/

/-- The key of a call that signs. -/
def Call.key? : Call → Option PrivateKey
  | bind _ => none
  | sign key _ | cosign key => some key

/-- The key that a call signs with in a state, unless it fails. -/
def Call.signingKey? (call : Call) (s : SignedTransaction) : Option PrivateKey :=
  match (run call.step s).1 with
  | .ok _ => call.key?
  | .error _ => none

/-- The keys of the calls that sign and succeed, in the order of the calls. -/
def signingKeys (s : SignedTransaction) : List Call → List PrivateKey
  | [] => []
  | call :: calls => (call.signingKey? s).toList ++ signingKeys (run call.step s).2 calls

section Cons

variable {call : Call} {s s' : SignedTransaction}

theorem after_cons {r : Except TransactionFault call.Answer} (h : run call.step s = (r, s'))
    (calls : List Call) : s.after (call :: calls) = s'.after calls := by
  rw [after, h]

theorem signingKeys_cons_of_ok {answer : call.Answer} (h : run call.step s = (.ok answer, s'))
    (calls : List Call) :
    s.signingKeys (call :: calls) = call.key?.toList ++ s'.signingKeys calls := by
  rw [signingKeys, Call.signingKey?, h]

theorem signingKeys_cons_of_error {fault : TransactionFault}
    (h : run call.step s = (.error fault, s')) (calls : List Call) :
    s.signingKeys (call :: calls) = s'.signingKeys calls := by
  rw [signingKeys, Call.signingKey?, h]
  rfl

end Cons

/-- The signatures are those of the keys over a digest, one for one. -/
def MadeBy (d : Digest) (keys : List PrivateKey) (signatures : List Signature) : Prop :=
  List.Forall₂ (fun key signature => PrivateKey.sign key d = .ok signature) keys signatures

/-- **A call.** A call that signs and succeeds adds the signature of its key over the digest that is
then kept. All other calls add none. -/
theorem exists_made_step (call : Call) (s : SignedTransaction) :
    ∃ made, (run call.step s).2.signatures = s.signatures ++ made ∧
      List.Forall₂ (fun key signature => ∃ b, (run call.step s).2.binding = some b ∧
        PrivateKey.sign key b.digest = .ok signature) (call.signingKey? s).toList made := by
  rcases hrun : run call.step s with ⟨fault | answer, s'⟩
  · have hkey : call.signingKey? s = none := by rw [Call.signingKey?, hrun]
    have hsame : s'.signatures = s.signatures := (obeysRules s).failed_adds_none call fault s' hrun
    rw [hkey]
    exact ⟨[], by rw [hsame, List.append_nil], .nil⟩
  · have hkey : call.signingKey? s = call.key? := by rw [Call.signingKey?, hrun]
    rw [hkey]
    cases call with
    | bind chain =>
      obtain ⟨-, hsame⟩ := run_bind_ok hrun
      exact ⟨[], by rw [hsame, List.append_nil], .nil⟩
    | sign key chain =>
      obtain ⟨hadded, d, hbound, hmade⟩ := run_sign_ok hrun
      exact ⟨[answer], hadded, .cons ⟨⟨chain, d⟩, hbound, hmade⟩ .nil⟩
    | cosign key =>
      obtain ⟨hadded, hkept, b, hbound, hmade⟩ := run_cosign_ok hrun
      exact ⟨[answer], hadded, .cons ⟨b, hkept.trans hbound, hmade⟩ .nil⟩

/-- **A run.** If calls leave a transaction bound, the signatures that they added are those of the
keys of the successful calls over the digest that is kept. -/
theorem exists_madeBy_after {b : Binding} : ∀ (calls : List Call) (s : SignedTransaction),
    (s.after calls).binding = some b →
      ∃ made, (s.after calls).signatures = s.signatures ++ made ∧
        MadeBy b.digest (s.signingKeys calls) made := by
  intro calls
  induction calls with
  | nil => exact fun s _ => ⟨[], (List.append_nil _).symm, .nil⟩
  | cons call calls ih =>
    intro s hb
    obtain ⟨added, hadded, hcall⟩ := exists_made_step call s
    obtain ⟨made, hmade, hkeys⟩ := ih (run call.step s).2 hb
    -- A binding stays, so the call signed the digest that is kept in the end.
    have hown : MadeBy b.digest (call.signingKey? s).toList added := by
      refine hcall.imp fun key signature ⟨b', hb', hsigned⟩ => ?_
      have hkept := (extends_after _ calls).keeps b' hb'
      obtain rfl : b' = b := Option.some.inj (hkept.symm.trans hb)
      exact hsigned
    refine ⟨added ++ made, ?_, List.rel_append hown hkeys⟩
    rw [after, hmade, hadded, List.append_assoc]

/-! ### Recovery -/

/-- If the keys sign soundly, they are recovered from their signatures. -/
theorem MadeBy.recoverAll {d : Digest} {keys : List PrivateKey} {signatures : List Signature}
    (h : MadeBy d keys signatures) (hsound : ∀ key ∈ keys, key.SignsSoundly d) :
    SignedTransaction.recoverAll d signatures = .ok (keys.map PrivateKey.publicKey) := by
  induction h with
  | nil => rfl
  | @cons key signature keys signatures hmade _ ih =>
    rw [List.forall_mem_cons] at hsound
    have hkey : signature.recover d = .ok key.publicKey := hsound.1 signature hmade
    rw [SignedTransaction.recoverAll, hkey, ih hsound.2]
    rfl

/-- A digest that is kept is the one for its chain, so it makes no difference to use it. -/
theorem digestFor_eq_digest {s : SignedTransaction}
    (h : ∀ b, s.binding = some b → s.body.digest b.chain = .ok b.digest) (chain : ChainId) :
    s.digestFor chain = s.body.digest chain := by
  rw [digestFor]
  cases hbinding : s.binding with
  | none => rfl
  | some b =>
    -- For another chain than the one bound to, a fresh digest is made in any case.
    by_cases hchain : b.chain = chain
    · rw [Option.filter_some, if_pos (decide_eq_true hchain), ← hchain, h b hbinding]
    · rw [Option.filter_some, if_neg (by simpa using hchain)]

/-- After any calls on a transaction as it is made or read, a digest that is kept is the one for its
chain. -/
theorem digest_of_binding {s₀ : SignedTransaction} (h₀ : s₀.IsFresh) (calls : List Call)
    {b : Binding} (hb : (s₀.after calls).binding = some b) :
    (s₀.after calls).body.digest b.chain = .ok b.digest := by
  have hextends := extends_after s₀ calls
  rw [hextends.body_eq]
  rcases hextends.sound b hb with hbound | hdigest
  · rw [h₀.binding_eq_none] at hbound
    cases hbound
  · exact (Transaction.checkedDigest_eq_ok_iff.mp hdigest).2

theorem signers_eq {s₀ : SignedTransaction} (h₀ : s₀.IsFresh) (calls : List Call)
    (chain : ChainId) : (s₀.after calls).signers chain =
      (s₀.after calls).body.digest chain >>= fun d =>
        recoverAll d (s₀.after calls).signatures := by
  rw [signers, digestFor_eq_digest (fun b hb => digest_of_binding h₀ calls hb)]

end SignedTransaction

/-! ### Clients -/

namespace Client

open SignedTransaction

variable {σ : Type}

theorem run_get_then {α : Type} (f : Client σ → Task σ α) (c : Client σ) :
    run (get >>= f) c = run (f c) c := rfl

theorem run_ofExcept {ε α : Type} (inject : ε → ClientFault) (r : Except ε α) (c : Client σ) :
    run (ofExcept inject r) c = (r.mapError inject, c) := by
  cases r <;> rfl

/-- Signing does not touch the client. -/
theorem run_sign (t : Transaction) (keys : List PrivateKey) (c : Client σ) :
    run (sign t keys) c = (signFor c.config.chain t keys, c) := by
  have hid : ∀ r : Except ClientFault SignedTransaction, r.mapError id = r := by
    intro r
    cases r <;> rfl
  rw [sign, run_get_then, run_ofExcept, hid]

theorem run_signAll_cons {chain : ChainId} {key : PrivateKey} {signature : Signature}
    {s s' : SignedTransaction}
    (h : SignedTransaction.run (SignedTransaction.sign key chain) s = (.ok signature, s'))
    (keys : List PrivateKey) : SignedTransaction.run (signAll chain (key :: keys)) s =
      SignedTransaction.run (signAll chain keys) s' := by
  rw [signAll, run_then, run_discard, h]
  rfl

/-- Signing with each key in turn is a run of calls that all succeed. The first of them binds the
transaction to the chain. -/
theorem run_signAll_ok {chain : ChainId} : ∀ {keys : List PrivateKey} {s s' : SignedTransaction},
    SignedTransaction.run (signAll chain keys) s = (.ok (), s') →
      s' = s.after (keys.map fun key => .sign key chain) ∧
        s.signingKeys (keys.map fun key => .sign key chain) = keys ∧
          (keys ≠ [] → ∃ d, s'.binding = some ⟨chain, d⟩) := by
  intro keys
  induction keys with
  | nil =>
    intro s s' h
    cases h
    exact ⟨rfl, rfl, fun hne => absurd rfl hne⟩
  | cons key keys ih =>
    intro s s' h
    rcases hrun : SignedTransaction.run (SignedTransaction.sign key chain) s with ⟨fault | x, mid⟩
    · rw [signAll, run_then, run_discard, hrun] at h
      cases h
    · rw [run_signAll_cons hrun] at h
      obtain ⟨hstate, hkeys, -⟩ := ih h
      -- This call has bound the transaction, and the others keep the binding.
      obtain ⟨-, d, hbound, -⟩ := run_sign_ok hrun
      have hcall : SignedTransaction.run (Call.sign key chain).step s = (.ok x, mid) := hrun
      rw [List.map_cons, after_cons hcall, signingKeys_cons_of_ok hcall, hkeys]
      refine ⟨hstate, rfl, fun _ => ⟨d, ?_⟩⟩
      rw [hstate]
      exact (extends_after mid _).keeps _ hbound

/-- A client signs by a run of calls that leaves the transaction bound to the chain. -/
theorem signFor_ok {chain : ChainId} {t : Transaction} {keys : List PrivateKey}
    {signed : SignedTransaction} (h : signFor chain t keys = .ok signed) :
    ∃ calls, (unsigned t).after calls = signed ∧ (unsigned t).signingKeys calls = keys ∧
      ∃ d, signed.binding = some ⟨chain, d⟩ := by
  rw [signFor] at h
  cases keys with
  | nil => cases h
  | cons key keys =>
    rw [List.isEmpty_cons, if_neg Bool.false_ne_true] at h
    rcases hrun : SignedTransaction.run (signAll chain (key :: keys)) (unsigned t) with ⟨_ | _, s'⟩
    · rw [hrun] at h
      cases h
    · rw [hrun] at h
      cases h
      obtain ⟨hstate, hkeys, hbound⟩ := run_signAll_ok hrun
      exact ⟨_, hstate.symm, hkeys, hbound (List.cons_ne_nil _ _)⟩

end Client

namespace SignedTransaction

/-- **Signers.** Start from a transaction without signatures and let any calls follow, of which any
may fail. If they leave it bound to a chain, its signers for this chain are the public keys of the
successful calls that sign, in their order and as often as they signed, provided that these keys
sign the digest soundly. In every state that calls can reach from a transaction as it is made or
read, the signers for any chain are the keys recovered over the digest of the body for this chain,
or the fault of one or the other, whether the digest is kept or not. A client refuses to sign
without keys, and if it signs then the signers for its chain are its keys. -/
theorem recovered_signers :
    (∀ (t : Transaction) calls b, ((unsigned t).after calls).binding = some b →
      (∀ key ∈ (unsigned t).signingKeys calls, key.SignsSoundly b.digest) →
      ((unsigned t).after calls).signers b.chain =
        .ok (((unsigned t).signingKeys calls).map PrivateKey.publicKey)) ∧
    (∀ s₀ : SignedTransaction, s₀.IsFresh → ∀ calls chain, (s₀.after calls).signers chain =
      (s₀.after calls).body.digest chain >>= fun d => recoverAll d (s₀.after calls).signatures) ∧
    ∀ (σ : Type) (c : Client σ) (t : Transaction),
      Client.run (Client.sign t []) c = (.error .noKeys, c) ∧
      ∀ keys signed c', Client.run (Client.sign t keys) c = (.ok signed, c') →
        (∀ key ∈ keys, ∀ d, t.digest c.config.chain = .ok d → key.SignsSoundly d) →
        signed.signers c.config.chain = .ok (keys.map PrivateKey.publicKey) := by
  have hsigners : ∀ (t : Transaction) calls b, ((unsigned t).after calls).binding = some b →
      (∀ key ∈ (unsigned t).signingKeys calls, key.SignsSoundly b.digest) →
      ((unsigned t).after calls).signers b.chain =
        .ok (((unsigned t).signingKeys calls).map PrivateKey.publicKey) := by
    intro t calls b hb hsound
    obtain ⟨made, hmade, hkeys⟩ := exists_madeBy_after calls (unsigned t) hb
    have hdigest := digest_of_binding (.unsigned t) calls hb
    rw [signers_eq (.unsigned t), hdigest, hmade]
    exact hkeys.recoverAll hsound
  refine ⟨hsigners, fun s₀ h₀ calls chain => signers_eq h₀ calls chain, fun σ c t => ⟨?_, ?_⟩⟩
  · rw [Client.run_sign]
    rfl
  · intro keys signed c' h hsound
    rw [Client.run_sign] at h
    obtain ⟨calls, rfl, rfl, d, hbound⟩ := Client.signFor_ok (congrArg Prod.fst h)
    have hdigest := digest_of_binding (.unsigned t) calls hbound
    rw [(extends_after (unsigned t) calls).body_eq] at hdigest
    exact hsigners t calls _ hbound fun key hkey => hsound key hkey d hdigest

/-! ### A run -/

section

open PrivateKey (goldenKey goldenDigest goldenSignature sign_goldenKey signsSoundly_goldenKey)

/-- A transfer whose digest for the main network is a digest that is signed above. -/
def goldenTransfer : Transaction :=
  ⟨12345, 1234567890, ⟨1704067200⟩, [.transfer "alice" "bob" (.viz 1000) ""], []⟩

/-- The transfer, bound to the main network, with some signatures. -/
def boundTransfer (signatures : List Signature) : SignedTransaction :=
  ⟨goldenTransfer, signatures, some ⟨.mainnet, goldenDigest⟩⟩

theorem digest_goldenTransfer : goldenTransfer.digest .mainnet = .ok goldenDigest := by
  decide +kernel

theorem run_sign_goldenTransfer : run (sign goldenKey .mainnet) (unsigned goldenTransfer) =
    (.ok goldenSignature, boundTransfer [goldenSignature]) := by
  have hchecked : goldenTransfer.checkedDigest .mainnet = .ok goldenDigest :=
    Transaction.checkedDigest_eq_ok_iff.mpr ⟨rfl, digest_goldenTransfer⟩
  have hbind : run (bind .mainnet) (unsigned goldenTransfer) =
      (.ok goldenDigest, boundTransfer []) := run_bind_first rfl hchecked
  rw [run_sign_of_ok hbind]
  exact run_cosign_signed rfl sign_goldenKey

theorem run_sign_boundTransfer (signatures : List Signature) :
    run (sign goldenKey .mainnet) (boundTransfer signatures) =
      (.ok goldenSignature, boundTransfer (signatures ++ [goldenSignature])) := by
  have hbound : (boundTransfer signatures).binding = some ⟨.mainnet, goldenDigest⟩ := rfl
  rw [run_sign_of_ok (run_bind_again hbound)]
  exact run_cosign_signed hbound sign_goldenKey

theorem signFor_goldenTransfer : Client.signFor .mainnet goldenTransfer [goldenKey, goldenKey] =
    .ok (boundTransfer [goldenSignature, goldenSignature]) := by
  have hall : run (Client.signAll .mainnet [goldenKey, goldenKey]) (unsigned goldenTransfer) =
      (.ok (), boundTransfer [goldenSignature, goldenSignature]) := by
    rw [Client.run_signAll_cons run_sign_goldenTransfer,
      Client.run_signAll_cons (run_sign_boundTransfer _)]
    rfl
  rw [Client.signFor, List.isEmpty_cons, if_neg Bool.false_ne_true, hall]

/-- One key signs twice. A cosignature before the binding and a signature for another chain are
refused in between. A client that has the key twice finds the same signers. -/
theorem recovered_signers_goldenTransfer :
    ((unsigned goldenTransfer).after [.cosign goldenKey, .sign goldenKey .mainnet,
      .sign goldenKey .zero, .cosign goldenKey]).signers .mainnet =
        .ok [goldenKey.publicKey, goldenKey.publicKey] ∧
    ∃ (c : Client Unit) (signed : SignedTransaction),
      Client.run (Client.sign goldenTransfer [goldenKey, goldenKey]) c = (.ok signed, c) ∧
        signed.signers c.config.chain = .ok [goldenKey.publicKey, goldenKey.publicKey] := by
  constructor
  · have hbound : (boundTransfer [goldenSignature]).binding = some ⟨.mainnet, goldenDigest⟩ := rfl
    have hchain : Identifier.zero ≠ ChainId.mainnet := by decide
    have hrefused : run (Call.cosign goldenKey).step (unsigned goldenTransfer) =
        (.error .notSigned, unsigned goldenTransfer) := run_cosign_unbound rfl
    have hsigned : run (Call.sign goldenKey .mainnet).step (unsigned goldenTransfer) =
        (.ok goldenSignature, boundTransfer [goldenSignature]) := run_sign_goldenTransfer
    have hother : run (Call.sign goldenKey .zero).step (boundTransfer [goldenSignature]) =
        (.error (.invalid (.bound .mainnet)), boundTransfer [goldenSignature]) :=
      run_sign_of_error (run_bind_other hbound hchain) goldenKey
    have hcosigned : run (Call.cosign goldenKey).step (boundTransfer [goldenSignature]) =
        (.ok goldenSignature, boundTransfer [goldenSignature, goldenSignature]) :=
      run_cosign_signed hbound sign_goldenKey
    have hkeys : (unsigned goldenTransfer).signingKeys [.cosign goldenKey,
        .sign goldenKey .mainnet, .sign goldenKey .zero, .cosign goldenKey] =
          [goldenKey, goldenKey] := by
      rw [signingKeys_cons_of_error hrefused, signingKeys_cons_of_ok hsigned,
        signingKeys_cons_of_error hother, signingKeys_cons_of_ok hcosigned]
      rfl
    have hstate : (unsigned goldenTransfer).after [.cosign goldenKey, .sign goldenKey .mainnet,
        .sign goldenKey .zero, .cosign goldenKey] =
          boundTransfer [goldenSignature, goldenSignature] := by
      rw [after_cons hrefused, after_cons hsigned, after_cons hother, after_cons hcosigned, after]
    have hsigners := recovered_signers.1 goldenTransfer [.cosign goldenKey,
      .sign goldenKey .mainnet, .sign goldenKey .zero, .cosign goldenKey] ⟨.mainnet, goldenDigest⟩
      (by rw [hstate]; rfl) (by rw [hkeys]; simpa using signsSoundly_goldenKey)
    rw [hkeys] at hsigners
    exact hsigners
  · let c : Client Unit := .new {} (fun _ _ => ⟨(), ⟨0⟩, .error (.network .blank), ()⟩) ()
    have hrun : Client.run (Client.sign goldenTransfer [goldenKey, goldenKey]) c =
        (.ok (boundTransfer [goldenSignature, goldenSignature]), c) := by
      rw [Client.run_sign]
      exact congrArg (·, c) signFor_goldenTransfer
    refine ⟨c, _, hrun, (recovered_signers.2.2 Unit c goldenTransfer).2 _ _ _ hrun ?_⟩
    intro key hkey d hd
    obtain rfl : key = goldenKey := by simpa using hkey
    obtain rfl : goldenDigest = d := Except.ok.inj (digest_goldenTransfer.symm.trans hd)
    exact signsSoundly_goldenKey

end

end SignedTransaction

end LedgerClient
