import LedgerClient.Proofs.Json.Form
import LedgerClient.Proofs.Rpc.Call
import LedgerClient.Proofs.Transaction.Signers

/-!
# What a client does

A client is its configuration and its connection, and only the connection changes. What a task does
is thus settled by what the calls in it do over the connection: `Client.run_prepare` and
`Client.run_broadcastSynchronous` say what is made of these, and `Client.build_eq_ok_iff` which
transactions are built.
-/

namespace LedgerClient

open Json Rpc

namespace Client

variable {σ α β : Type}

/-! ### Running tasks -/

/-- A task runs its first half and, if that succeeds, the second half with the client as it is
then. -/
theorem run_bind (task : Task σ α) (f : α → Task σ β) (c : Client σ) :
    run (task >>= f) c =
      match run task c with
      | (.ok x, c') => run (f x) c'
      | (.error fault, c') => (.error fault, c') := by
  show (ExceptT.bindCont f (run task c).1).run (run task c).2 = _
  rcases run task c with ⟨_ | _, _⟩ <;> rfl

/-- A request is made over the connection, which is all that it changes. -/
theorem run_call (r : Request) (c : Client σ) :
    run (call r) c =
      ((c.connection.perform (.call r)).1.mapError .rpc,
        { c with connection := (c.connection.perform (.call r)).2 }) := by
  show run (ofExcept .rpc _) _ = _
  rw [run_ofExcept]
  rfl

theorem run_call_of_perform {r : Request} {c : Client σ} {result : Except Rpc.Fault r.Result}
    {connection : Connection σ} (h : c.connection.perform (.call r) = (result, connection)) :
    run (call r) c = (result.mapError .rpc, { c with connection := connection }) := by
  rw [run_call, h]

/-! ### Building a transaction -/

/-- The transaction that refers to the latest block of a state and expires at a time. -/
def drafted (state : ChainState) (expiration : Timestamp) (ops : List Operation) : Transaction :=
  ⟨BlockId.shortNumber state.head, BlockId.mark state.head, expiration, ops, []⟩

section Build

variable {config : ClientConfig} {state : ChainState} {ops : List Operation}

theorem build_of_add?_eq_none (h : state.time.add? config.expiration.seconds = none) :
    build config state ops =
      .error (.invalid (.expirationRange state.time config.expiration.seconds)) := by
  rw [build, TransactionBuilder.expireAfter, h]
  rfl

/-- With an expiration that is a time, the draft is built if it passes the checks. -/
theorem build_of_add?_eq_some {expiration : Timestamp}
    (h : state.time.add? config.expiration.seconds = some expiration) :
    build config state ops = do
      (drafted state expiration ops).validate
      return drafted state expiration ops := by
  rw [build, TransactionBuilder.expireAfter, h]
  rfl

/-- A transaction is built exactly if its expiration is a time and it passes the checks. -/
theorem build_eq_ok_iff {t : Transaction} : build config state ops = .ok t ↔
    ∃ expiration, state.time.add? config.expiration.seconds = some expiration ∧
      (drafted state expiration ops).validate = .ok () ∧ drafted state expiration ops = t := by
  cases hadd : state.time.add? config.expiration.seconds with
  | none =>
    rw [build_of_add?_eq_none hadd]
    exact iff_of_false nofun nofun
  | some expiration =>
    rw [build_of_add?_eq_some hadd, bind_eq_ok_iff]
    constructor
    · rintro ⟨_, hvalid, heq⟩
      exact ⟨expiration, rfl, hvalid, Except.ok.inj heq⟩
    · rintro ⟨_, heq, hvalid, rfl⟩
      obtain rfl := Option.some.inj heq
      exact ⟨(), hvalid, rfl⟩

end Build

/-- A transaction is prepared on the state that the node reports. -/
theorem run_prepare {c : Client σ} {state : ChainState} {connection : Connection σ}
    (h : c.connection.perform (.call .chainState) = (.ok state, connection))
    (ops : List Operation) : run (prepare ops) c =
      ((build c.config state ops).mapError .transaction, { c with connection := connection }) := by
  rw [prepare, run_bind, run_call_of_perform h]
  exact run_ofExcept _ _ _

/-! ### Signing and submitting -/

/-- One key that signs the digest of a transaction signs it for the chain. -/
theorem signFor_singleton {chain : ChainId} {t : Transaction} {key : PrivateKey} {d : Digest}
    {signature : Signature} (hchecked : t.checkedDigest chain = .ok d)
    (hmade : key.sign d = .ok signature) :
    signFor chain t [key] = .ok ⟨t, [signature], some ⟨chain, d⟩⟩ := by
  have hbind : SignedTransaction.run (SignedTransaction.bind chain) (.unsigned t) =
      (.ok d, ⟨t, [], some ⟨chain, d⟩⟩) := SignedTransaction.run_bind_first rfl hchecked
  have hsign : SignedTransaction.run (SignedTransaction.sign key chain) (.unsigned t) =
      (.ok signature, ⟨t, [signature], some ⟨chain, d⟩⟩) := by
    rw [SignedTransaction.run_sign_of_ok hbind]
    exact SignedTransaction.run_cosign_signed rfl hmade
  have hall : SignedTransaction.run (signAll chain [key]) (.unsigned t) =
      (.ok (), ⟨t, [signature], some ⟨chain, d⟩⟩) := run_signAll_cons hsign []
  rw [signFor, List.isEmpty_cons, if_neg Bool.false_ne_true, hall]

/-- A transaction that has an identifier is submitted, and the confirmation of the node returned. -/
theorem run_broadcastSynchronous {c : Client σ} {signed : SignedTransaction} {id : TransactionId}
    (hid : signed.body.id = .ok id) {result : Except Rpc.Fault Confirmation}
    {connection : Connection σ}
    (h : c.connection.perform (.call (.broadcastSynchronous signed)) = (result, connection)) :
    run (broadcastSynchronous signed) c =
      (result.mapError .rpc, { c with connection := connection }) := by
  rw [broadcastSynchronous, run_bind, hid]
  exact run_call_of_perform h

end Client

end LedgerClient
