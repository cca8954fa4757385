import Mathlib.Data.List.Induction
import LedgerClient.Proofs.Json.Form
import LedgerClient.Proofs.Operation.Writable
import LedgerClient.Proofs.Transaction.Json
import LedgerClient.Proofs.Transaction.Signers
import LedgerClient.Sandbox.Ledger

/-!
# What the trial ledger has accepted

A ledger goes through registrations of accounts and calls of any kind. `Ledger.answer_submission`
and `Ledger.answer_other` say all that a call can do to it: a transaction that is submitted and
admitted is accepted, and everything else leaves the ledger as it is. From this follows
`Ledger.accepted_transactions`, which describes every state that the ledger can reach.

What the ledger demands of a transaction is stated as `Ledger.Admits`, without the order in which
it is checked: it passes validation, it has bytes, every signature is that of a key over the digest
for the main network, and one of these keys belongs to an account at that time.
-/

namespace LedgerClient

open Json Rpc

namespace SignedTransaction

/-- The keys are recovered exactly if each signature is one of its key. -/
theorem recoverAll_eq_ok_iff {d : Digest} {signatures : List Signature} {keys : List PublicKey} :
    recoverAll d signatures = .ok keys ↔
      List.Forall₂ (fun s key => s.recover d = .ok key) signatures keys := by
  induction signatures generalizing keys with
  | nil =>
    rw [recoverAll, List.forall₂_nil_left_iff, Except.ok.injEq, eq_comm]
  | cons s signatures ih =>
    rw [recoverAll]
    cases hs : s.recover d with
    | error fault =>
      refine iff_of_false (fun h => ?_) fun h => ?_
      · cases h
      · cases h with
        | cons hhead _ => cases hs.symm.trans hhead
    | ok key =>
      dsimp only
      rw [map_eq_ok_iff]
      constructor
      · rintro ⟨rest, hrest, rfl⟩
        exact .cons hs (ih.mp hrest)
      · intro h
        cases h with
        | @cons _ key' _ rest hhead htail =>
          obtain rfl : key = key' := Except.ok.inj (hs.symm.trans hhead)
          exact ⟨rest, ih.mpr htail, rfl⟩

/-- A signed transaction has bytes exactly if what is signed has. -/
theorem exists_toBytes_iff {s : SignedTransaction} :
    (∃ all, s.toBytes = .ok all) ↔ ∃ bytes, s.body.toBytes = .ok bytes := by
  have hsignatures : (Signature.codec.list.write s.signatures).fault = none := by
    rw [Wire.Codec.write_list, Wire.Output.fault_append_eq_none_iff,
      Wire.Output.fault_ofList_eq_none_iff]
    exact ⟨rfl, fun _ _ => rfl⟩
  rw [toBytes, Transaction.toBytes, Wire.Codec.exists_toBytes_iff, Wire.Codec.exists_toBytes_iff,
    codec, Wire.Output.fault_append_eq_none_iff]
  exact and_iff_left hsignatures

end SignedTransaction

theorem Transaction.digest_eq_ok_iff {t : Transaction} {chain : ChainId} {d : Digest} :
    t.digest chain = .ok d ↔
      ∃ bytes, t.toBytes = .ok bytes ∧ Digest.of (chain.toBytes ++ bytes) = d := by
  rw [digest]
  cases t.toBytes <;> simp

namespace Sandbox

/-! ### What is admitted -/

/-- The parameters begin with the JSON form of the signed transaction. -/
def Submits (params : List Json) (signed : SignedTransaction) : Prop :=
  ∃ v rest, params = v :: rest ∧ SignedTransaction.form.read v = .ok signed

theorem Submits.binding_eq_none {params : List Json} {signed : SignedTransaction}
    (h : Submits params signed) : signed.binding = none := by
  obtain ⟨v, rest, -, hread⟩ := h
  exact (SignedTransaction.IsFresh.ofJson hread).binding_eq_none

namespace Ledger

/-- What the ledger demands of a transaction before it accepts it. -/
structure Admits (l : Ledger) (s : SignedTransaction) : Prop where
  /-- The transaction passes the checks. -/
  valid : s.body.validate = .ok ()
  /-- It has bytes, its signatures are those of keys over the digest for the main network, and one
  of these keys belongs to an account. -/
  signed : ∃ bytes keys, s.body.toBytes = .ok bytes ∧
    List.Forall₂ (fun signature key =>
      Signature.recover signature (.of (ChainId.mainnet.toBytes ++ bytes)) = .ok key)
        s.signatures keys ∧
    ∃ key ∈ keys, ∃ name, (name, key) ∈ l.accounts

variable {l : Ledger} {params : List Json} {s : SignedTransaction}

theorem submitted_eq_ok_iff : submitted params = .ok s ↔ Submits params s := by
  cases params with
  | nil => exact iff_of_false nofun nofun
  | cons v rest =>
    have hread : submitted (v :: rest) = .ok s ↔ SignedTransaction.form.read v = .ok s := by
      rw [submitted, List.head?_cons, Option.bind_some]
      cases SignedTransaction.form.read v <;> simp [Except.toOption]
    rw [hread]
    constructor
    · exact fun h => ⟨v, rest, rfl, h⟩
    · rintro ⟨_, _, heq, h⟩
      rwa [← (List.cons.inj heq).1] at h

/-- A transaction that is bound to no chain passes the checks exactly if it is admitted. -/
theorem check_eq_ok_iff (hunbound : s.binding = none) : l.check s = .ok () ↔ l.Admits s := by
  have hsigners : ∀ keys, s.signers .mainnet = .ok keys ↔ ∃ bytes,
      s.body.toBytes = .ok bytes ∧ List.Forall₂ (fun signature key =>
        Signature.recover signature (.of (ChainId.mainnet.toBytes ++ bytes)) = .ok key)
          s.signatures keys := by
    intro keys
    have hdigest : s.digestFor .mainnet = s.body.digest .mainnet := by
      rw [SignedTransaction.digestFor, hunbound, Option.filter_none]
    rw [SignedTransaction.signers, hdigest, bind_eq_ok_iff]
    simp only [Transaction.digest_eq_ok_iff, SignedTransaction.recoverAll_eq_ok_iff]
    constructor
    · rintro ⟨_, ⟨bytes, hbytes, rfl⟩, hkeys⟩
      exact ⟨bytes, hbytes, hkeys⟩
    · rintro ⟨bytes, hbytes, hkeys⟩
      exact ⟨_, ⟨bytes, hbytes, rfl⟩, hkeys⟩
  have hknown : ∀ keys : List PublicKey,
      (keys.any fun key => l.accounts.any fun a => a.2 = key) = true ↔
        ∃ key ∈ keys, ∃ name, (name, key) ∈ l.accounts := by
    simp
  rw [check]
  constructor
  · intro h
    split at h
    · cases h
    · rename_i hvalid
      split at h
      · cases h
      · rename_i keys hkeys
        split at h
        · rename_i hany
          obtain ⟨bytes, hbytes, hrecovered⟩ := (hsigners keys).mp hkeys
          exact ⟨hvalid, bytes, keys, hbytes, hrecovered, (hknown keys).mp hany⟩
        · cases h
  · rintro ⟨hvalid, bytes, keys, hbytes, hrecovered, hany⟩
    simp only [hvalid, (hsigners keys).mpr ⟨bytes, hbytes, hrecovered⟩]
    exact if_pos ((hknown keys).mpr hany)

/-- What is submitted and admitted is accepted. -/
theorem submit_eq_ok_iff {p : SignedTransaction × Ledger} :
    l.submit params = .ok p ↔ Submits params p.1 ∧ l.Admits p.1 ∧ l.accept p.1 = p.2 := by
  rw [submit, bind_eq_ok_iff]
  simp only [bind_eq_ok_iff, submitted_eq_ok_iff]
  constructor
  · rintro ⟨signed, hsubmits, _, hcheck, heq⟩
    obtain rfl : (signed, l.accept signed) = p := Except.ok.inj heq
    exact ⟨hsubmits, (check_eq_ok_iff hsubmits.binding_eq_none).mp hcheck, rfl⟩
  · rintro ⟨hsubmits, hadmits, hafter⟩
    refine ⟨p.1, hsubmits, (), (check_eq_ok_iff hsubmits.binding_eq_none).mpr hadmits, ?_⟩
    rw [hafter]
    rfl

/-- What is not accepted is refused with a code and a reason. -/
theorem exists_refuse_of_submit {refusal : Answer} (h : l.submit params = .error refusal) :
    ∃ code message, refusal = .refuse code message := by
  rw [submit, bind_eq_error_iff] at h
  rcases h with h | ⟨s, -, h⟩
  · rw [submitted] at h
    split at h
    · cases h
    · exact ⟨_, _, (Except.error.inj h).symm⟩
  · rcases bind_eq_error_iff.mp h with h | ⟨_, -, h⟩
    · rw [check] at h
      split at h
      · exact ⟨_, _, (Except.error.inj h).symm⟩
      · split at h
        · exact ⟨_, _, (Except.error.inj h).symm⟩
        · split at h
          · cases h
          · exact ⟨_, _, (Except.error.inj h).symm⟩
    · cases h

/-! ### What a call can do -/

/-- The methods that submit a transaction. -/
def IsSubmission (method : String) : Prop :=
  method = "broadcast_transaction" ∨ method = "broadcast_transaction_synchronous"

/-- The answer to a transaction that is accepted, by the method that submits it. -/
def receipt (l : Ledger) (method : String) (s : SignedTransaction) : Json :=
  if method = "broadcast_transaction" then .obj [] else l.confirmation s

/-- A submission is answered by a refusal or accepted. -/
theorem answer_submission {received : Received} (h : IsSubmission received.call.method) :
    answer received l =
      match l.submit received.call.params with
      | .ok (s, after) => (.result (after.receipt received.call.method s), after)
      | .error refusal => (refusal, l) := by
  rcases h with h | h <;>
  · simp only [answer, h, receipt]
    cases l.submit received.call.params <;> rfl

/-- Other calls leave the ledger as it is. -/
theorem answer_other {received : Received} (h : ¬IsSubmission received.call.method) :
    (answer received l).2 = l := by
  rw [answer]
  split
  · rfl
  · rfl
  · rfl
  · rename_i hmethod
    exact absurd (.inl hmethod) h
  · rename_i hmethod
    exact absurd (.inr hmethod) h
  · rfl

/-- What is submitted and admitted is accepted, and the answer is its receipt. -/
theorem answer_of_admits {received : Received} (h : IsSubmission received.call.method)
    (hsubmits : Submits received.call.params s) (hadmits : l.Admits s) :
    answer received l =
      (.result ((l.accept s).receipt received.call.method s), l.accept s) := by
  have hsubmit : l.submit received.call.params = .ok (s, l.accept s) :=
    submit_eq_ok_iff.mpr ⟨hsubmits, hadmits, rfl⟩
  rw [answer_submission h, hsubmit]

/-- What is submitted and not admitted is refused, and the ledger stays as it is. -/
theorem answer_of_not_admits {received : Received} (hmethod : IsSubmission received.call.method)
    (h : ∀ s, Submits received.call.params s → ¬l.Admits s) :
    ∃ code message, answer received l = (.refuse code message, l) := by
  rw [answer_submission hmethod]
  cases hsubmit : l.submit received.call.params with
  | error refusal =>
    obtain ⟨code, message, rfl⟩ := exists_refuse_of_submit hsubmit
    exact ⟨code, message, rfl⟩
  | ok p =>
    obtain ⟨hsubmits, hadmits, -⟩ := submit_eq_ok_iff.mp hsubmit
    exact absurd hadmits (h p.1 hsubmits)

/-- A call accepts a transaction or leaves the ledger as it is. -/
theorem answer_cases (l : Ledger) (received : Received) :
    (∃ s, IsSubmission received.call.method ∧ Submits received.call.params s ∧ l.Admits s ∧
      (answer received l).2 = l.accept s) ∨ (answer received l).2 = l := by
  by_cases hmethod : IsSubmission received.call.method
  · by_cases h : ∃ s, Submits received.call.params s ∧ l.Admits s
    · obtain ⟨s, hsubmits, hadmits⟩ := h
      exact .inl ⟨s, hmethod, hsubmits, hadmits,
        congrArg Prod.snd (answer_of_admits hmethod hsubmits hadmits)⟩
    · obtain ⟨_, _, hrefused⟩ := answer_of_not_admits hmethod fun s hsubmits hadmits =>
        h ⟨s, hsubmits, hadmits⟩
      exact .inr (congrArg Prod.snd hrefused)
  · exact .inr (answer_other hmethod)

theorem height_accept (s : SignedTransaction) (hroom : l.height.toNat + 1 < UInt32.size) :
    (l.accept s).height.toNat = l.height.toNat + 1 := by
  rw [accept, UInt32.toNat_add, UInt32.toNat_one, Nat.mod_eq_of_lt hroom]

/-- The receipt of a synchronous submission that is accepted shows the identifier of the transaction
and the number of its block. -/
theorem receipt_synchronous (hadmits : l.Admits s) (hroom : l.height.toNat + 1 < UInt32.size) :
    ∃ id, s.body.id = .ok id ∧
      (l.accept s).receipt "broadcast_transaction_synchronous" s =
        .obj [("block_num", .nat (l.height.toNat + 1)), ("expired", .bool false),
          ("id", .str id.text), ("trx_num", .nat 0)] := by
  obtain ⟨bytes, -, hbytes, -⟩ := hadmits.signed
  have hid : s.body.id = .ok (Digest.of bytes).transactionId := by
    rw [Transaction.id, hbytes]
  refine ⟨_, hid, ?_⟩
  rw [receipt, if_neg (by decide), confirmation, hid, height_accept s hroom]
  rfl

/-! ### Histories -/

end Ledger

/-- What happens to a ledger. -/
inductive Event
  /-- An account is registered with a key. -/
  | register (name : String) (key : PublicKey)
  /-- A call is received. -/
  | call (received : Received)

namespace Ledger

/-- The ledger after an event. -/
def step (l : Ledger) : Event → Ledger
  | .register name key => l.register name key
  | .call received => (answer received l).2

/-- The ledger after some events, from the beginning. -/
def after (events : List Event) : Ledger :=
  events.foldl step empty

theorem after_concat (events : List Event) (event : Event) :
    after (events ++ [event]) = (after events).step event := by
  rw [after, List.foldl_append]
  rfl

/-- An event accepts a transaction or leaves the height and what was accepted as they are. -/
theorem step_cases (l : Ledger) (event : Event) :
    (∃ received s, event = .call received ∧ IsSubmission received.call.method ∧
      Submits received.call.params s ∧ l.Admits s ∧ l.step event = l.accept s) ∨
    (l.step event).height = l.height ∧ (l.step event).accepted = l.accepted := by
  cases event with
  | register name key => exact .inr ⟨rfl, rfl⟩
  | call received =>
    rcases answer_cases l received with ⟨s, hmethod, hsubmits, hadmits, haccepted⟩ | hkept
    · exact .inl ⟨received, s, rfl, hmethod, hsubmits, hadmits, haccepted⟩
    · have hstep : l.step (.call received) = l := hkept
      rw [hstep]
      exact .inr ⟨rfl, rfl⟩

/-- The height counts the transactions that were accepted. -/
theorem height_after (events : List Event) :
    (after events).height = 1000 + UInt32.ofNat (after events).accepted.length := by
  induction events using List.reverseRecOn with
  | nil => rfl
  | append_singleton events event ih =>
    rw [after_concat]
    rcases step_cases (after events) event with ⟨_, s, -, -, -, -, haccepted⟩ | ⟨hheight, haccepted⟩
    · rw [haccepted]
      simp only [accept, ih, List.length_append, List.length_singleton, UInt32.ofNat_add]
      exact UInt32.add_assoc _ _ _
    · rw [hheight, haccepted, ih]

/-- The time of the latest block, as long as it does not run over. -/
theorem seconds_time {l : Ledger}
    (hfits : genesis.toNat + l.height.toNat * blockInterval.toNat < UInt32.size) :
    l.time.seconds.toNat = genesis.toNat + l.height.toNat * blockInterval.toNat := by
  have hproduct : l.height.toNat * blockInterval.toNat < 2 ^ 32 :=
    Nat.lt_of_le_of_lt (Nat.le_add_left _ _) hfits
  rw [time, UInt32.toNat_add, UInt32.toNat_mul, Nat.mod_eq_of_lt hproduct, Nat.mod_eq_of_lt hfits]

/-- While they are few, the height is a thousand and their number, and the time of the latest block
does not run over. -/
theorem height_and_time_after {events : List Event}
    (hfew : (after events).accepted.length < 2 ^ 29) :
    (after events).height.toNat = 1000 + (after events).accepted.length ∧
      (after events).time.seconds.toNat =
        genesis.toNat + (after events).height.toNat * blockInterval.toNat := by
  have hheight : (after events).height.toNat = 1000 + (after events).accepted.length := by
    rw [height_after, UInt32.toNat_add, UInt32.toNat_ofNat']
    have hthousand : (1000 : UInt32).toNat = 1000 := rfl
    omega
  refine ⟨hheight, seconds_time ?_⟩
  have hgenesis : genesis.toNat = 1704067200 := rfl
  have hinterval : blockInterval.toNat = 3 := rfl
  rw [hheight, hgenesis, hinterval, UInt32.size]
  omega

/-- Events only add to what was accepted. -/
theorem accepted_prefix (before later : List Event) :
    (after before).accepted <+: (after (before ++ later)).accepted := by
  induction later using List.reverseRecOn with
  | nil =>
    rw [List.append_nil]
  | append_singleton later event ih =>
    refine ih.trans ?_
    rw [← List.append_assoc, after_concat]
    rcases step_cases (after (before ++ later)) event with
      ⟨_, s, -, -, -, -, haccepted⟩ | ⟨-, hkept⟩
    · rw [haccepted]
      exact List.prefix_append _ _
    · rw [hkept]

/-! ### Accounts -/

/-- The key that was registered last under a name. -/
def registered (name : String) : List Event → Option PublicKey
  | [] => none
  | .register other key :: later =>
    (registered name later).or (if other = name then some key else none)
  | .call _ :: later => registered name later

theorem registered_append (name : String) (events later : List Event) :
    registered name (events ++ later) = (registered name later).or (registered name events) := by
  induction events with
  | nil => rw [List.nil_append, registered, Option.or_none]
  | cons event events ih =>
    cases event with
    | register other key => rw [List.cons_append, registered, registered, ih, Option.or_assoc]
    | call received => rw [List.cons_append, registered, registered, ih]

/-- Accounts in the order of their names, no two of which have the same one. -/
def IsOrdered (accounts : List (String × PublicKey)) : Prop :=
  accounts.Pairwise fun a b => a.1 < b.1

/-- Putting an account in place takes the place of those of the same name and no others. -/
theorem mem_insertAccount_iff {accounts : List (String × PublicKey)} (h : IsOrdered accounts)
    {name other : String} {key k : PublicKey} :
    (other, k) ∈ insertAccount name key accounts ↔
      if other = name then k = key else (other, k) ∈ accounts := by
  induction accounts with
  | nil => by_cases hname : other = name <;> simp [insertAccount, hname]
  | cons a accounts ih =>
    obtain ⟨first, k'⟩ := a
    obtain ⟨hfirst, hrest⟩ := List.pairwise_cons.mp h
    have hlater : ∀ k, (first, k) ∉ accounts := fun k hmem =>
      absurd (hfirst _ hmem) (String.lt_irrefl first)
    rw [insertAccount]
    split
    · rename_i hlt
      have habsent : (name, k) ∉ accounts := fun hmem =>
        absurd (String.lt_trans hlt (hfirst _ hmem)) (String.lt_irrefl name)
      have hne : name ≠ first := fun heq => absurd (heq ▸ hlt) (String.lt_irrefl name)
      by_cases hname : other = name
      · simp [hname, habsent, hne]
      · simp [hname]
    · split
      · rename_i heq
        subst heq
        by_cases hname : other = name
        · simp [hname, hlater]
        · simp [hname]
      · rename_i hne
        rw [List.mem_cons, ih hrest]
        by_cases hname : other = name
        · simp [hname, hne]
        · simp [hname]

theorem isOrdered_insertAccount {accounts : List (String × PublicKey)} (h : IsOrdered accounts)
    (name : String) (key : PublicKey) : IsOrdered (insertAccount name key accounts) := by
  induction accounts with
  | nil => exact List.pairwise_singleton _ _
  | cons a accounts ih =>
    obtain ⟨hfirst, hrest⟩ := List.pairwise_cons.mp h
    rw [insertAccount]
    split
    · rename_i hlt
      refine List.pairwise_cons.mpr ⟨fun b hb => ?_, h⟩
      rcases List.mem_cons.mp hb with rfl | hb
      · exact hlt
      · exact String.lt_trans hlt (hfirst b hb)
    · split
      · rename_i heq
        exact List.pairwise_cons.mpr ⟨fun b hb => by rw [heq]; exact hfirst b hb, hrest⟩
      · rename_i hle hne
        have hlt : a.1 < name := Std.lt_of_le_of_ne hle (Ne.symm hne)
        refine List.pairwise_cons.mpr ⟨fun b hb => ?_, ih hrest⟩
        have hmem := (mem_insertAccount_iff hrest).mp hb
        by_cases hname : b.1 = name
        · rw [hname]
          exact hlt
        · rw [if_neg hname] at hmem
          exact hfirst b hmem

/-- The accounts are those that were registered, each with its latest key. -/
theorem mem_accounts_after_iff {events : List Event} :
    IsOrdered (after events).accounts ∧ ∀ name key,
      (name, key) ∈ (after events).accounts ↔ registered name events = some key := by
  induction events using List.reverseRecOn with
  | nil => exact ⟨.nil, fun _ _ => iff_of_false List.not_mem_nil nofun⟩
  | append_singleton events event ih =>
    obtain ⟨hordered, hmem⟩ := ih
    rw [after_concat]
    cases event with
    | register other k =>
      refine ⟨isOrdered_insertAccount hordered other k, fun name key => ?_⟩
      have hstep : (name, key) ∈ ((after events).step (.register other k)).accounts ↔
          if name = other then key = k else (name, key) ∈ (after events).accounts :=
        mem_insertAccount_iff hordered
      rw [hstep, registered_append, registered, registered, Option.none_or, hmem]
      by_cases hname : name = other
      · rw [if_pos hname, if_pos hname.symm, Option.some_or, Option.some_inj, eq_comm]
      · rw [if_neg hname, if_neg (Ne.symm hname), Option.none_or]
    | call received =>
      have hkept : ((after events).step (.call received)).accounts = (after events).accounts := by
        rw [step]
        rcases answer_cases (after events) received with ⟨s, -, -, -, haccepted⟩ | hkept
        · rw [haccepted]
          rfl
        · rw [hkept]
      rw [hkept]
      refine ⟨hordered, fun name key => ?_⟩
      rw [hmem, registered_append, registered, registered, Option.none_or]

/-! ### What was accepted -/

/-- What is known of a transaction that was accepted, from what happened before and from the call
that submitted it. -/
structure AcceptedBy (before : List Event) (received : Received) (s : SignedTransaction) :
    Prop where
  /-- The call submits. -/
  submission : IsSubmission received.call.method
  /-- It submits the transaction. -/
  submits : Submits received.call.params s
  /-- The transaction passes the checks. -/
  valid : s.body.validate = .ok ()
  /-- It has bytes together with its signatures. -/
  encodes : ∃ all, s.toBytes = .ok all
  /-- Its signatures are those of keys over its digest for the main network, and one of these keys
  was registered last under some name. -/
  signed : ∃ bytes keys, s.body.toBytes = .ok bytes ∧
    List.Forall₂ (fun signature key =>
      Signature.recover signature (.of (ChainId.mainnet.toBytes ++ bytes)) = .ok key)
        s.signatures keys ∧
    ∃ key ∈ keys, ∃ name, registered name before = some key

theorem AcceptedBy.of_admits {before : List Event} {received : Received}
    (hmethod : IsSubmission received.call.method) (hsubmits : Submits received.call.params s)
    (hadmits : (after before).Admits s) : AcceptedBy before received s := by
  obtain ⟨bytes, keys, hbytes, hkeys, key, hkey, name, hname⟩ := hadmits.signed
  exact ⟨hmethod, hsubmits, hadmits.valid, SignedTransaction.exists_toBytes_iff.mpr ⟨bytes, hbytes⟩,
    bytes, keys, hbytes, hkeys, key, hkey, name, (mem_accounts_after_iff.2 name key).mp hname⟩

/-- Every transaction that was accepted was put where it stands by a call that submitted it. -/
theorem exists_acceptedBy {events : List Event} {i : Nat} {s : SignedTransaction}
    (h : (after events).accepted[i]? = some s) : ∃ before received later,
      events = before ++ .call received :: later ∧ (after before).accepted.length = i ∧
        AcceptedBy before received s := by
  induction events using List.reverseRecOn with
  | nil => cases h
  | append_singleton events event ih =>
    -- Either the transaction was there before the last event, or the last event put it there.
    have hearlier (hbefore : (after events).accepted[i]? = some s) : ∃ before received later,
        events ++ [event] = before ++ .call received :: later ∧
          (after before).accepted.length = i ∧ AcceptedBy before received s := by
      obtain ⟨before, received, later, rfl, hlength, haccepted⟩ := ih hbefore
      exact ⟨before, received, later ++ [event], by simp, hlength, haccepted⟩
    rw [after_concat] at h
    rcases step_cases (after events) event with
      ⟨received, s', rfl, hmethod, hsubmits, hadmits, haccepted⟩ | ⟨-, hkept⟩
    · rw [haccepted, accept, List.getElem?_append] at h
      split at h
      · exact hearlier h
      · rename_i hge
        obtain ⟨hlast, rfl⟩ : i - (after events).accepted.length = 0 ∧ s' = s := by
          cases hi : i - (after events).accepted.length with
          | zero =>
            rw [hi] at h
            exact ⟨rfl, Option.some.inj h⟩
          | succ n =>
            rw [hi] at h
            cases h
        exact ⟨events, received, [], rfl, by omega, .of_admits hmethod hsubmits hadmits⟩
    · rw [hkept] at h
      exact hearlier h

/-- **The ledger.** After any events, as long as the time does not run over, the height is a
thousand and the number of the transactions that were accepted. These were only added to, and each
was put where it stands by a call that submitted it, when it passed the checks, had bytes, and was
signed by the keys of its signatures, one of which was that of an account. A call accepts a
transaction only if it submits one that is admitted, and leaves the ledger as it is otherwise, with
a refusal if it submits; the answer to a synchronous one that is accepted shows the identifier of
the transaction and the new height. -/
theorem accepted_transactions (events : List Event)
    (hfew : (after events).accepted.length < 2 ^ 29) :
    (after events).height.toNat = 1000 + (after events).accepted.length ∧
    (after events).time.seconds.toNat =
      genesis.toNat + (after events).height.toNat * blockInterval.toNat ∧
    (∀ before later, events = before ++ later →
      (after before).accepted <+: (after events).accepted) ∧
    (∀ i s, (after events).accepted[i]? = some s → ∃ before received later,
      events = before ++ .call received :: later ∧ (after before).accepted.length = i ∧
        AcceptedBy before received s) ∧
    ∀ received,
      (¬IsSubmission received.call.method → (answer received (after events)).2 = after events) ∧
      (IsSubmission received.call.method →
        (∀ s, Submits received.call.params s → ¬(after events).Admits s) →
          ∃ code message, answer received (after events) = (.refuse code message, after events)) ∧
      ∀ s, IsSubmission received.call.method → Submits received.call.params s →
        (after events).Admits s →
          (answer received (after events)).2 = (after events).accept s ∧
          ((after events).accept s).height.toNat = (after events).height.toNat + 1 ∧
          (received.call.method = "broadcast_transaction_synchronous" →
            ∃ id, s.body.id = .ok id ∧ (answer received (after events)).1 =
              .result (.obj [("block_num", .nat ((after events).height.toNat + 1)),
                ("expired", .bool false), ("id", .str id.text), ("trx_num", .nat 0)])) := by
  obtain ⟨hheight, htime⟩ := height_and_time_after hfew
  refine ⟨hheight, htime, ?_, fun i s => exists_acceptedBy, fun received => ⟨answer_other,
    answer_of_not_admits, fun s hmethod hsubmits hadmits => ?_⟩⟩
  · rintro before later rfl
    exact accepted_prefix before later
  · have hroom : (after events).height.toNat + 1 < UInt32.size := by
      rw [hheight, UInt32.size]
      omega
    have hanswer := answer_of_admits hmethod hsubmits hadmits
    refine ⟨congrArg Prod.snd hanswer, height_accept s hroom, fun hsynchronous => ?_⟩
    obtain ⟨id, hid, hreceipt⟩ := receipt_synchronous hadmits hroom
    refine ⟨id, hid, ?_⟩
    rw [hanswer, hsynchronous, hreceipt]

section

open PrivateKey (goldenKey goldenSignature recover_goldenSignature)
open SignedTransaction (boundTransfer goldenTransfer digest_goldenTransfer)

theorem isTextSafe_goldenTransfer :
    goldenTransfer.IsTextSafe ∧ goldenTransfer.IsTidied sorted := by
  have hunknown : ∀ u, .unknown u ∉ goldenTransfer.operations.flatMap Operation.within := by
    intro u hu
    simp [goldenTransfer, Operation.transfer, Operation.within, Operation.parts, Record.parts,
      Shape.parts, Part.operation?] at hu
  have habsent : ∀ op ∈ goldenTransfer.operations, ∀ u, .unknown u ∉ op.within :=
    fun op hop u hu => hunknown u (List.mem_flatMap.mpr ⟨op, hop, hu⟩)
  refine ⟨fun op hop => ⟨fun a ha => ?_, fun u hu => absurd hu (habsent op hop u)⟩,
    fun op hop u hu => absurd hu (habsent op hop u)⟩
  obtain rfl : op = .transfer "alice" "bob" (.viz 1000) "" := List.mem_singleton.mp hop
  obtain rfl : a = .viz 1000 := List.mem_singleton.mp ha
  exact ⟨by decide, by decide, trivial⟩

/-- The call that submits the signed transfer and waits for its block. -/
def goldenCall : Received :=
  ⟨.nat 1, Request.invocation (.broadcastSynchronous (boundTransfer [goldenSignature]))⟩

/-- A transfer that the only account has signed makes the first block of its own. -/
theorem accepted_transactions_goldenCall :
    (after [.register "alice" goldenKey.publicKey, .call goldenCall]).accepted =
      [.ofParts goldenTransfer [goldenSignature]] ∧
    (after [.register "alice" goldenKey.publicKey, .call goldenCall]).height.toNat = 1001 ∧
    ∃ id, goldenTransfer.id = .ok id ∧
      (answer goldenCall (after [.register "alice" goldenKey.publicKey])).1 =
        .result (.obj [("block_num", .nat 1001), ("expired", .bool false), ("id", .str id.text),
          ("trx_num", .nat 0)]) := by
  set l := after [.register "alice" goldenKey.publicKey] with hl
  have hempty : l.accepted = [] := rfl
  have hmethod : goldenCall.call.method = "broadcast_transaction_synchronous" := rfl
  have hsubmits : Submits goldenCall.call.params (.ofParts goldenTransfer [goldenSignature]) :=
    ⟨_, [], rfl, SignedTransaction.read_tidy_write isTidying_sorted
      (Transaction.fields_readsBack isTidying_sorted isTextSafe_goldenTransfer.1
        isTextSafe_goldenTransfer.2)⟩
  have hadmits : l.Admits (.ofParts goldenTransfer [goldenSignature]) := by
    obtain ⟨bytes, hbytes, hdigest⟩ := Transaction.digest_eq_ok_iff.mp digest_goldenTransfer
    refine ⟨rfl, bytes, [goldenKey.publicKey], hbytes, ?_, _, List.mem_singleton_self _, "alice",
      List.mem_singleton_self _⟩
    rw [hdigest]
    exact .cons recover_goldenSignature .nil
  have hbefore := accepted_transactions [.register "alice" goldenKey.publicKey]
    (by rw [← hl, hempty]; decide)
  obtain ⟨hafter, -, hanswer⟩ := (hbefore.2.2.2.2 goldenCall).2.2 _ (.inr hmethod) hsubmits hadmits
  obtain ⟨id, hid, hshown⟩ := hanswer hmethod
  have hstep : after ([.register "alice" goldenKey.publicKey] ++ [.call goldenCall]) =
      l.accept (.ofParts goldenTransfer [goldenSignature]) := by
    rw [after_concat, step, ← hl]
    exact hafter
  have haccepted : (after [.register "alice" goldenKey.publicKey, .call goldenCall]).accepted =
      [.ofParts goldenTransfer [goldenSignature]] := congrArg Ledger.accepted hstep
  have hheight := (accepted_transactions
    [.register "alice" goldenKey.publicKey, .call goldenCall] (by rw [haccepted]; decide)).1
  refine ⟨haccepted, by rw [hheight, haccepted]; rfl, id, hid, ?_⟩
  rw [hshown, hbefore.1, ← hl, hempty]
  rfl

end

end Ledger

end Sandbox

end LedgerClient
