import LedgerClient.Proofs.Client.Task
import LedgerClient.Proofs.Sandbox.Ledger
import LedgerClient.Proofs.Timestamp.Shift
import LedgerClient.Proofs.Transaction.Sendable

/-!
# From operations to the ledger

A client prepares a transaction on the trial ledger, signs it with the key of an account and submits
it. `Ledger.broadcast_records_signed` says that all of this succeeds and that the ledger then holds
what was signed, whatever sendable operations the transaction consists of.

On the way every form is written on one side and read on the other. The state of the chain and the
confirmation are read here from what the ledger answers; that the operations survive is known of
sendable ones, and that a call and its answer survive their envelopes is known of local nodes. What
remains is that the ledger admits the transaction: it computes the digest anew, from the transaction
that it has read, and this is the digest that was signed.
-/

namespace LedgerClient

open Json Rpc

namespace Sandbox.Ledger

variable {l : Ledger}

/-! ### The state of the chain -/

/-- The state of the chain at the latest block. -/
def state (l : Ledger) : ChainState where
  headNumber := l.height
  head := l.head
  time := l.time
  genesisTime := none
  currentWitness := "witness"
  lastIrreversible := .ofNat (l.height.toNat - finalDistance)
  committeeFund := none
  supply := none
  vestingFund := none
  vestingShares := none
  rewardFund := none
  maximumBlockSize := 0
  averageBlockSize := 0
  slot := 0
  participation := 0
  inflationWitnessPercent := 0
  inflationRatio := 0

/-- The state that is reported has its members in order. -/
theorem sorted_stateJson (l : Ledger) : l.stateJson.sorted = l.stateJson := by
  have hnames : ["current_witness", "head_block_id", "head_block_number",
      "last_irreversible_block_num", "time"].Pairwise (· < ·) := by decide
  exact sorted_obj_of_names hnames

/-- The state is read from what is reported. -/
theorem read_stateJson (l : Ledger) : ChainState.form.read l.stateJson = .ok l.state := by
  have hnumber : Form.u32.read (.nat l.height.toNat) = .ok l.height :=
    Form.readsBack_u32 isTidying_id l.height
  have hhead : Identifier.form.read (Identifier.form.write l.head) = .ok l.head :=
    l.head.form_readsBack isTidying_id
  have htime : Timestamp.form.read (Timestamp.form.write l.time) = .ok l.time :=
    l.time.form_readsBack isTidying_id
  have hlt : l.height.toNat - finalDistance < UInt32.size :=
    Nat.lt_of_le_of_lt (Nat.sub_le _ _) l.height.toNat_lt
  have hfinal : Form.u32.read (.nat (l.height.toNat - finalDistance)) =
      .ok (.ofNat (l.height.toNat - finalDistance)) := by
    simp only [Form.u32, Form.integer, Json.nat]
    rw [if_pos ⟨Int.natCast_nonneg _, Int.ofNat_lt.mpr hlt⟩, Int.toNat_natCast]
  refine Form.read_record_obj_eq_ok_iff.mpr ?_
  show _ = Except.ok (ChainState.mk l.height l.head l.time none "witness"
    (.ofNat (l.height.toNat - finalDistance)) none none none none none 0 0 0 0 0 0)
  -- What is not reported is absent or has its default.
  iterate 11 refine Fields.ofMembers_field ?_ rfl
  refine Fields.ofMembers_field ?_ ((readMember_of_eq_some rfl).mpr hfinal)
  refine Fields.ofMembers_field ?_ rfl
  refine Fields.ofMembers_field ?_ rfl
  refine Fields.ofMembers_field ?_ ((readMember_of_eq_some rfl).mpr htime)
  refine Fields.ofMembers_field ?_ ((readMember_of_eq_some rfl).mpr hhead)
  exact Fields.ofMembers_field rfl ((readMember_of_eq_some rfl).mpr hnumber)

theorem isReadable_stateJson (l : Ledger) : Answer.IsReadable l.stateJson := by
  have hheight : l.height.toNat < UInt64.size := Nat.lt_trans l.height.toNat_lt (by decide)
  have hfinal : l.height.toNat - finalDistance < UInt64.size :=
    Nat.lt_of_le_of_lt (Nat.sub_le _ _) hheight
  exact ⟨⟨trivial, trivial, isWhole_nat hheight, isWhole_nat hfinal, trivial, trivial⟩,
    Nat.lt_of_lt_of_le (Nat.lt_succ_self 1) (by decide)⟩

/-! ### The confirmation -/

/-- What is answered about a transaction in a block of its own. -/
def receiptJson (id : TransactionId) (number : UInt32) : Json :=
  .obj [("block_num", .nat number.toNat), ("expired", .bool false), ("id", .str id.text),
    ("trx_num", .nat 0)]

theorem sorted_receiptJson (id : TransactionId) (number : UInt32) :
    (receiptJson id number).sorted = receiptJson id number := by
  have hnames : ["block_num", "expired", "id", "trx_num"].Pairwise (· < ·) := by decide
  exact sorted_obj_of_names hnames

/-- The confirmation is read from what is answered. -/
theorem read_receiptJson (id : TransactionId) (number : UInt32) :
    Confirmation.form.read (receiptJson id number) = .ok ⟨id, number, 0, false⟩ := by
  have hid : Identifier.form.read (.str id.text) = .ok id := id.form_readsBack isTidying_id
  have hnumber : Form.u32.read (.nat number.toNat) = .ok number :=
    Form.readsBack_u32 isTidying_id number
  refine Form.read_record_obj_eq_ok_iff.mpr ?_
  refine Fields.ofMembers_field ?_ rfl
  refine Fields.ofMembers_field ?_ rfl
  refine Fields.ofMembers_field ?_ ((readMember_of_eq_some rfl).mpr hnumber)
  exact Fields.ofMembers_field rfl ((readMember_of_eq_some rfl).mpr hid)

theorem isReadable_receiptJson (id : TransactionId) (number : UInt32) :
    Answer.IsReadable (receiptJson id number) := by
  have hnumber : number.toNat < UInt64.size := Nat.lt_trans number.toNat_lt (by decide)
  exact ⟨⟨isWhole_nat hnumber, trivial, trivial, isWhole_nat (by decide), trivial⟩,
    Nat.lt_of_lt_of_le (Nat.lt_succ_self 1) (by decide)⟩

/-- What is submitted in a synchronous call and admitted is accepted, and answered about with its
identifier and the number of its block. -/
theorem answer_synchronous (number : Json) {call : Invocation} {s : SignedTransaction}
    (hmethod : call.method = "broadcast_transaction_synchronous")
    (hsubmits : Submits call.params s) (hadmits : l.Admits s)
    (hroom : l.height.toNat + 1 < UInt32.size) : ∃ id, s.body.id = .ok id ∧
      answer ⟨number, call⟩ l = (.result (receiptJson id (l.height + 1)), l.accept s) := by
  obtain ⟨id, hid, hreceipt⟩ := receipt_synchronous hadmits hroom
  have hnext : (l.height + 1).toNat = l.height.toNat + 1 := height_accept s hroom
  refine ⟨id, hid, ?_⟩
  rw [answer_of_admits (.inr hmethod) hsubmits hadmits, hmethod, hreceipt, receiptJson, hnext]

/-! ### Calls of the ledger -/

section Served

theorem node_answer (delay : Duration) : (node delay).answer = answer := rfl

variable {delay : Duration} {c : Connection (LocalNetwork Ledger)}

/-- A client is told the state at the latest block, and the ledger stays as it is. -/
theorem perform_chainState (h : (node delay).Serves c) (hnode : c.network.node = l) :
    c.perform (.call .chainState) =
      (.ok l.state, c.served (Request.invocation .chainState) l) := by
  have hcall : (Request.invocation .chainState).IsReadable := ⟨trivial, by decide⟩
  have hanswer : (node delay).answer ⟨.nat c.ids.take.1.toNat,
      (Request.invocation .chainState).sorted⟩ c.network.node = (.result l.stateJson, l) := by
    rw [hnode]
    rfl
  have hdecode : Request.decode .chainState l.stateJson.sorted = .ok l.state := by
    rw [sorted_stateJson]
    exact mapError_eq_ok_iff.mpr l.read_stateJson
  rw [h.perform_call hcall l.isReadable_stateJson hanswer, hdecode]

/-- A transaction that is admitted is accepted, and the client is told its identifier and the number
of its block. -/
theorem perform_broadcastSynchronous (h : (node delay).Serves c) (hnode : c.network.node = l)
    {signed : SignedTransaction} (hops : AreSendable signed.body.operations)
    (hdepth : (Transaction.form.write signed.body).depth + Invocation.envelopeDepth ≤ nestingLimit)
    (hadmits : l.Admits signed.unbound) (hroom : l.height.toNat + 1 < UInt32.size) :
    ∃ id, signed.body.id = .ok id ∧ c.perform (.call (.broadcastSynchronous signed)) =
      (.ok ⟨id, l.height + 1, 0, false⟩,
        c.served (Request.invocation (.broadcastSynchronous signed))
          (l.accept signed.unbound)) := by
  have hmethod : (Request.invocation (.broadcastSynchronous signed)).sorted.method =
      "broadcast_transaction_synchronous" := rfl
  have hsubmits : Submits (Request.invocation (.broadcastSynchronous signed)).sorted.params
      signed.unbound := ⟨_, [], rfl, hops.read_transactionParam⟩
  obtain ⟨id, hid, hanswered⟩ :=
    answer_synchronous (.nat c.ids.take.1.toNat) hmethod hsubmits hadmits hroom
  have hanswer : (node delay).answer ⟨.nat c.ids.take.1.toNat,
      (Request.invocation (.broadcastSynchronous signed)).sorted⟩ c.network.node =
        (.result (receiptJson id (l.height + 1)), l.accept signed.unbound) := by
    rw [node_answer, hnode, hanswered]
  have hdecode : Request.decode (.broadcastSynchronous signed)
      (receiptJson id (l.height + 1)).sorted = .ok ⟨id, l.height + 1, 0, false⟩ := by
    rw [sorted_receiptJson]
    exact mapError_eq_ok_iff.mpr (read_receiptJson id (l.height + 1))
  have hrun := h.perform_call (hops.isReadable_broadcastSynchronous hdepth)
    (isReadable_receiptJson _ _) hanswer
  rw [hdecode] at hrun
  exact ⟨id, hid, hrun⟩

end Served

/-! ### From operations to the ledger -/

/-- The transaction that is prepared on the latest block: it refers to this block and expires a
minute after it. -/
def draft (l : Ledger) (ops : List Operation) : Transaction :=
  Client.drafted l.state ⟨l.time.seconds + 60⟩ ops

/-- A minute after the latest block is still a time. -/
def HasTimeLeft (l : Ledger) : Prop :=
  genesis.toNat + l.height.toNat * blockInterval.toNat + 60 < UInt32.size

theorem HasTimeLeft.add?_time (h : l.HasTimeLeft) :
    l.time.add? 60 = some ⟨l.time.seconds + 60⟩ := by
  have hseconds : l.time.seconds.toNat + 60 < 2 ^ 32 := by
    rw [seconds_time (Nat.lt_of_le_of_lt (Nat.le_add_right _ _) h)]
    exact h
  exact Timestamp.add?_eq_some_iff.mpr
    ⟨hseconds, (UInt32.toNat_add _ _).trans (Nat.mod_eq_of_lt hseconds)⟩

theorem HasTimeLeft.height_lt (h : l.HasTimeLeft) : l.height.toNat + 1 < UInt32.size := by
  have hinterval : blockInterval.toNat = 3 := rfl
  rw [HasTimeLeft, hinterval] at h
  omega

/-- The client is set up as by default and talks to the ledger, which answers in time. -/
structure Hosts (l : Ledger) (c : Client (LocalNetwork Ledger)) : Prop where
  /-- The client is set up as by default. -/
  config : c.config = {}
  /-- The calls go to the ledger. -/
  serves : ∃ delay, (node delay).Serves c.connection
  /-- The state of the ledger. -/
  node_eq : c.connection.network.node = l

section Hosts

variable {c : Client (LocalNetwork Ledger)} {ops : List Operation}

/-- The client prepares the draft of sendable operations, and the ledger stays as it is. -/
theorem Hosts.exists_run_prepare (h : l.Hosts c) (htime : l.HasTimeLeft) (hops : AreSendable ops) :
    ∃ c', Client.run (Client.prepare ops) c = (.ok (l.draft ops), c') ∧ l.Hosts c' := by
  obtain ⟨delay, hserves⟩ := h.serves
  obtain ⟨d, hd⟩ := (Transaction.exists_checkedDigest_iff .mainnet).mpr
    (AreSendable.isBindable (t := l.draft ops) hops)
  have hvalid : (l.draft ops).validate = .ok () := (Transaction.checkedDigest_eq_ok_iff.mp hd).1
  have hbuild : Client.build c.config l.state ops = .ok (l.draft ops) := by
    rw [h.config]
    exact Client.build_eq_ok_iff.mpr ⟨_, htime.add?_time, hvalid, rfl⟩
  have hrun := Client.run_prepare (perform_chainState hserves h.node_eq) ops
  rw [hbuild] at hrun
  exact ⟨_, hrun, h.config, ⟨delay, hserves.served _ l⟩, rfl⟩

/-- What is signed by the key of an account is admitted. -/
theorem admits_of_sign {t : Transaction} {key : PrivateKey} {d : Digest} {signature : Signature}
    (hchecked : t.checkedDigest .mainnet = .ok d) (hmade : key.sign d = .ok signature)
    (hsound : key.SignsSoundly d) (haccount : ∃ name, (name, key.publicKey) ∈ l.accounts) :
    l.Admits (.ofParts t [signature]) := by
  obtain ⟨hvalid, hdigest⟩ := Transaction.checkedDigest_eq_ok_iff.mp hchecked
  obtain ⟨bytes, hbytes, rfl⟩ := Transaction.digest_eq_ok_iff.mp hdigest
  exact ⟨hvalid, bytes, [key.publicKey], hbytes, .cons (hsound signature hmade) .nil, key.publicKey,
    List.mem_singleton_self _, haccount⟩

/-- The client submits what is admitted, and the ledger accepts it. -/
theorem Hosts.exists_run_broadcastSynchronous (h : l.Hosts c) (htime : l.HasTimeLeft)
    (signed : SignedTransaction) (hops : AreSendable signed.body.operations)
    (hdepth : (Transaction.form.write signed.body).depth + Invocation.envelopeDepth ≤ nestingLimit)
    (hadmits : l.Admits signed.unbound) :
    ∃ id c', signed.body.id = .ok id ∧
      Client.run (Client.broadcastSynchronous signed) c =
        (.ok ⟨id, l.height + 1, 0, false⟩, c') ∧ (l.accept signed.unbound).Hosts c' := by
  obtain ⟨delay, hserves⟩ := h.serves
  obtain ⟨id, hid, hperform⟩ :=
    perform_broadcastSynchronous hserves h.node_eq hops hdepth hadmits htime.height_lt
  have hrun := Client.run_broadcastSynchronous hid hperform
  exact ⟨id, _, hid, hrun, h.config, ⟨delay, hserves.served _ _⟩, rfl⟩

/-- **From operations to the ledger.** Let a client talk to a ledger that has an account with the
key and has not come to the end of time. From sendable operations, whose draft does not nest too
deep within the envelope of a call, it prepares the draft, signs it with the key and submits it,
provided that the key signs the digest of the draft, and soundly. The confirmation shows the
identifier of what was signed and the number of the next block, and the ledger has accepted one more
transaction, which has the body and the signatures of the one that was signed. -/
theorem broadcast_records_signed (h : l.Hosts c) (htime : l.HasTimeLeft) (hops : AreSendable ops)
    (hdepth : (Transaction.form.write (l.draft ops)).depth + Invocation.envelopeDepth ≤
      nestingLimit) {key : PrivateKey} (haccount : ∃ name, (name, key.publicKey) ∈ l.accounts)
    (hsound : ∀ d, (l.draft ops).digest .mainnet = .ok d → key.SignsSoundly d)
    (hmade : ∀ d, (l.draft ops).digest .mainnet = .ok d →
      ∃ signature, key.sign d = .ok signature) :
    ∃ c₁ signed c₂ confirmation entry,
      Client.run (Client.prepare ops) c = (.ok (l.draft ops), c₁) ∧
      Client.run (Client.sign (l.draft ops) [key]) c₁ = (.ok signed, c₁) ∧
      Client.run (Client.broadcastSynchronous signed) c₁ = (.ok confirmation, c₂) ∧
      signed.body.id = .ok confirmation.id ∧
      confirmation.block.toNat = l.height.toNat + 1 ∧
      c₂.connection.network.node.accepted = l.accepted ++ [entry] ∧
      entry.sameContent signed = true := by
  obtain ⟨c₁, hprepare, hhosts⟩ := h.exists_run_prepare htime hops
  obtain ⟨d, hchecked⟩ := (Transaction.exists_checkedDigest_iff .mainnet).mpr
    (AreSendable.isBindable (t := l.draft ops) hops)
  have hdigest : (l.draft ops).digest .mainnet = .ok d :=
    (Transaction.checkedDigest_eq_ok_iff.mp hchecked).2
  obtain ⟨signature, hsignature⟩ := hmade d hdigest
  let signed : SignedTransaction := ⟨l.draft ops, [signature], some ⟨.mainnet, d⟩⟩
  have hsign : Client.run (Client.sign (l.draft ops) [key]) c₁ = (.ok signed, c₁) := by
    rw [Client.run_sign, hhosts.config]
    exact congrArg (·, c₁) (Client.signFor_singleton hchecked hsignature)
  -- The node reads the transaction from its JSON form, which leaves out the chain.
  have hadmits : l.Admits signed.unbound :=
    admits_of_sign hchecked hsignature (hsound d hdigest) haccount
  obtain ⟨id, c₂, hid, hbroadcast, hafter⟩ :=
    hhosts.exists_run_broadcastSynchronous htime signed hops hdepth hadmits
  have hblock : (l.height + 1).toNat = l.height.toNat + 1 := height_accept signed htime.height_lt
  have hlog : c₂.connection.network.node.accepted = l.accepted ++ [signed.unbound] :=
    congrArg Ledger.accepted hafter.node_eq
  refine ⟨c₁, signed, c₂, _, signed.unbound, hprepare, hsign, hbroadcast, hid, hblock, hlog, ?_⟩
  simp [SignedTransaction.sameContent, SignedTransaction.unbound]

end Hosts

/-! ### A run -/

section

open PrivateKey (goldenKey recover_eq_goldenKey sign_of_isCanonical signPair_of_nonce?)

/-- The ledger with one account. -/
def aliceLedger : Ledger := empty.register "alice" goldenKey.publicKey

/-- A client of this ledger that has done nothing yet. -/
def aliceClient : Client (LocalNetwork Ledger) :=
  .new {} (node ⟨0⟩).transport ⟨aliceLedger, []⟩

/-- A transfer with a memo that JSON has to escape. -/
def greeting : List Operation := [.transfer "alice" "bob" (.viz 1000) "grüße \"☕\""]

/-- The digest of its draft for the main network. -/
def greetingDigest : Digest :=
  ⟨bigEndianVector 32 0x05f89713e3bca8749fc524a9158aaaefd118d038f8d84a211ebac450923db703⟩

/-- What the key makes of the digest. -/
def greetingPair : Curve.Pair :=
  ⟨49070364929991087468358170364702189073791999815440526274357535702998096254750,
    15981752219274336143162477088471352053509048176532356873262706391847374763334⟩

theorem sign_greetingDigest : goldenKey.sign greetingDigest = .ok (.ofPair greetingPair 1) := by
  have hnonce : Curve.nonce? goldenKey.secret greetingDigest.toBytes [] =
      some 0xec66621b8b583933b3aa0c016afb52db5e1fe62322b4d7c887f98c9bde38a694 :=
    Curve.nonce?_eq_some (by decide +kernel) (by decide)
  have hpair : goldenKey.signPair greetingDigest [] = .ok (greetingPair, 1) :=
    signPair_of_nonce? hnonce (by decide +kernel)
  exact sign_of_isCanonical hpair rfl

theorem recover_greeting :
    (Signature.ofPair greetingPair 1).recover greetingDigest = .ok goldenKey.publicKey :=
  recover_eq_goldenKey (by decide +kernel)

theorem areSendable_greeting : AreSendable greeting where
  nonempty := by decide
  regular := by decide
  known := by decide
  assets op hop a ha := by
    obtain rfl := List.mem_singleton.mp hop
    obtain rfl : a = .viz 1000 := List.mem_singleton.mp ha
    exact ⟨by decide, by decide, trivial⟩
  fits := by decide

/-- The key of the only account signs the greeting, which makes the first block of its own. -/
theorem broadcast_records_signed_greeting :
    ∃ c₁ signed c₂ confirmation entry,
      Client.run (Client.prepare greeting) aliceClient = (.ok (aliceLedger.draft greeting), c₁) ∧
      Client.run (Client.sign (aliceLedger.draft greeting) [goldenKey]) c₁ = (.ok signed, c₁) ∧
      Client.run (Client.broadcastSynchronous signed) c₁ = (.ok confirmation, c₂) ∧
      signed.body.id = .ok confirmation.id ∧ confirmation.block.toNat = 1001 ∧
      c₂.connection.network.node.accepted = [entry] ∧ entry.sameContent signed = true := by
  have hdigest : (aliceLedger.draft greeting).digest .mainnet = .ok greetingDigest := by
    decide +kernel
  have hhosts : aliceLedger.Hosts aliceClient := ⟨rfl, ⟨⟨0⟩, rfl, Nat.zero_le _⟩, rfl⟩
  have hdepth : (Transaction.form.write (aliceLedger.draft greeting)).depth +
      Invocation.envelopeDepth ≤ nestingLimit := by decide +kernel
  have htime : aliceLedger.HasTimeLeft := by
    rw [HasTimeLeft]
    decide
  refine broadcast_records_signed hhosts htime areSendable_greeting hdepth
    ⟨"alice", List.mem_singleton_self _⟩ ?_ ?_
  · intro d hd signature hsign
    obtain rfl := Except.ok.inj (hdigest.symm.trans hd)
    obtain rfl := Except.ok.inj (sign_greetingDigest.symm.trans hsign)
    exact recover_greeting
  · intro d hd
    obtain rfl := Except.ok.inj (hdigest.symm.trans hd)
    exact ⟨_, sign_greetingDigest⟩

end

end Sandbox.Ledger

end LedgerClient
