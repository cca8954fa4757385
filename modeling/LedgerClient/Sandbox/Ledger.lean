import LedgerClient.Rpc.Local
import LedgerClient.Transaction.Signed

/-!
# A ledger for trying out

A local node with accounts that have one key each. Every transaction that it accepts makes a block
of its own. It demands that a transaction passes the checks, that its signers can be computed for
the main network, and that one of them is known.
-/

namespace LedgerClient.Sandbox

open Rpc

/-- When the first block was made, in seconds since the beginning of 1970. -/
def genesis : UInt32 := 1704067200

/-- The seconds between two blocks. -/
def blockInterval : UInt32 := 3

/-- The state of the ledger. -/
structure Ledger where
  /-- The number of the latest block. -/
  height : UInt32 := 1000
  /-- The accounts with their keys, in the order of their names. -/
  accounts : List (String × PublicKey) := []
  /-- The transactions that were accepted, the oldest first. -/
  accepted : List SignedTransaction := []

namespace Ledger

/-- The ledger before anything was registered. -/
def empty : Ledger := {}

/-- Puts an account into a list in the order of names, in place of one of the same name. -/
def insertAccount (name : String) (key : PublicKey) :
    List (String × PublicKey) → List (String × PublicKey)
  | [] => [(name, key)]
  | (other, k) :: rest =>
    if name < other then (name, key) :: (other, k) :: rest
    else if name = other then (name, key) :: rest
    else (other, k) :: insertAccount name key rest

/-- Registers an account with a key, in place of one of the same name. -/
def register (l : Ledger) (name : String) (key : PublicKey) : Ledger :=
  { l with accounts := insertAccount name key l.accounts }

/-! ### What the ledger reports -/

/-- When the latest block was made. -/
def time (l : Ledger) : Timestamp :=
  ⟨genesis + l.height * blockInterval⟩

/-- The bytes of the identifier of the latest block: its number, a mark made from the number, and
zeros. -/
def headBytes (l : Ledger) : Bytes :=
  bigEndian 4 l.height.toNat ++ littleEndian 4 (l.height ^^^ 0x5a5a5a5a).toNat ++
    List.replicate 12 0

/-- The identifier of the latest block. -/
def head (l : Ledger) : BlockId :=
  ⟨⟨l.headBytes.toArray, by simp [headBytes]; rfl⟩⟩

/-- How far the latest block lies ahead of the ones that are final. -/
def finalDistance : Nat := 15

/-- The state of the chain as the ledger reports it. -/
def stateJson (l : Ledger) : Json :=
  .obj [("current_witness", .str "witness"), ("head_block_id", Identifier.form.write l.head),
    ("head_block_number", .nat l.height.toNat),
    ("last_irreversible_block_num", .nat (l.height.toNat - finalDistance)),
    ("time", Timestamp.form.write l.time)]

/-- An account as the ledger reports it, by its place among all accounts. -/
def accountJson (place : Nat) (name : String) (key : PublicKey) : Json :=
  let authority := Authority.form.write (.ofKey key)
  .obj [("active_authority", authority), ("balance", .str "100.000 VIZ"),
    ("created", Timestamp.form.write ⟨genesis⟩), ("id", .nat place),
    ("master_authority", authority), ("memo_key", PublicKey.form.write key), ("name", .str name),
    ("regular_authority", authority), ("vesting_shares", .str "50.000000 SHARES")]

/-- The account of a name as the ledger reports it. -/
def account? (l : Ledger) (name : String) : Option Json :=
  (l.accounts.lookup name).map (accountJson (l.accounts.findIdx (·.1 = name)) name)

/-! ### What the ledger accepts -/

/-- Reads the transaction that is submitted. -/
def submitted (params : List Json) : Except Answer SignedTransaction :=
  match params.head?.bind fun v => (SignedTransaction.form.read v).toOption with
  | some signed => .ok signed
  | none => .error (.refuse (-32602) "invalid transaction")

/-- The code of a refusal for what a transaction is. -/
def rejected : Int64 := -32000

/-- Checks a transaction and the signatures on it. -/
def check (l : Ledger) (signed : SignedTransaction) : Except Answer Unit :=
  match signed.body.validate with
  | .error fault => .error (.refuse rejected fault.message)
  | .ok _ =>
    match signed.signers .mainnet with
    | .error fault => .error (.refuse rejected fault.message)
    | .ok signers =>
      if signers.any fun key => l.accounts.any fun a => a.2 = key then .ok ()
      else .error (.refuse rejected "missing required active authority")

/-- The ledger after a transaction was accepted. -/
def accept (l : Ledger) (signed : SignedTransaction) : Ledger :=
  { l with height := l.height + 1, accepted := l.accepted ++ [signed] }

/-- Accepts what is submitted, if it passes the checks. -/
def submit (l : Ledger) (params : List Json) : Except Answer (SignedTransaction × Ledger) := do
  let signed ← submitted params
  l.check signed
  return (signed, l.accept signed)

/-- What the ledger answers about a transaction that it has just accepted. -/
def confirmation (l : Ledger) (signed : SignedTransaction) : Json :=
  .obj [("block_num", .nat l.height.toNat), ("expired", .bool false),
    ("id", match signed.body.id with
      | .ok id => Identifier.form.write id
      | .error _ => .null),
    ("trx_num", .nat 0)]

/-- Answers a call. -/
def answer (received : Received) (l : Ledger) : Answer × Ledger :=
  let params := received.call.params
  match received.call.method with
  | "get_dynamic_global_properties" => (.result l.stateJson, l)
  | "get_account_count" => (.result (.nat l.accounts.length), l)
  | "get_accounts" =>
    let names := match params with
      | .arr names :: _ => names
      | _ => []
    let found := names.filterMap fun
      | .str name => l.account? name
      | _ => none
    (.result (.arr found), l)
  | "broadcast_transaction" =>
    match l.submit params with
    | .ok (_, after) => (.result (.obj []), after)
    | .error refusal => (refusal, l)
  | "broadcast_transaction_synchronous" =>
    match l.submit params with
    | .ok (signed, after) => (.result (after.confirmation signed), after)
    | .error refusal => (refusal, l)
  | method => (.refuse (-32601) ("method " ++ method ++ " not found"), l)

/-- The ledger as a local node. -/
def node (delay : Duration) : LocalNode Ledger := ⟨answer, delay⟩

end Ledger

end LedgerClient.Sandbox
