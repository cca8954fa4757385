import LedgerClient.Sandbox.Ledger
import LedgerClient.Transaction.Signed

/-!
# Parties

Accounts for trying out, whose keys are derived from their names, and which sign on a fixed block.
-/

namespace LedgerClient.Sandbox

/-- An account with its key. -/
structure Party where
  /-- The name of the account. -/
  account : String
  /-- The key of the account. -/
  key : PrivateKey
  /-- The chain that the account signs for. -/
  chain : ChainId

namespace Party

/-- The account of a name with the key of a seed. -/
def ofSeed (name seed : String) : Except PrivateKeyFault Party :=
  (PrivateKey.ofSeed seed).map fun key => ⟨name, key, .mainnet⟩

/-- The account of a name with the key that the name gives. -/
def ofName (name : String) : Except PrivateKeyFault Party :=
  ofSeed name name

/-- Several accounts with different names. -/
def several (count : Nat) : Except PrivateKeyFault (List Party) :=
  (List.range count).mapM fun i => ofName ("user" ++ toString i)

/-- A transfer from the account. -/
def transfer (p : Party) (receiver : String) (amount : Asset) (memo : String) : Operation :=
  .transfer p.account receiver amount memo

/-- Signs operations on a fixed block. -/
def sign (p : Party) (ops : List Operation) : Except TransactionFault SignedTransaction := do
  let t ← (((TransactionBuilder.empty.withReference 1 0).expireAt ⟨genesis + 60⟩).append ops).build
  SignedTransaction.signOnce t p.key p.chain

end Party

end LedgerClient.Sandbox
