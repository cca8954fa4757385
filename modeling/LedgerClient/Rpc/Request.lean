import LedgerClient.Chain.Account
import LedgerClient.Chain.Block
import LedgerClient.Chain.Committee
import LedgerClient.Chain.Witness
import LedgerClient.Rpc.Connection

/-!
# Requests

The calls that this library knows. Each request has a method, parameters and a type of results.
-/

namespace LedgerClient.Rpc

/-- A call with a known type of results. -/
inductive Request
  /-- The state of the chain at the latest block. -/
  | chainState
  /-- The parameters of the chain. -/
  | chainParameters
  /-- The number of accounts. -/
  | accountCount
  /-- The names of the witnesses of the current round. -/
  | activeWitnesses
  /-- The accounts with the given names, as far as they exist. -/
  | accounts (names : List String)
  /-- Names of accounts in order, from a bound on. -/
  | lookupAccounts (lowerBound : String) (limit : UInt32)
  /-- The header of a block, if there is such a block yet. -/
  | blockHeader (number : UInt32)
  /-- A block, if there is such a block yet. -/
  | block (number : UInt32)
  /-- The operations of a block. -/
  | operationsInBlock (number : UInt32) (onlyVirtual : Bool)
  /-- A transaction. -/
  | transaction (id : TransactionId)
  /-- The bytes of a transaction as the node writes them. -/
  | transactionHex (transaction : SignedTransaction)
  /-- Entries of the history of an account up to a position. -/
  | accountHistory (account : String) (last : Int64) (limit : UInt32)
  /-- The witness of an account, if it is one. -/
  | witness (account : String)
  /-- The accounts that refer to each of the keys. -/
  | keyReferences (keys : List PublicKey)
  /-- The invite of a key. -/
  | invite (key : PublicKey)
  /-- A request for funds of the committee with some of the votes on it. -/
  | committeeRequest (number : UInt32) (votes : Int32)
  /-- Submits a transaction. -/
  | broadcast (transaction : SignedTransaction)
  /-- Submits a transaction and waits until it is in a block. -/
  | broadcastSynchronous (transaction : SignedTransaction)

namespace Request

/-- The position of the latest entry of a history. -/
def latest : Int64 := -1

/-- The method of a request. -/
def method : Request → String
  | chainState => "get_dynamic_global_properties"
  | chainParameters => "get_chain_properties"
  | accountCount => "get_account_count"
  | activeWitnesses => "get_active_witnesses"
  | accounts _ => "get_accounts"
  | lookupAccounts _ _ => "lookup_accounts"
  | blockHeader _ => "get_block_header"
  | block _ => "get_block"
  | operationsInBlock _ _ => "get_ops_in_block"
  | transaction _ => "get_transaction"
  | transactionHex _ => "get_transaction_hex"
  | accountHistory _ _ _ => "get_account_history"
  | witness _ => "get_witness_by_account"
  | keyReferences _ => "get_key_references"
  | invite _ => "get_invite_by_key"
  | committeeRequest _ _ => "get_committee_request"
  | broadcast _ => "broadcast_transaction"
  | broadcastSynchronous _ => "broadcast_transaction_synchronous"

/-- A signed transaction as a parameter. -/
def transactionParam (t : SignedTransaction) : Json :=
  (SignedTransaction.form.write t).sorted

/-- The parameters of a request. -/
def params : Request → List Json
  | chainState | chainParameters | accountCount | activeWitnesses => []
  | accounts names => [.arr (names.map .str)]
  | lookupAccounts bound limit => [.str bound, .nat limit.toNat]
  | blockHeader number | block number => [.nat number.toNat]
  | operationsInBlock number onlyVirtual => [.nat number.toNat, .bool onlyVirtual]
  | transaction id => [.str id.text]
  | accountHistory account last limit => [.str account, .int last.toInt, .nat limit.toNat]
  | witness account => [.str account]
  | keyReferences keys => [.arr (keys.map PublicKey.form.write)]
  | invite key => [PublicKey.form.write key]
  | committeeRequest number votes => [.nat number.toNat, .int votes.toInt]
  | transactionHex t | broadcast t | broadcastSynchronous t => [transactionParam t]

/-- The type of the results of a request. -/
abbrev Result : Request → Type
  | chainState => ChainState
  | chainParameters => ChainParameters
  | accountCount => UInt64
  | activeWitnesses => List String
  | accounts _ => List Account
  | lookupAccounts _ _ => List String
  | blockHeader _ => Option BlockHeader
  | block _ => Option SignedBlock
  | operationsInBlock _ _ => List AppliedOperation
  | transaction _ => SignedTransaction
  | transactionHex _ => String
  | accountHistory _ _ _ => List (UInt64 × AppliedOperation)
  | witness _ => Option Witness
  | keyReferences _ => List (List String)
  | invite _ => Invite
  | committeeRequest _ _ => CommitteeRequest
  | broadcast _ => Json
  | broadcastSynchronous _ => Confirmation

/-- The JSON form of the results of a request. -/
def resultForm : (r : Request) → Json.Form r.Result
  | chainState => ChainState.form
  | chainParameters => ChainParameters.form
  | accountCount => .u64
  | activeWitnesses => Json.Form.text.list
  | accounts _ => Account.form.list
  | lookupAccounts _ _ => Json.Form.text.list
  | blockHeader _ => BlockHeader.form.option
  | block _ => SignedBlock.form.option
  | operationsInBlock _ _ => AppliedOperation.form.list
  | transaction _ => SignedTransaction.form
  | transactionHex _ => .text
  | accountHistory _ _ _ => (Json.Form.u64.pair AppliedOperation.form).list
  | witness _ => Witness.form.option
  | keyReferences _ => Json.Form.text.list.list
  | invite _ => Invite.form
  | committeeRequest _ _ => CommitteeRequest.form
  | broadcast _ => .any
  | broadcastSynchronous _ => Confirmation.form

/-- The call of a request. -/
def invocation (r : Request) : Invocation :=
  ⟨pluginOf r.method, r.method, r.params⟩

/-- Reads the result of a request. -/
def decode (r : Request) (v : Json) : Except Fault r.Result :=
  (r.resultForm.read v).mapError fun why =>
    .coding (if v = .null then .noResult r.method why else .result r.method why)

end Request

/-- Makes a request and returns its result. -/
def Action.call {σ : Type} (r : Request) : Action σ r.Result := do
  let v ← Action.invoke r.invocation
  Action.ofExcept (r.decode v)

end LedgerClient.Rpc
