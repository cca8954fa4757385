import LedgerClient.Identifier
import LedgerClient.Operation.Json
import LedgerClient.Operation.Wire

/-!
# Transactions

A list of operations that take effect together. A transaction refers to a recent block, which ties
it to one history of the ledger, and expires. Its identifier and the digest that is signed for a
chain are hashes of its wire form, which only exists if none of its operations is virtual or
unknown.
-/

namespace LedgerClient

/-! ### Faults -/

/-- Why a transaction cannot be built or signed. -/
inductive TransactionFlaw
  /-- There are no operations. -/
  | noOperations
  /-- An operation is one that only nodes emit. -/
  | virtualOperation (name : String)
  /-- An operation is one that this library has no payload for. -/
  | unknownOperation (name : String)
  /-- The expiration is not set. -/
  | noExpiration
  /-- The expiration, so many seconds after some time, is not a time. -/
  | expirationRange (now : Timestamp) (seconds : Nat)
  /-- The transaction is already bound to another chain. -/
  | bound (chain : ChainId)
  deriving DecidableEq

/-- The wording of a flaw. -/
def TransactionFlaw.message : TransactionFlaw → String
  | .noOperations => "transaction has no operations"
  | .virtualOperation name => "virtual operation " ++ name ++ " cannot be signed"
  | .unknownOperation name => "unknown operation " ++ name ++ " cannot be signed"
  | .noExpiration => "expiration is not set"
  | .expirationRange now seconds =>
    "expiration " ++ now.text ++ " + " ++ toString seconds ++ "s is out of range"
  | .bound chain => "already bound to chain " ++ chain.text

/-- Why something cannot be done with a transaction. -/
inductive TransactionFault
  /-- The transaction cannot be built or signed. -/
  | invalid (flaw : TransactionFlaw)
  /-- A further signature is asked for before the first. -/
  | notSigned
  /-- The transaction has no wire form. -/
  | wire (fault : Wire.Fault)
  /-- A key or a signature is at fault. -/
  | value (fault : ValueFault)
  deriving DecidableEq

/-- The wording of a fault. -/
def TransactionFault.message : TransactionFault → String
  | .invalid flaw => "invalid transaction: " ++ flaw.message
  | .notSigned => "transaction has not been signed yet; no digest to co-sign"
  | .wire fault => "wire error: " ++ fault.message
  | .value fault => fault.message

/-! ### Transactions -/

/-- An unsigned transaction. -/
structure Transaction where
  /-- The low half of the number of the block referred to. -/
  blockNumber : UInt16
  /-- The mark of the block referred to. -/
  blockMark : UInt32
  /-- The time after which nodes refuse the transaction. -/
  expiration : Timestamp
  /-- What is to be done. -/
  operations : List Operation
  /-- Extensions, so far always empty in practice. -/
  extensions : List Extension
  deriving DecidableEq

namespace Transaction

/-- The transaction with a reference to another block. -/
def withBlock (t : Transaction) (block : BlockId) : Transaction :=
  { t with blockNumber := block.shortNumber, blockMark := block.mark }

/-- Checks what nodes demand of every transaction. -/
def validate (t : Transaction) : Except TransactionFault Unit :=
  if t.operations.isEmpty then .error (.invalid .noOperations)
  else
    match t.operations.find? Operation.isVirtual with
    | some op => .error (.invalid (.virtualOperation op.name))
    | none =>
      match t.operations.find? Operation.isUnknown with
      | some op => .error (.invalid (.unknownOperation op.name))
      | none => .ok ()

/-! ### Wire form -/

/-- The wire form of an operation within a transaction, where no virtual one may stand. -/
def writeOperation (op : Operation) : Wire.Output :=
  if op.isVirtual then .ofFault (.unsupported (.virtualOperation op.name)) else op.write

/-- The wire form of a transaction. -/
def write (t : Transaction) : Wire.Output :=
  Wire.Codec.u16.write t.blockNumber ++
    (Wire.Codec.u32.write t.blockMark ++
      (Timestamp.codec.write t.expiration ++
        (.ofBytes (Wire.varintBytes t.operations.length) ++
          (.ofList writeOperation t.operations ++ Extension.codec.list.write t.extensions))))

/-- Reads operations up to the first unknown one, which takes all the bytes that remain, and tells
whether all of them were read. -/
def readOperations : (count : Nat) → Wire.Reader (List Operation × Bool)
  | 0 => return ([], true)
  | count + 1 => do
    let op ← Operation.codec.read
    if op.isUnknown then return ([op], false)
    else
      let (ops, complete) ← readOperations count
      return (op :: ops, complete)

/-- Reads a transaction. -/
def read : Wire.Reader Transaction := do
  let blockNumber ← Wire.Codec.u16.read
  let blockMark ← Wire.Codec.u32.read
  let expiration ← Timestamp.codec.read
  let count ← Wire.Reader.count
  let (operations, complete) ← readOperations count
  let extensions ← if complete then Extension.codec.list.read else pure []
  return ⟨blockNumber, blockMark, expiration, operations, extensions⟩

/-- The wire form of transactions. -/
def codec : Wire.Codec Transaction := ⟨write, read⟩

/-- The bytes of a transaction. -/
def toBytes (t : Transaction) : Except Wire.Fault Bytes :=
  codec.toBytes t

/-- The identifier of a transaction: the beginning of the hash of its bytes. -/
def id (t : Transaction) : Except TransactionFault TransactionId :=
  match t.toBytes with
  | .ok bytes => .ok (Digest.of bytes).transactionId
  | .error fault => .error (.wire fault)

/-- What is signed for a chain: the hash of the chain's identifier followed by the bytes. -/
def digest (t : Transaction) (chain : ChainId) : Except TransactionFault Digest :=
  match t.toBytes with
  | .ok bytes => .ok (.of (chain.toBytes ++ bytes))
  | .error fault => .error (.wire fault)

/-! ### JSON form -/

/-- The fields of a transaction. -/
def fields : Json.Fields Transaction Transaction :=
  Json.Fields.start mk
    |>.field "ref_block_num" .u16 blockNumber
    |>.field "ref_block_prefix" .u32 blockMark
    |>.field "expiration" Timestamp.form expiration
    |>.field "operations" Operation.form.list operations
    |>.default "extensions" Extension.form.list extensions []

/-- The JSON form of transactions. -/
def form : Json.Form Transaction := .record fields

end Transaction

end LedgerClient
