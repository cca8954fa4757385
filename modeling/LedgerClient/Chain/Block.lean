import LedgerClient.Transaction.Signed

/-!
# Blocks and history

Blocks as a node reports them, and the operations that it recorded with their places on the chain.
-/

namespace LedgerClient

/-! ### Headers -/

/-- The header of a block. -/
structure BlockHeader where
  /-- The block before it. -/
  previous : BlockId
  /-- When the block was made. -/
  time : Timestamp
  /-- Who made the block. -/
  witness : String
  /-- The hash over the transactions. -/
  merkleRoot : String
  /-- Extensions, kept as they are. -/
  extensions : List Json
  deriving DecidableEq

namespace BlockHeader

/-- The fields of a header. -/
def fields : Json.Fields BlockHeader BlockHeader :=
  Json.Fields.start mk
    |>.field "previous" Identifier.form previous
    |>.field "timestamp" Timestamp.form time
    |>.field "witness" .text witness
    |>.field "transaction_merkle_root" .text merkleRoot
    |>.default "extensions" Json.Form.any.list extensions []

/-- The JSON form. -/
def form : Json.Form BlockHeader := .record fields

/-- The number of the block: one more than that of the block before, and zero after the last of
32 bits. -/
def number (h : BlockHeader) : UInt32 :=
  BlockId.number h.previous + 1

end BlockHeader

/-! ### Blocks -/

/-- What a signed block has beside its header. -/
structure BlockContent where
  /-- The signature of the witness. -/
  signature : Signature
  /-- The transactions. -/
  transactions : List SignedTransaction
  /-- The identifier of the block. -/
  id : Option BlockId
  /-- The key of the witness. -/
  signingKey : Option PublicKey
  /-- The identifiers of the transactions. -/
  transactionIds : List TransactionId

namespace BlockContent

/-- The fields beside the header. -/
def fields : Json.Fields BlockContent BlockContent :=
  Json.Fields.start mk
    |>.field "witness_signature" Signature.form signature
    |>.default "transactions" SignedTransaction.form.list transactions []
    |>.optional "block_id" Identifier.form id
    |>.optional "signing_key" PublicKey.form signingKey
    |>.default "transaction_ids" Identifier.form.list transactionIds []

end BlockContent

/-- A block with its transactions. -/
structure SignedBlock where
  /-- The header. -/
  header : BlockHeader
  /-- All else. -/
  content : BlockContent

namespace SignedBlock

/-- Reads a block from the members of an object. The fields beside the header are read first. -/
def ofMembers (ms : List (String × Json)) : Except Json.Misfit SignedBlock := do
  let content ← BlockContent.fields.readMembers ms
  let header ← BlockHeader.fields.readMembers ms
  return ⟨header, content⟩

/-- The JSON form: the fields of the header and all others in one object. -/
def form : Json.Form SignedBlock where
  write b := .obj (BlockHeader.fields.write b.header ++ BlockContent.fields.write b.content)
  read
    | .obj ms => ofMembers ms
    | _ => .error (.kind "an object")

end SignedBlock

/-! ### History -/

/-- An operation with its place on the chain. -/
structure AppliedOperation where
  /-- The transaction that it came with. -/
  transaction : TransactionId
  /-- The number of the block. -/
  block : UInt32
  /-- The place of the transaction in the block. -/
  transactionIndex : UInt32
  /-- The place of the operation in the transaction. -/
  operationIndex : UInt32
  /-- The number of the operation among the virtual ones that followed, or zero. -/
  virtualIndex : UInt64
  /-- When the block was made. -/
  time : Timestamp
  /-- The operation. -/
  operation : Operation
  deriving DecidableEq

namespace AppliedOperation

/-- The JSON form. -/
def form : Json.Form AppliedOperation :=
  .record (Json.Fields.start mk
    |>.field "trx_id" Identifier.form transaction
    |>.field "block" .u32 block
    |>.field "trx_in_block" .u32 transactionIndex
    |>.field "op_in_trx" .u32 operationIndex
    |>.field "virtual_op" .flexU64 virtualIndex
    |>.field "timestamp" Timestamp.form time
    |>.field "op" Operation.form operation)

end AppliedOperation

/-! ### Confirmations -/

/-- What a node answers once a transaction is in a block. -/
structure Confirmation where
  /-- The transaction. -/
  id : TransactionId
  /-- The number of the block. -/
  block : UInt32
  /-- The place of the transaction in the block. -/
  index : UInt32
  /-- Whether the transaction expired before it came into a block. -/
  expired : Bool
  deriving DecidableEq

namespace Confirmation

/-- The JSON form. -/
def form : Json.Form Confirmation :=
  .record (Json.Fields.start mk
    |>.field "id" Identifier.form id
    |>.field "block_num" .u32 block
    |>.field "trx_num" .u32 index
    |>.field "expired" .flag expired)

end Confirmation

end LedgerClient
