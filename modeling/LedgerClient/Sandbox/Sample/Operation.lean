import LedgerClient.Sandbox.Sample.Value
import LedgerClient.Transaction.Basic

/-!
# Drawing operations and transactions

The payload of a kind is drawn field by field: the shape of a field and its name say what it is
drawn from. Proposals hold a few of the simplest operations. A transaction holds operations that
may stand in one, so it always passes the checks.
-/

namespace LedgerClient.Sandbox.Draw

/-! ### Fields -/

/-- What the text of a field is drawn from. -/
def textField (kind : Kind) (name : String) : Draw String :=
  if name = "id" then customId
  else if name = "permlink" || name = "parent_permlink" || name = "content_permlink" then permlink
  else if name = "title" then if kind = .content then text else permlink
  else if ["body", "json", "json_metadata", "invite_secret", "memo", "url"].contains name then text
  else accountName

/-- The names of the fields with amounts of shares. -/
def shareFields : List String :=
  ["delegation", "reward", "shares", "vesting_payout", "vesting_shares", "withdrawn"]

/-- What the amount of a field is drawn from. -/
def amountField (kind : Kind) (name : String) : Draw Asset :=
  if kind = .transfer then asset
  else if shareFields.contains name then shares
  else tokens

/-- What an unsigned number of 16 bits is drawn from. -/
def unsignedField (name : String) : Draw UInt16 :=
  if name = "percent" || name = "energy" || name = "max_energy" then percent else u16

/-- What a signed number of 16 bits is drawn from. -/
def signedField (name : String) : Draw Int16 :=
  if name = "vote_percent" then return .ofInt (← between (-10000) 10000)
  else return (← word).toUInt16.toInt16

/-- Draws the value of a field by its kind of operation, its name and its shape. -/
def fieldOf (kind : Kind) (name : String) : (s : Shape) → Draw s.Carrier
  | .text => textField kind name
  | .asset => amountField kind name
  | .timestamp => timestamp
  | .key => publicKey
  | .u16 => unsignedField name
  | .i16 => signedField name
  | .u32 => return (← word).toUInt32
  | .flag => flag
  | .sequence => word
  | .authority => authority
  | .beneficiary => return ⟨← accountName, ← percent⟩
  | .extension => pure .void
  | .contentExtension => return .beneficiaries (← beneficiaries)
  | .list .key => listOf 0 1 (fieldOf kind name .key)
  | .list .extension => listOf 0 1 (fieldOf kind name .extension)
  | .list .contentExtension => listOf 0 1 (fieldOf kind name .contentExtension)
  | .list item => listOf 0 2 (fieldOf kind name item)
  | .option item => maybe (fieldOf kind name item)

/-- Draws the fields of a layout. -/
def recordOf (kind : Kind) (nested : Draw (List Operation)) :
    (layout : Layout) → Draw (Record layout)
  | [] => return .empty
  | .field name shape :: layout => do
    let value ← fieldOf kind name shape
    return .field value (← recordOf kind nested layout)
  | .operations _ :: layout => do
    let ops ← nested
    return .operations ops (← recordOf kind nested layout)

/-! ### Operations -/

/-- An operation of a kind, with the given operations within a proposal. -/
def operationOf (nested : Draw (List Operation)) (kind : Kind)
    (supported : kind.isReserved = false) : Draw Operation := do
  return .known kind supported (← recordOf kind nested kind.layout)

/-- A transfer of the liquid token. -/
def tokenTransfer : Draw Operation := do
  return .transfer (← accountName) (← accountName) (← tokens) (← text)

/-- One of the simplest operations. -/
def simpleOperation : Draw Operation := do
  match ← below 3 with
  | 0 => tokenTransfer
  | 1 => operationOf (pure []) .vote rfl
  | _ => operationOf (pure []) .accountMetadata rfl

/-- An operation of one of the given kinds, of which none is reserved. -/
def operationAmong (kinds : List Kind) : Draw Operation := do
  let kind ← oneOf .vote kinds
  if h : kind.isReserved = false then operationOf (listOf 1 2 simpleOperation) kind h
  else tokenTransfer

/-- The kinds that may stand in a transaction. -/
def regularKinds : List Kind :=
  Kind.all.filter fun k => !k.isVirtual && !k.isReserved

/-- The kinds that only nodes emit. -/
def virtualKinds : List Kind :=
  Kind.all.filter Kind.isVirtual

/-- An operation that may stand in a transaction. -/
def regularOperation : Draw Operation :=
  operationAmong regularKinds

/-- An operation that only nodes emit. -/
def virtualOperation : Draw Operation :=
  operationAmong virtualKinds

/-- An operation of any kind, three out of four times one that may stand in a transaction. -/
def operation : Draw Operation := do
  if (← below 4) = 0 then virtualOperation else regularOperation

/-! ### Transactions -/

/-- A transaction that passes the checks. -/
def transaction : Draw Transaction := do
  return ⟨← u16, (← word).toUInt32, ← timestamp, ← listOf 1 3 regularOperation, []⟩

end LedgerClient.Sandbox.Draw
