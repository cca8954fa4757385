import LedgerClient.Asset.Wire
import LedgerClient.Authority
import LedgerClient.Operation.Kind
import LedgerClient.Timestamp.Basic

/-!
# Layouts of operations

The payload of every kind of operation as a list of named fields with their shapes, in the order in
which they are written. The wire form and the JSON form of all operations are read off this table.
-/

namespace LedgerClient

/-! ### Shapes -/

/-- The shape of a field that holds no operations. -/
inductive Shape
  /-- A text. -/
  | text
  /-- An amount of a symbol. -/
  | asset
  /-- A point in time. -/
  | timestamp
  /-- A public key. -/
  | key
  /-- An unsigned number of 16 bits. -/
  | u16
  /-- A signed number of 16 bits. -/
  | i16
  /-- An unsigned number of 32 bits. -/
  | u32
  /-- A truth value. -/
  | flag
  /-- An unsigned number of 64 bits, which JSON writes as a text if it is large. -/
  | sequence
  /-- An authority. -/
  | authority
  /-- A share of a reward. -/
  | beneficiary
  /-- An extension. -/
  | extension
  /-- An extension of a content operation. -/
  | contentExtension
  /-- A list of items of one shape. -/
  | list (item : Shape)
  /-- A value that may be absent. -/
  | option (item : Shape)
  deriving DecidableEq, Repr

namespace Shape

/-- The type of the values of a shape. -/
abbrev Carrier : Shape → Type
  | text => String
  | asset => Asset
  | timestamp => Timestamp
  | key => PublicKey
  | u16 => UInt16
  | i16 => Int16
  | u32 => UInt32
  | flag => Bool
  | sequence => UInt64
  | authority => Authority
  | beneficiary => Beneficiary
  | extension => Extension
  | contentExtension => ContentExtension
  | list item => List item.Carrier
  | option item => Option item.Carrier

/-- Decides whether two values of a shape are the same. -/
def decEq : (s : Shape) → DecidableEq s.Carrier
  | text => inferInstanceAs (DecidableEq String)
  | asset => inferInstanceAs (DecidableEq Asset)
  | timestamp => inferInstanceAs (DecidableEq Timestamp)
  | key => inferInstanceAs (DecidableEq PublicKey)
  | u16 => inferInstanceAs (DecidableEq UInt16)
  | i16 => inferInstanceAs (DecidableEq Int16)
  | u32 => inferInstanceAs (DecidableEq UInt32)
  | flag => inferInstanceAs (DecidableEq Bool)
  | sequence => inferInstanceAs (DecidableEq UInt64)
  | authority => inferInstanceAs (DecidableEq Authority)
  | beneficiary => inferInstanceAs (DecidableEq Beneficiary)
  | extension => inferInstanceAs (DecidableEq Extension)
  | contentExtension => inferInstanceAs (DecidableEq ContentExtension)
  | list item =>
    have := decEq item
    inferInstanceAs (DecidableEq (List item.Carrier))
  | option item =>
    have := decEq item
    inferInstanceAs (DecidableEq (Option item.Carrier))

instance (s : Shape) : DecidableEq s.Carrier := s.decEq

/-- The wire form of a shape. -/
def codec : (s : Shape) → Wire.Codec s.Carrier
  | text => .text
  | asset => Asset.codec
  | timestamp => Timestamp.codec
  | key => PublicKey.codec
  | u16 => .u16
  | i16 => .i16
  | u32 => .u32
  | flag => .flag
  | sequence => .u64
  | authority => Authority.codec
  | beneficiary => Beneficiary.codec
  | extension => Extension.codec
  | contentExtension => ContentExtension.codec
  | list item => (codec item).list
  | option item => (codec item).option

/-- The JSON form of a shape. -/
def form : (s : Shape) → Json.Form s.Carrier
  | text => .text
  | asset => Asset.form
  | timestamp => Timestamp.form
  | key => PublicKey.form
  | u16 => .u16
  | i16 => .i16
  | u32 => .u32
  | flag => .flag
  | sequence => .flexU64
  | authority => Authority.form
  | beneficiary => Beneficiary.form
  | extension => Extension.form
  | contentExtension => ContentExtension.form
  | list item => (form item).list
  | option item => (form item).option

/-- What a field of a shape is when a record does not state it. -/
def presence : (s : Shape) → Json.Presence s.Carrier
  | option _ => .nullable
  | _ => .required

end Shape

/-! ### Layouts -/

/-- A named field of a payload. -/
inductive Entry
  /-- A field of some shape. -/
  | field (name : String) (shape : Shape)
  /-- A list of operations. -/
  | operations (name : String)
  deriving DecidableEq, Repr

/-- The fields of a payload in order. -/
abbrev Layout := List Entry

namespace Entry

/-- A text. -/
abbrev text (name : String) : Entry := .field name .text

/-- An amount of a symbol. -/
abbrev asset (name : String) : Entry := .field name .asset

/-- A point in time. -/
abbrev time (name : String) : Entry := .field name .timestamp

/-- A point in time that may be absent. -/
abbrev time? (name : String) : Entry := .field name (.option .timestamp)

/-- A public key. -/
abbrev key (name : String) : Entry := .field name .key

/-- An unsigned number of 16 bits. -/
abbrev u16 (name : String) : Entry := .field name .u16

/-- A signed number of 16 bits. -/
abbrev i16 (name : String) : Entry := .field name .i16

/-- An unsigned number of 32 bits. -/
abbrev u32 (name : String) : Entry := .field name .u32

/-- A truth value. -/
abbrev flag (name : String) : Entry := .field name .flag

/-- An unsigned number of 64 bits. -/
abbrev sequence (name : String) : Entry := .field name .sequence

/-- An authority. -/
abbrev authority (name : String) : Entry := .field name .authority

/-- An authority that may be absent. -/
abbrev authority? (name : String) : Entry := .field name (.option .authority)

/-- A list of texts. -/
abbrev texts (name : String) : Entry := .field name (.list .text)

/-- A list of public keys. -/
abbrev keys (name : String) : Entry := .field name (.list .key)

/-- Shares of a reward. -/
abbrev beneficiaries (name : String) : Entry := .field name (.list .beneficiary)

/-- The extensions of an operation. -/
abbrev extensions (name : String) : Entry := .field name (.list .extension)

/-- The extensions of a content operation. -/
abbrev contentExtensions (name : String) : Entry := .field name (.list .contentExtension)

end Entry

open Entry in
/-- The payload of each kind of operation. -/
def Kind.layout : Kind → Layout
  | .vote => [text "voter", text "author", text "permlink", i16 "weight"]
  | .content =>
    [text "parent_author", text "parent_permlink", text "author", text "permlink",
     text "title", text "body", i16 "curation_percent", text "json_metadata",
     contentExtensions "extensions"]
  | .transfer => [text "from", text "to", asset "amount", text "memo"]
  | .transferToVesting => [text "from", text "to", asset "amount"]
  | .withdrawVesting => [text "account", asset "vesting_shares"]
  | .accountUpdate =>
    [text "account", authority? "master", authority? "active", authority? "regular",
     key "memo_key", text "json_metadata"]
  | .witnessUpdate => [text "owner", text "url", key "block_signing_key"]
  | .accountWitnessVote => [text "account", text "witness", flag "approve"]
  | .accountWitnessProxy => [text "account", text "proxy"]
  | .deleteContent => [text "author", text "permlink"]
  | .custom =>
    [texts "required_active_auths", texts "required_regular_auths", text "id", text "json"]
  | .setWithdrawVestingRoute =>
    [text "from_account", text "to_account", u16 "percent", flag "auto_vest"]
  | .requestAccountRecovery =>
    [text "recovery_account", text "account_to_recover", authority "new_master_authority",
     extensions "extensions"]
  | .recoverAccount =>
    [text "account_to_recover", authority "new_master_authority",
     authority "recent_master_authority", extensions "extensions"]
  | .changeRecoveryAccount =>
    [text "account_to_recover", text "new_recovery_account", extensions "extensions"]
  | .escrowTransfer =>
    [text "from", text "to", asset "token_amount", u32 "escrow_id", text "agent", asset "fee",
     text "json_metadata", time "ratification_deadline", time "escrow_expiration"]
  | .escrowDispute => [text "from", text "to", text "agent", text "who", u32 "escrow_id"]
  | .escrowRelease =>
    [text "from", text "to", text "agent", text "who", text "receiver", u32 "escrow_id",
     asset "token_amount"]
  | .escrowApprove =>
    [text "from", text "to", text "agent", text "who", u32 "escrow_id", flag "approve"]
  | .delegateVestingShares => [text "delegator", text "delegatee", asset "vesting_shares"]
  | .accountCreate =>
    [asset "fee", asset "delegation", text "creator", text "new_account_name",
     authority "master", authority "active", authority "regular", key "memo_key",
     text "json_metadata", text "referrer", extensions "extensions"]
  | .accountMetadata => [text "account", text "json_metadata"]
  | .proposalCreate =>
    [text "author", text "title", text "memo", time "expiration_time",
     operations "proposed_operations", time? "review_period_time", extensions "extensions"]
  | .proposalUpdate =>
    [text "author", text "title", texts "active_approvals_to_add",
     texts "active_approvals_to_remove", texts "master_approvals_to_add",
     texts "master_approvals_to_remove", texts "regular_approvals_to_add",
     texts "regular_approvals_to_remove", keys "key_approvals_to_add",
     keys "key_approvals_to_remove", extensions "extensions"]
  | .proposalDelete => [text "author", text "title", text "requester", extensions "extensions"]
  | .authorReward =>
    [text "author", text "permlink", asset "token_payout", asset "vesting_payout"]
  | .curationReward =>
    [text "curator", asset "reward", text "content_author", text "content_permlink"]
  | .contentReward => [text "author", text "permlink", asset "payout"]
  | .fillVestingWithdraw =>
    [text "from_account", text "to_account", asset "withdrawn", asset "deposited"]
  | .shutdownWitness => [text "owner"]
  | .hardfork => [u32 "hardfork_id"]
  | .contentPayoutUpdate => [text "author", text "permlink"]
  | .contentBenefactorReward =>
    [text "benefactor", text "author", text "permlink", asset "reward"]
  | .returnVestingDelegation => [text "account", asset "vesting_shares"]
  | .committeeWorkerCreateRequest =>
    [text "creator", text "url", text "worker", asset "required_amount_min",
     asset "required_amount_max", u32 "duration"]
  | .committeeWorkerCancelRequest => [text "creator", u32 "request_id"]
  | .committeeVoteRequest => [text "voter", u32 "request_id", i16 "vote_percent"]
  | .committeeCancelRequest => [u32 "request_id"]
  | .committeeApproveRequest => [u32 "request_id"]
  | .committeePayoutRequest => [u32 "request_id"]
  | .committeePayRequest => [text "worker", u32 "request_id", asset "tokens"]
  | .witnessReward => [text "witness", asset "shares"]
  | .createInvite => [text "creator", asset "balance", key "invite_key"]
  | .claimInviteBalance => [text "initiator", text "receiver", text "invite_secret"]
  | .inviteRegistration =>
    [text "initiator", text "new_account_name", text "invite_secret", key "new_account_key"]
  | .award =>
    [text "initiator", text "receiver", u16 "energy", sequence "custom_sequence", text "memo",
     beneficiaries "beneficiaries"]
  | .receiveAward =>
    [text "initiator", text "receiver", sequence "custom_sequence", text "memo", asset "shares"]
  | .benefactorAward =>
    [text "initiator", text "benefactor", text "receiver", sequence "custom_sequence",
     text "memo", asset "shares"]
  | .setPaidSubscription =>
    [text "account", text "url", u16 "levels", asset "amount", u16 "period"]
  | .paidSubscribe =>
    [text "subscriber", text "account", u16 "level", asset "amount", u16 "period",
     flag "auto_renewal"]
  | .paidSubscriptionAction =>
    [text "subscriber", text "account", u16 "level", asset "amount", u16 "period",
     sequence "summary_duration_sec", asset "summary_amount"]
  | .cancelPaidSubscription => [text "subscriber", text "account"]
  | .setAccountPrice =>
    [text "account", text "account_seller", asset "account_offer_price", flag "account_on_sale"]
  | .setSubaccountPrice =>
    [text "account", text "subaccount_seller", asset "subaccount_offer_price",
     flag "subaccount_on_sale"]
  | .buyAccount =>
    [text "buyer", text "account", asset "account_offer_price", key "account_authorities_key",
     asset "tokens_to_shares"]
  | .accountSale => [text "account", asset "price", text "buyer", text "seller"]
  | .useInviteBalance => [text "initiator", text "receiver", text "invite_secret"]
  | .expireEscrowRatification =>
    [text "from", text "to", text "agent", u32 "escrow_id", asset "token_amount", asset "fee",
     time "ratification_deadline"]
  | .fixedAward =>
    [text "initiator", text "receiver", asset "reward_amount", u16 "max_energy",
     sequence "custom_sequence", text "memo", beneficiaries "beneficiaries"]
  | .targetAccountSale =>
    [text "account", text "account_seller", text "target_buyer", asset "account_offer_price",
     flag "account_on_sale"]
  | .chainPropertiesUpdate | .versionedChainPropertiesUpdate => []

end LedgerClient
