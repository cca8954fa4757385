import LedgerClient.Authority
import LedgerClient.Asset.Wire
import LedgerClient.Timestamp.Basic

/-!
# Accounts

An account as a node reports it: who may act for it, what it holds and what it has done lately.
-/

namespace LedgerClient

/-- An account. -/
structure Account where
  /-- The number of the account. -/
  id : UInt32
  /-- The name of the account. -/
  name : String
  /-- Who may change the authorities. -/
  master : Authority
  /-- Who may spend. -/
  active : Authority
  /-- Who may do everything else. -/
  regular : Authority
  /-- The key for encrypted memos. -/
  memoKey : PublicKey
  /-- What the account says about itself. -/
  metadata : String
  /-- Who votes for witnesses in place of the account. -/
  proxy : String
  /-- Who brought the account in. -/
  referrer : String
  /-- When the account was made. -/
  created : Timestamp
  /-- Who may help to recover the account. -/
  recoveryAccount : String
  /-- The energy left, in hundredths of a percent. -/
  energy : Int16
  /-- When the account last voted. -/
  lastVote : Option Timestamp
  /-- The tokens it holds. -/
  balance : Asset
  /-- The shares it holds. -/
  shares : Asset
  /-- The shares it has lent to others. -/
  delegatedShares : Option Asset
  /-- The shares that others have lent to it. -/
  receivedShares : Option Asset
  /-- The shares that become tokens in each step. -/
  withdrawRate : Option Asset
  /-- When the next step is. -/
  nextWithdrawal : Option Timestamp
  /-- How many custom operations it has sent. -/
  customSequence : UInt64
  /-- For how many witnesses it votes. -/
  witnessesVotedFor : UInt16
  deriving DecidableEq

namespace Account

/-- The JSON form. -/
def form : Json.Form Account :=
  .record (Json.Fields.start mk
    |>.field "id" .u32 id
    |>.field "name" .text name
    |>.field "master_authority" Authority.form master
    |>.field "active_authority" Authority.form active
    |>.field "regular_authority" Authority.form regular
    |>.field "memo_key" PublicKey.form memoKey
    |>.default "json_metadata" .text metadata ""
    |>.default "proxy" .text proxy ""
    |>.default "referrer" .text referrer ""
    |>.field "created" Timestamp.form created
    |>.default "recovery_account" .text recoveryAccount ""
    |>.default "energy" .i16 energy 0
    |>.optional "last_vote_time" Timestamp.form lastVote
    |>.field "balance" Asset.form balance
    |>.field "vesting_shares" Asset.form shares
    |>.optional "delegated_vesting_shares" Asset.form delegatedShares
    |>.optional "received_vesting_shares" Asset.form receivedShares
    |>.optional "vesting_withdraw_rate" Asset.form withdrawRate
    |>.optional "next_vesting_withdrawal" Timestamp.form nextWithdrawal
    |>.default "custom_sequence" .flexU64 customSequence 0
    |>.default "witnesses_voted_for" .u16 witnessesVotedFor 0)

/-- The keys of all authorities in turn, and the key for memos. -/
def keys (a : Account) : List PublicKey :=
  (a.master.keys ++ a.active.keys ++ a.regular.keys).map Prod.fst ++ [a.memoKey]

end Account

end LedgerClient
