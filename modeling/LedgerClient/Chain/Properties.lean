import LedgerClient.Asset.Wire
import LedgerClient.Identifier
import LedgerClient.Timestamp.Basic

/-!
# Properties of the chain

What a node reports about the chain as a whole: its state at the latest block, which tells what
block a new transaction should refer to, and the parameters on which witnesses vote. Members that a
later node adds are ignored, and most of those that an earlier node lacks have defaults.
-/

namespace LedgerClient

/-! ### The state at the latest block -/

/-- The state of the chain at its latest block. -/
structure ChainState where
  /-- The number of the latest block. -/
  headNumber : UInt32
  /-- The identifier of the latest block. -/
  head : BlockId
  /-- When the latest block was made. -/
  time : Timestamp
  /-- When the first block was made. -/
  genesisTime : Option Timestamp
  /-- Who made the latest block. -/
  currentWitness : String
  /-- The number of the latest block that no history can drop any more. -/
  lastIrreversible : UInt32
  /-- What the committee may spend. -/
  committeeFund : Option Asset
  /-- All tokens there are. -/
  supply : Option Asset
  /-- All tokens that back shares. -/
  vestingFund : Option Asset
  /-- All shares there are. -/
  vestingShares : Option Asset
  /-- What awards are paid from. -/
  rewardFund : Option Asset
  /-- The largest size of a block in bytes. -/
  maximumBlockSize : UInt32
  /-- The average size of a block in bytes. -/
  averageBlockSize : UInt32
  /-- The number of time slots since the first block. -/
  slot : UInt64
  /-- How many of the latest slots have a block. -/
  participation : UInt32
  /-- The part of the inflation that witnesses get, in hundredths of a percent. -/
  inflationWitnessPercent : UInt16
  /-- The part of the rest of the inflation that the committee gets. -/
  inflationRatio : UInt16
  deriving DecidableEq

namespace ChainState

/-- The JSON form. -/
def form : Json.Form ChainState :=
  .record (Json.Fields.start mk
    |>.field "head_block_number" .u32 headNumber
    |>.field "head_block_id" Identifier.form head
    |>.field "time" Timestamp.form time
    |>.optional "genesis_time" Timestamp.form genesisTime
    |>.field "current_witness" .text currentWitness
    |>.field "last_irreversible_block_num" .u32 lastIrreversible
    |>.optional "committee_fund" Asset.form committeeFund
    |>.optional "current_supply" Asset.form supply
    |>.optional "total_vesting_fund" Asset.form vestingFund
    |>.optional "total_vesting_shares" Asset.form vestingShares
    |>.optional "total_reward_fund" Asset.form rewardFund
    |>.default "maximum_block_size" .u32 maximumBlockSize 0
    |>.default "average_block_size" .u32 averageBlockSize 0
    |>.default "current_aslot" .flexU64 slot 0
    |>.default "participation_count" .u32 participation 0
    |>.default "inflation_witness_percent" .u16 inflationWitnessPercent 0
    |>.default "inflation_ratio" .u16 inflationRatio 0)

end ChainState

/-! ### The parameters that witnesses vote on -/

/-- The parameters of the chain that witnesses vote on. -/
structure ChainParameters where
  /-- The price of a new account. -/
  accountCreationFee : Asset
  /-- The largest size of a block in bytes. -/
  maximumBlockSize : UInt32
  /-- How much more a new account costs that is paid for by delegation. -/
  createAccountDelegationRatio : UInt32
  /-- How many seconds the delegation for a new account lasts. -/
  createAccountDelegationTime : UInt32
  /-- The least amount that can be delegated. -/
  minDelegation : Asset
  /-- The least part of a reward that curators get. -/
  minCurationPercent : Int16
  /-- The largest part of a reward that curators get. -/
  maxCurationPercent : Int16
  /-- The part of the bandwidth that is reserved for small accounts. -/
  bandwidthReservePercent : Int16
  /-- The shares below which an account is small. -/
  bandwidthReserveBelow : Asset
  /-- The additional energy that a vote against costs. -/
  flagEnergyAdditionalCost : Int16
  /-- The least weight of a vote that counts. -/
  voteAccountingMinShares : UInt32
  /-- The part of all votes that a committee request needs. -/
  committeeRequestApproveMinPercent : Int16
  /-- The part of the inflation that witnesses get. -/
  inflationWitnessPercent : Int16
  /-- How the rest of the inflation is split. -/
  inflationRatio : Int16
  /-- After how many blocks the inflation is computed anew. -/
  inflationRecalculationPeriod : UInt32
  /-- The additional bandwidth that operations with data cost. -/
  dataOperationsCost : UInt32
  /-- The part of its votes that a witness loses for a missed block. -/
  missPenaltyPercent : Int16
  /-- How many seconds that penalty lasts. -/
  missPenaltyDuration : UInt32
  /-- The least balance of an invite. -/
  createInviteMinBalance : Option Asset
  /-- The price of a committee request. -/
  committeeCreateRequestFee : Option Asset
  /-- The price of offering a paid subscription. -/
  createPaidSubscriptionFee : Option Asset
  /-- The price of offering an account for sale. -/
  accountOnSaleFee : Option Asset
  /-- The price of offering the names below an account for sale. -/
  subaccountOnSaleFee : Option Asset
  /-- The price of becoming a witness. -/
  witnessDeclarationFee : Option Asset
  /-- In how many steps shares become tokens again. -/
  withdrawIntervals : UInt16
  deriving DecidableEq

namespace ChainParameters

/-- The JSON form. -/
def form : Json.Form ChainParameters :=
  .record (Json.Fields.start mk
    |>.field "account_creation_fee" Asset.form accountCreationFee
    |>.field "maximum_block_size" .u32 maximumBlockSize
    |>.field "create_account_delegation_ratio" .u32 createAccountDelegationRatio
    |>.field "create_account_delegation_time" .u32 createAccountDelegationTime
    |>.field "min_delegation" Asset.form minDelegation
    |>.field "min_curation_percent" .i16 minCurationPercent
    |>.field "max_curation_percent" .i16 maxCurationPercent
    |>.field "bandwidth_reserve_percent" .i16 bandwidthReservePercent
    |>.field "bandwidth_reserve_below" Asset.form bandwidthReserveBelow
    |>.field "flag_energy_additional_cost" .i16 flagEnergyAdditionalCost
    |>.field "vote_accounting_min_rshares" .u32 voteAccountingMinShares
    |>.field "committee_request_approve_min_percent" .i16 committeeRequestApproveMinPercent
    |>.default "inflation_witness_percent" .i16 inflationWitnessPercent 0
    |>.default "inflation_ratio_committee_vs_reward_fund" .i16 inflationRatio 0
    |>.default "inflation_recalc_period" .u32 inflationRecalculationPeriod 0
    |>.default "data_operations_cost_additional_bandwidth" .u32 dataOperationsCost 0
    |>.default "witness_miss_penalty_percent" .i16 missPenaltyPercent 0
    |>.default "witness_miss_penalty_duration" .u32 missPenaltyDuration 0
    |>.optional "create_invite_min_balance" Asset.form createInviteMinBalance
    |>.optional "committee_create_request_fee" Asset.form committeeCreateRequestFee
    |>.optional "create_paid_subscription_fee" Asset.form createPaidSubscriptionFee
    |>.optional "account_on_sale_fee" Asset.form accountOnSaleFee
    |>.optional "subaccount_on_sale_fee" Asset.form subaccountOnSaleFee
    |>.optional "witness_declaration_fee" Asset.form witnessDeclarationFee
    |>.default "withdraw_intervals" .u16 withdrawIntervals 0)

end ChainParameters

end LedgerClient
