import LedgerClient.Text.Quoted

/-!
# Kinds of operations

The ledger numbers its operations from zero on and gives each a name. Some are only ever emitted by
nodes, as the outcome of others: these are virtual. Two numbers are reserved, because this library
has no payload for them.
-/

namespace LedgerClient

/-- A kind of operation, in the order of the numbers. -/
inductive Kind
  | vote
  | content
  | transfer
  | transferToVesting
  | withdrawVesting
  | accountUpdate
  | witnessUpdate
  | accountWitnessVote
  | accountWitnessProxy
  | deleteContent
  | custom
  | setWithdrawVestingRoute
  | requestAccountRecovery
  | recoverAccount
  | changeRecoveryAccount
  | escrowTransfer
  | escrowDispute
  | escrowRelease
  | escrowApprove
  | delegateVestingShares
  | accountCreate
  | accountMetadata
  | proposalCreate
  | proposalUpdate
  | proposalDelete
  | chainPropertiesUpdate
  | authorReward
  | curationReward
  | contentReward
  | fillVestingWithdraw
  | shutdownWitness
  | hardfork
  | contentPayoutUpdate
  | contentBenefactorReward
  | returnVestingDelegation
  | committeeWorkerCreateRequest
  | committeeWorkerCancelRequest
  | committeeVoteRequest
  | committeeCancelRequest
  | committeeApproveRequest
  | committeePayoutRequest
  | committeePayRequest
  | witnessReward
  | createInvite
  | claimInviteBalance
  | inviteRegistration
  | versionedChainPropertiesUpdate
  | award
  | receiveAward
  | benefactorAward
  | setPaidSubscription
  | paidSubscribe
  | paidSubscriptionAction
  | cancelPaidSubscription
  | setAccountPrice
  | setSubaccountPrice
  | buyAccount
  | accountSale
  | useInviteBalance
  | expireEscrowRatification
  | fixedAward
  | targetAccountSale
  deriving DecidableEq, Repr, Inhabited

namespace Kind

/-- All kinds in the order of their numbers. -/
def all : List Kind :=
  [.vote, .content, .transfer, .transferToVesting, .withdrawVesting, .accountUpdate,
   .witnessUpdate, .accountWitnessVote, .accountWitnessProxy, .deleteContent, .custom,
   .setWithdrawVestingRoute, .requestAccountRecovery, .recoverAccount, .changeRecoveryAccount,
   .escrowTransfer, .escrowDispute, .escrowRelease, .escrowApprove, .delegateVestingShares,
   .accountCreate, .accountMetadata, .proposalCreate, .proposalUpdate, .proposalDelete,
   .chainPropertiesUpdate, .authorReward, .curationReward, .contentReward, .fillVestingWithdraw,
   .shutdownWitness, .hardfork, .contentPayoutUpdate, .contentBenefactorReward,
   .returnVestingDelegation, .committeeWorkerCreateRequest, .committeeWorkerCancelRequest,
   .committeeVoteRequest, .committeeCancelRequest, .committeeApproveRequest,
   .committeePayoutRequest, .committeePayRequest, .witnessReward, .createInvite,
   .claimInviteBalance, .inviteRegistration, .versionedChainPropertiesUpdate, .award,
   .receiveAward, .benefactorAward, .setPaidSubscription, .paidSubscribe,
   .paidSubscriptionAction, .cancelPaidSubscription, .setAccountPrice, .setSubaccountPrice,
   .buyAccount, .accountSale, .useInviteBalance, .expireEscrowRatification, .fixedAward,
   .targetAccountSale]

/-- The name of a kind. -/
def name : Kind → String
  | vote => "vote"
  | content => "content"
  | transfer => "transfer"
  | transferToVesting => "transfer_to_vesting"
  | withdrawVesting => "withdraw_vesting"
  | accountUpdate => "account_update"
  | witnessUpdate => "witness_update"
  | accountWitnessVote => "account_witness_vote"
  | accountWitnessProxy => "account_witness_proxy"
  | deleteContent => "delete_content"
  | custom => "custom"
  | setWithdrawVestingRoute => "set_withdraw_vesting_route"
  | requestAccountRecovery => "request_account_recovery"
  | recoverAccount => "recover_account"
  | changeRecoveryAccount => "change_recovery_account"
  | escrowTransfer => "escrow_transfer"
  | escrowDispute => "escrow_dispute"
  | escrowRelease => "escrow_release"
  | escrowApprove => "escrow_approve"
  | delegateVestingShares => "delegate_vesting_shares"
  | accountCreate => "account_create"
  | accountMetadata => "account_metadata"
  | proposalCreate => "proposal_create"
  | proposalUpdate => "proposal_update"
  | proposalDelete => "proposal_delete"
  | chainPropertiesUpdate => "chain_properties_update"
  | authorReward => "author_reward"
  | curationReward => "curation_reward"
  | contentReward => "content_reward"
  | fillVestingWithdraw => "fill_vesting_withdraw"
  | shutdownWitness => "shutdown_witness"
  | hardfork => "hardfork"
  | contentPayoutUpdate => "content_payout_update"
  | contentBenefactorReward => "content_benefactor_reward"
  | returnVestingDelegation => "return_vesting_delegation"
  | committeeWorkerCreateRequest => "committee_worker_create_request"
  | committeeWorkerCancelRequest => "committee_worker_cancel_request"
  | committeeVoteRequest => "committee_vote_request"
  | committeeCancelRequest => "committee_cancel_request"
  | committeeApproveRequest => "committee_approve_request"
  | committeePayoutRequest => "committee_payout_request"
  | committeePayRequest => "committee_pay_request"
  | witnessReward => "witness_reward"
  | createInvite => "create_invite"
  | claimInviteBalance => "claim_invite_balance"
  | inviteRegistration => "invite_registration"
  | versionedChainPropertiesUpdate => "versioned_chain_properties_update"
  | award => "award"
  | receiveAward => "receive_award"
  | benefactorAward => "benefactor_award"
  | setPaidSubscription => "set_paid_subscription"
  | paidSubscribe => "paid_subscribe"
  | paidSubscriptionAction => "paid_subscription_action"
  | cancelPaidSubscription => "cancel_paid_subscription"
  | setAccountPrice => "set_account_price"
  | setSubaccountPrice => "set_subaccount_price"
  | buyAccount => "buy_account"
  | accountSale => "account_sale"
  | useInviteBalance => "use_invite_balance"
  | expireEscrowRatification => "expire_escrow_ratification"
  | fixedAward => "fixed_award"
  | targetAccountSale => "target_account_sale"

/-- The number of a kind. -/
def tag (k : Kind) : Nat :=
  all.idxOf k

/-- The kind of a number. -/
def ofTag? (n : Nat) : Option Kind :=
  all[n]?

/-- What may follow the name of a kind in texts. -/
def longSuffix : List Char :=
  "_operation".toList

/-- A name without the long suffix. -/
def shortName (s : String) : String :=
  let cs := s.toList
  if longSuffix.isSuffixOf cs then String.ofList (cs.take (cs.length - longSuffix.length)) else s

/-- The kind of a name, which may carry the long suffix. -/
def ofName? (s : String) : Option Kind :=
  let short := shortName s
  all.find? fun k => k.name = short

/-- A name that no kind has. -/
structure NoSuchKind where
  /-- The name. -/
  name : String
  deriving DecidableEq, Repr

/-- The wording for a name that no kind has. -/
def NoSuchKind.message (n : NoSuchKind) : String :=
  "unknown operation " ++ Quoted.text n.name

/-- The kind of a name, which may carry the long suffix. -/
def ofName (s : String) : Except NoSuchKind Kind :=
  match ofName? s with
  | some k => .ok k
  | none => .error ⟨s⟩

/-- Whether only nodes emit operations of a kind. -/
def isVirtual : Kind → Bool
  | .authorReward | .curationReward | .contentReward | .fillVestingWithdraw | .shutdownWitness
  | .hardfork | .contentPayoutUpdate | .contentBenefactorReward | .returnVestingDelegation
  | .committeeCancelRequest | .committeeApproveRequest | .committeePayoutRequest
  | .committeePayRequest | .witnessReward | .receiveAward | .benefactorAward
  | .paidSubscriptionAction | .cancelPaidSubscription | .accountSale
  | .expireEscrowRatification => true
  | _ => false

/-- Whether a number is reserved for operations that this library has no payload for. -/
def isReserved : Kind → Bool
  | .chainPropertiesUpdate | .versionedChainPropertiesUpdate => true
  | _ => false

/-- The words of a name, each with a capital letter, as one word. -/
def capitalized : (start : Bool) → List Char → List Char
  | _, [] => []
  | start, c :: cs =>
    if c = '_' then capitalized true cs
    else (if start then c.toUpper else c) :: capitalized false cs

/-- The name of a kind as one capitalized word. -/
def label (k : Kind) : String :=
  String.ofList (capitalized true k.name.toList)

end Kind

end LedgerClient
