import LedgerClient.Asset.Wire
import LedgerClient.Key.Public
import LedgerClient.Timestamp.Basic

/-!
# Committee requests and invites

Two records of a node about tokens set aside: requests for funds of the committee with the votes on
them, and invites, whose balance goes to whoever knows their secret.
-/

namespace LedgerClient

/-! ### Committee requests -/

/-- A vote on a request. -/
structure CommitteeVote where
  /-- Who voted. -/
  voter : String
  /-- The part of the largest amount that the voter would pay, in hundredths of a percent. -/
  percent : Int16
  /-- When the vote was cast. -/
  lastUpdate : Timestamp
  deriving DecidableEq

namespace CommitteeVote

/-- The JSON form. -/
def form : Json.Form CommitteeVote :=
  .record (Json.Fields.start mk
    |>.field "voter" .text voter
    |>.field "vote_percent" .i16 percent
    |>.field "last_update" Timestamp.form lastUpdate)

end CommitteeVote

/-- A request for funds of the committee. -/
structure CommitteeRequest where
  /-- The number of the record. -/
  id : UInt32
  /-- The number of the request. -/
  requestId : UInt32
  /-- What the request is about. -/
  url : String
  /-- Who made the request. -/
  creator : String
  /-- Who is to be paid. -/
  worker : String
  /-- The least amount asked for. -/
  minimum : Asset
  /-- The largest amount asked for. -/
  maximum : Asset
  /-- When voting begins. -/
  start : Timestamp
  /-- How many seconds voting lasts. -/
  duration : UInt32
  /-- When voting ends. -/
  finish : Timestamp
  /-- The state of the request. -/
  status : UInt16
  /-- How many votes there are. -/
  voteCount : UInt32
  /-- When the request was decided. -/
  concluded : Option Timestamp
  /-- The amount that was granted. -/
  granted : Option Asset
  /-- The amount that was paid. -/
  paid : Option Asset
  /-- The amount that is still to be paid. -/
  remaining : Option Asset
  /-- The votes. -/
  votes : List CommitteeVote
  deriving DecidableEq

namespace CommitteeRequest

/-- The JSON form. -/
def form : Json.Form CommitteeRequest :=
  .record (Json.Fields.start mk
    |>.field "id" .u32 id
    |>.field "request_id" .u32 requestId
    |>.field "url" .text url
    |>.field "creator" .text creator
    |>.field "worker" .text worker
    |>.field "required_amount_min" Asset.form minimum
    |>.field "required_amount_max" Asset.form maximum
    |>.field "start_time" Timestamp.form start
    |>.field "duration" .u32 duration
    |>.field "end_time" Timestamp.form finish
    |>.field "status" .u16 status
    |>.default "votes_count" .u32 voteCount 0
    |>.optional "conclusion_time" Timestamp.form concluded
    |>.optional "conclusion_payout_amount" Asset.form granted
    |>.optional "payout_amount" Asset.form paid
    |>.optional "remain_payout_amount" Asset.form remaining
    |>.default "votes" CommitteeVote.form.list votes [])

end CommitteeRequest

/-! ### Invites -/

/-- An invite. -/
structure Invite where
  /-- The number of the invite. -/
  id : UInt32
  /-- Who paid for the invite. -/
  creator : String
  /-- Who claimed the invite. -/
  receiver : String
  /-- The key that belongs to the secret. -/
  key : PublicKey
  /-- The secret, once it is known. -/
  secret : String
  /-- What the invite holds. -/
  balance : Asset
  /-- What was claimed. -/
  claimed : Asset
  /-- When the invite was made. -/
  created : Timestamp
  /-- When the invite was claimed. -/
  claimTime : Option Timestamp
  /-- The state of the invite. -/
  status : UInt16
  deriving DecidableEq

namespace Invite

/-- The JSON form. -/
def form : Json.Form Invite :=
  .record (Json.Fields.start mk
    |>.field "id" .u32 id
    |>.field "creator" .text creator
    |>.default "receiver" .text receiver ""
    |>.field "invite_key" PublicKey.form key
    |>.default "invite_secret" .text secret ""
    |>.field "balance" Asset.form balance
    |>.field "claimed_balance" Asset.form claimed
    |>.field "create_time" Timestamp.form created
    |>.optional "claim_time" Timestamp.form claimTime
    |>.field "status" .u16 status)

end Invite

end LedgerClient
