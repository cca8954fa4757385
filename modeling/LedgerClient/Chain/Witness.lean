import LedgerClient.Chain.Properties
import LedgerClient.Key.Public

/-!
# Witnesses

A witness makes blocks and votes on the parameters of the chain.
-/

namespace LedgerClient

/-- A witness. -/
structure Witness where
  /-- The number of the witness. -/
  id : UInt32
  /-- The account of the witness. -/
  owner : String
  /-- When the witness first stood for election. -/
  created : Timestamp
  /-- What the witness says about itself. -/
  url : String
  /-- The weight of all votes for it. -/
  votes : Int64
  /-- How many blocks it failed to make. -/
  missed : UInt32
  /-- The slot of its latest block. -/
  lastSlot : UInt64
  /-- The number of its latest block. -/
  lastBlock : UInt64
  /-- The key that signs its blocks. -/
  signingKey : PublicKey
  /-- The parameters that it votes for. -/
  parameters : Option ChainParameters
  /-- The version that it runs. -/
  version : String
  /-- The version that it wants the chain to move to. -/
  hardforkVersion : String
  /-- When it wants the chain to move. -/
  hardforkTime : Option Timestamp
  deriving DecidableEq

namespace Witness

/-- The JSON form. -/
def form : Json.Form Witness :=
  .record (Json.Fields.start mk
    |>.field "id" .u32 id
    |>.field "owner" .text owner
    |>.field "created" Timestamp.form created
    |>.field "url" .text url
    |>.field "votes" .flexI64 votes
    |>.default "total_missed" .u32 missed 0
    |>.default "last_aslot" .flexU64 lastSlot 0
    |>.default "last_confirmed_block_num" .flexU64 lastBlock 0
    |>.field "signing_key" PublicKey.form signingKey
    |>.optional "props" ChainParameters.form parameters
    |>.default "running_version" .text version ""
    |>.default "hardfork_version_vote" .text hardforkVersion ""
    |>.optional "hardfork_time_vote" Timestamp.form hardforkTime)

/-- Whether the witness makes blocks: one without a key does not. -/
def isActive (w : Witness) : Bool :=
  !w.signingKey.isNull

end Witness

end LedgerClient
