import LedgerClient.Duration
import LedgerClient.Json.Misfit

/-!
# Why a call fails

A call fails because no reply came that could be used, because a reply could not be read, or because
the node refused it. Some of these faults have a cause of their own behind them.
-/

namespace LedgerClient.Rpc

/-- What a node says when it refuses a call. -/
structure Refusal where
  /-- The number of the reason. -/
  code : Int64
  /-- The reason in words. -/
  message : String
  /-- Details, if there are any. -/
  data : Option Json
  deriving DecidableEq

/-- Why no reply came that could be used. -/
inductive NetworkFlaw
  /-- The call of the method took longer than it may. -/
  | timeout (method : String) (limit : Duration)
  /-- The reply has another status than success. -/
  | status (code : UInt16)
  /-- The reply is blank. -/
  | blank
  /-- The reply answers another request. -/
  | mismatch
  /-- The text is no address. -/
  | endpoint (text : String)
  /-- The connection cannot be set up. -/
  | setup
  /-- The request cannot be sent. -/
  | unsent
  /-- A flaw that a transport states in its own words. -/
  | stated (text : String) (cause : Option String)

/-- The wording of a flaw. -/
def NetworkFlaw.message : NetworkFlaw → String
  | .timeout method limit => method ++ " timed out after " ++ limit.text
  | .status code => "unexpected HTTP status " ++ toString code.toNat
  | .blank => "empty response body"
  | .mismatch => "Request id mismatch"
  | .endpoint s => "invalid endpoint " ++ Quoted.text s
  | .setup => "initialising HTTP client"
  | .unsent => "request failed"
  | .stated s _ => s

/-- Whether a flaw has a cause of its own. -/
def NetworkFlaw.hasCause : NetworkFlaw → Bool
  | .timeout _ _ | .status _ | .blank | .mismatch => false
  | .endpoint _ | .setup | .unsent => true
  | .stated _ cause => cause.isSome

/-- Why a text or a value cannot be read. -/
inductive CodingFlaw
  /-- The reply is no envelope. -/
  | envelope
  /-- The method should have a result but has none. -/
  | noResult (method : String) (why : Json.Misfit)
  /-- The result does not fit the method. -/
  | result (method : String) (why : Json.Misfit)
  /-- The text is no call. -/
  | text
  /-- A flaw that is stated in its own words. -/
  | stated (text : String) (cause : Option String)

/-- The wording of a flaw. -/
def CodingFlaw.message : CodingFlaw → String
  | .envelope => "malformed response envelope"
  | .noResult method _ => method ++ " returned no result"
  | .result method _ => "unexpected result for " ++ method
  | .text => "invalid json"
  | .stated s _ => s

/-- Whether a flaw has a cause of its own. -/
def CodingFlaw.hasCause : CodingFlaw → Bool
  | .envelope | .noResult _ _ | .result _ _ | .text => true
  | .stated _ cause => cause.isSome

/-- Why a call fails. -/
inductive Fault
  /-- No reply came that could be used. -/
  | network (flaw : NetworkFlaw)
  /-- A text or a value cannot be read. -/
  | coding (flaw : CodingFlaw)
  /-- The node refused the call. -/
  | refused (refusal : Refusal)

namespace Fault

/-- The reason alone. -/
def reason : Fault → String
  | network flaw => flaw.message
  | coding flaw => flaw.message
  | refused refusal => refusal.message

/-- The wording of a fault. -/
def message : Fault → String
  | network flaw => "network error: " ++ flaw.message
  | coding flaw => "coding error: " ++ flaw.message
  | refused refusal => "node error " ++ toString refusal.code.toInt ++ ": " ++ refusal.message

/-- Whether a fault has a cause of its own. -/
def hasCause : Fault → Bool
  | network flaw => flaw.hasCause
  | coding flaw => flaw.hasCause
  | refused _ => false

/-- The cause of a fault, in its own words, if it states one. -/
def cause? : Fault → Option String
  | network (.stated _ cause) | coding (.stated _ cause) => cause
  | _ => none

/-- A fault with the same reason and without a cause. -/
def restated : Fault → Fault
  | network flaw => network (.stated flaw.message none)
  | coding flaw => coding (.stated flaw.message none)
  | refused refusal => coding (.stated refusal.message none)

end Fault

end LedgerClient.Rpc
