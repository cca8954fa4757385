import LedgerClient.Rpc.Connection

/-!
# Local nodes

A node within the program, for trying out what a client does. It is given by how it answers a call,
from state to state; the transport to it reads the text that is posted, notes the call and writes
the answer into an envelope.
-/

namespace LedgerClient.Rpc

/-- A call as a node receives it. -/
structure Received where
  /-- The number of the call, whatever it is. -/
  id : Json
  /-- The call. -/
  call : Invocation
  deriving DecidableEq

namespace Received

/-- The JSON form of a call as it is received. -/
def form : Json.Form Received :=
  .record (Json.Fields.start mk
    |>.field "id" .any id
    |>.field "params" Invocation.form call)

/-- Reads the text that is posted for a call. -/
def ofText (s : String) : Except Fault Received :=
  match (Json.evaluate? (.record [("id", .all), ("params", .all)]) s).bind fun v =>
      (form.read v).toOption with
  | some call => .ok call
  | none => .error (.coding .text)

end Received

/-- What a node answers. -/
inductive Answer
  /-- A result. -/
  | result (value : Json)
  /-- A refusal. -/
  | refusal (refusal : Refusal)
  /-- A reply that is sent as it is. -/
  | raw (reply : Reply)

namespace Answer

/-- A refusal without details. -/
def refuse (code : Int64) (message : String) : Answer :=
  .refusal ⟨code, message, none⟩

/-- The reply with an answer to the call with a number. -/
def reply (id : Json) : Answer → Reply
  | result value =>
    .ok (Json.obj [("id", id), ("jsonrpc", .str "2.0"), ("result", value)]).sorted.text
  | refusal r =>
    .ok (Json.obj
      [("error", Refusal.form.write r), ("id", id), ("jsonrpc", .str "2.0")]).sorted.text
  | raw reply => reply

end Answer

/-- A node within the program. -/
structure LocalNode (σ : Type) where
  /-- How the node answers a call. -/
  answer : Received → σ → Answer × σ
  /-- How long the node takes to answer. -/
  delay : Duration

/-- A node and the calls that it has received. -/
structure LocalNetwork (σ : Type) where
  /-- The state of the node. -/
  node : σ
  /-- The calls that the node has answered, the oldest first. -/
  calls : List Received

/-- The transport to a local node. A text that is no call does not reach it. -/
def LocalNode.transport {σ : Type} (n : LocalNode σ) : Transport (LocalNetwork σ) :=
  fun body s =>
    match Received.ofText body with
    | .error fault => ⟨s, ⟨0⟩, .error fault, s⟩
    | .ok received =>
      let (answer, node) := n.answer received s.node
      ⟨s, n.delay, .ok (answer.reply received.id), ⟨node, s.calls ++ [received]⟩⟩

end LedgerClient.Rpc
