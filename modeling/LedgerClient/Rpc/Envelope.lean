import LedgerClient.Json.Evaluate
import LedgerClient.Json.Form
import LedgerClient.Rpc.Fault

/-!
# Envelopes

A call travels as a JSON object with a number, and the reply as an object that repeats the number
and holds a result or a refusal. A reply answers a call only if it repeats its number; some nodes
repeat it as a text.

* `Invocation.envelope` writes a call.
* `Reply.resolve` says what a reply means for the call with a number.
-/

namespace LedgerClient.Rpc

/-! ### Calls -/

/-- A method of a plugin with its parameters. -/
structure Invocation where
  /-- The plugin that serves the method. -/
  plugin : String
  /-- The method. -/
  method : String
  /-- The parameters in order. -/
  params : List Json
  deriving DecidableEq

namespace Invocation

/-- The envelope of a call with a number. -/
def envelope (call : Invocation) (id : UInt64) : Json :=
  .obj [("id", .nat id.toNat), ("jsonrpc", .str "2.0"), ("method", .str "call"),
    ("params", .arr [.str call.plugin, .str call.method, .arr call.params])]

/-- The text that is sent for a call with a number. -/
def text (call : Invocation) (id : UInt64) : String :=
  (call.envelope id).text

/-- The JSON form of a call within its envelope: a list of three items. -/
def form : Json.Form Invocation where
  write call := .arr [.str call.plugin, .str call.method, .arr call.params]
  read
    | .arr [plugin, method, params] => do
      return ⟨← Json.Form.text.read plugin, ← Json.Form.text.read method,
        ← Json.Form.any.list.read params⟩
    | .arr _ => .error .length
    | _ => .error (.kind "a call")

end Invocation

/-! ### Responses -/

/-- The fields of a refusal. -/
def Refusal.form : Json.Form Refusal :=
  .record (Json.Fields.start mk
    |>.field "code" .i64 code
    |>.field "message" .text message
    |>.optional "data" .any data)

/-- What a reply says. -/
structure Response where
  /-- The number of the call, as the node repeats it. -/
  id : Option Json
  /-- The result. -/
  result : Option Json
  /-- The refusal. -/
  refusal : Option Refusal
  deriving DecidableEq

namespace Response

/-- The JSON form of a response. -/
def form : Json.Form Response :=
  .record (Json.Fields.start mk
    |>.optional "id" .any id
    |>.optional "result" .any result
    |>.optional "error" Refusal.form refusal)

/-- The members of a response that are read. -/
def demand : Json.Demand :=
  .record [("id", .all), ("result", .all),
    ("error", .record [("code", .all), ("message", .all), ("data", .all)])]

/-- Reads the text of a response. -/
def ofText? (s : String) : Option Response :=
  (Json.evaluate? demand s).bind fun v => (form.read v).toOption

/-- Whether a response repeats the number, as a number or as a text. -/
def answers (r : Response) (id : UInt64) : Bool :=
  match r.id with
  | some (.num (.int i)) => i = id.toNat
  | some (.str s) => Numeral.unsigned? UInt64.size s.toList = some id.toNat
  | _ => false

end Response

/-! ### Replies -/

/-- What comes back over the network. -/
structure Reply where
  /-- The status. -/
  status : UInt16
  /-- The text. -/
  body : String
  deriving DecidableEq

namespace Reply

/-- The status of success. -/
def success : UInt16 := 200

/-- A reply of success. -/
def ok (body : String) : Reply := ⟨success, body⟩

/-- What a reply means for the call with a number: the result, which is `null` if there is none, or
the first reason against it. -/
def resolve (reply : Reply) (id : UInt64) : Except Fault Json :=
  if reply.status ≠ success then .error (.network (.status reply.status))
  else if (trimBlank reply.body.toList).isEmpty then .error (.network .blank)
  else
    match Response.ofText? reply.body with
    | none => .error (.coding .envelope)
    | some response =>
      match response.refusal with
      | some refusal => .error (.refused refusal)
      | none =>
        if response.answers id then .ok (response.result.getD .null)
        else .error (.network .mismatch)

end Reply

end LedgerClient.Rpc
