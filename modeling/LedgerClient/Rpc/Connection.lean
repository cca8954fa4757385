import LedgerClient.Rpc.Envelope
import LedgerClient.Rpc.Plugin

/-!
# Connections

A connection numbers its calls, hands their envelopes to a transport and waits for each reply no
longer than it is told to. The network beyond is a state that the transport changes. A call takes a
number, posts its envelope and resolves the reply; a call that fails has used up its number too.
-/

namespace LedgerClient.Rpc

/-! ### Numbers of calls -/

/-- Where the numbers of calls come from. -/
structure Ids where
  /-- The number that every call gets, if it is always the same. -/
  fixed : Option UInt64
  /-- The next number else. -/
  next : UInt64 := 1
  deriving DecidableEq

namespace Ids

/-- Takes a number. -/
def take (ids : Ids) : UInt64 × Ids :=
  match ids.fixed with
  | some id => (id, ids)
  | none => (ids.next, { ids with next := ids.next + 1 })

/-- The numbers of so many calls. -/
def takeMany (ids : Ids) : Nat → List UInt64
  | 0 => []
  | n + 1 => ids.take.1 :: ids.take.2.takeMany n

end Ids

/-! ### Transports -/

/-- What comes of posting a text. -/
structure Delivery (σ : Type) where
  /-- The network once the text is on its way. -/
  posted : σ
  /-- How long the reply takes. -/
  wait : Duration
  /-- The reply, or why there is none. -/
  reply : Except Fault Reply
  /-- The network once the reply has come. -/
  answered : σ

/-- How texts are posted, given the state of the network. -/
abbrev Transport (σ : Type) := String → σ → Delivery σ

/-- A transport that notes the texts that are posted. -/
def Transport.noting {σ : Type} (transport : Transport σ) : Transport (σ × List String) :=
  fun body s =>
    let d := transport body s.1
    let noted := s.2 ++ [body]
    ⟨(d.posted, noted), d.wait, d.reply, (d.answered, noted)⟩

/-! ### Configurations -/

/-- How to call a node. -/
structure Config where
  /-- The address of the node. -/
  endpoint : String := "https://node.viz.cx"
  /-- How long a call may take. -/
  timeout : Duration := .ofSeconds 30
  /-- How the client names itself. -/
  userAgent : String := "viz-protocol-rs/0.1.0"
  /-- The number of all calls, if they are not counted. -/
  fixedId : Option UInt64 := none
  deriving DecidableEq

/-! ### Connections -/

/-- A connection to a node over a network with states `σ`. -/
structure Connection (σ : Type) where
  /-- How to call the node. -/
  config : Config
  /-- How texts are posted. -/
  transport : Transport σ
  /-- Where the numbers of calls come from. -/
  ids : Ids
  /-- The state of the network. -/
  network : σ

/-- A connection on which nothing has been called yet. -/
def Connection.new {σ : Type} (config : Config) (transport : Transport σ) (network : σ) :
    Connection σ :=
  ⟨config, transport, { fixed := config.fixedId }, network⟩

/-- Something that is done over a connection and may fail. -/
abbrev Action (σ α : Type) := ExceptT Fault (StateM (Connection σ)) α

namespace Action

variable {σ : Type}

/-- A result as an action that does nothing. -/
def ofExcept {α : Type} : Except Fault α → Action σ α
  | .ok x => return x
  | .error fault => throw fault

/-- Takes the number of the next call. -/
def takeId : Action σ UInt64 := do
  let c ← get
  set { c with ids := c.ids.take.2 }
  return c.ids.take.1

/-- Posts a text for a method and waits for the reply as long as a call may take. -/
def post (method body : String) : Action σ Reply := do
  let c ← get
  let d := c.transport body c.network
  if c.config.timeout.milliseconds < d.wait.milliseconds then
    set { c with network := d.posted }
    throw (.network (.timeout method c.config.timeout))
  else
    set { c with network := d.answered }
    ofExcept d.reply

/-- Calls a method and returns the result as it comes. -/
def invoke (call : Invocation) : Action σ Json := do
  let id ← takeId
  let reply ← post call.method (call.text id)
  ofExcept (reply.resolve id)

end Action

end LedgerClient.Rpc
