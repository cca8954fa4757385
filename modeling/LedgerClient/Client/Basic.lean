import LedgerClient.Rpc.Request

/-!
# The client

A client knows a chain and talks to one of its nodes. It takes a transaction through three stages:

* `Client.prepare` asks for the latest block and builds a transaction that refers to it and expires
  a while after it;
* `Client.sign` signs for the chain of the client, with each key in turn;
* `Client.broadcast` and `Client.broadcastSynchronous` submit the outcome.
-/

namespace LedgerClient

/-! ### Configurations and faults -/

/-- What a client knows about its chain and its node. -/
structure ClientConfig where
  /-- How to call the node. -/
  rpc : Rpc.Config := {}
  /-- The chain that transactions are signed for. -/
  chain : ChainId := .mainnet
  /-- The address tag of the chain. -/
  tag : String := PublicKey.mainTag
  /-- How long after the latest block a transaction expires. -/
  expiration : Duration := .ofSeconds 60
  deriving DecidableEq

/-- Why a client fails. -/
inductive ClientFault
  /-- A call failed. -/
  | rpc (fault : Rpc.Fault)
  /-- A transaction cannot be built or signed. -/
  | transaction (fault : TransactionFault)
  /-- A value is refused. -/
  | value (fault : ValueFault)
  /-- There are no keys to sign with. -/
  | noKeys

/-- The wording of a fault. -/
def ClientFault.message : ClientFault → String
  | .rpc fault => "rpc error: " ++ fault.message
  | .transaction fault => "transaction error: " ++ fault.message
  | .value fault => fault.message
  | .noKeys => "no signing keys given"

/-! ### Clients -/

/-- A client that talks over a network with states `σ`. -/
structure Client (σ : Type) where
  /-- What the client knows. -/
  config : ClientConfig
  /-- The connection to the node. -/
  connection : Rpc.Connection σ

namespace Client

variable {σ : Type}

/-- A client that has done nothing yet. -/
def new (config : ClientConfig) (transport : Rpc.Transport σ) (network : σ) : Client σ :=
  ⟨config, .new config.rpc transport network⟩

/-- Something that a client does and that may fail. -/
abbrev Task (σ α : Type) := ExceptT ClientFault (StateM (Client σ)) α

/-- The result of a task and the client after it. -/
def run {α : Type} (task : Task σ α) (c : Client σ) : Except ClientFault α × Client σ :=
  task.run.run c

/-- A result as a task that does nothing. -/
def ofExcept {ε α : Type} (inject : ε → ClientFault) : Except ε α → Task σ α
  | .ok x => return x
  | .error fault => throw (inject fault)

/-- Does something over the connection of the client. -/
def act {α : Type} (action : Rpc.Action σ α) : Task σ α := do
  let c ← get
  let (result, connection) := action.run.run c.connection
  set { c with connection := connection }
  ofExcept .rpc result

/-- Makes a request. -/
def call (r : Rpc.Request) : Task σ r.Result :=
  act (Rpc.Action.call r)

/-- Looks up the account of a name. -/
def account (name : String) : Task σ (Option Account) := do
  let found ← call (.accounts [name])
  return found.getLast?.filter fun a => a.name = name

/-! ### Transactions -/

/-- The transaction that refers to the latest block of a state, expires a while after it and does
the operations. -/
def build (config : ClientConfig) (state : ChainState) (ops : List Operation) :
    Except TransactionFault Transaction := do
  let b ← (TransactionBuilder.empty.withBlock state.head).expireAfter state.time
    config.expiration.seconds
  (b.append ops).build

/-- Builds a transaction on the latest block. -/
def prepare (ops : List Operation) : Task σ Transaction := do
  let state ← call .chainState
  ofExcept .transaction (build (← get).config state ops)

/-- Signs with each key in turn for a chain. -/
def signAll (chain : ChainId) : List PrivateKey → SignedTransaction.Step Unit
  | [] => return ()
  | key :: keys => do
    discard (SignedTransaction.sign key chain)
    signAll chain keys

/-- The transaction signed with each key in turn for a chain; there must be a key. -/
def signFor (chain : ChainId) (t : Transaction) (keys : List PrivateKey) :
    Except ClientFault SignedTransaction :=
  if keys.isEmpty then .error .noKeys
  else
    match SignedTransaction.run (signAll chain keys) (.unsigned t) with
    | (.ok _, signed) => .ok signed
    | (.error fault, _) => .error (.transaction fault)

/-- Signs with each key in turn for the chain of the client. -/
def sign (t : Transaction) (keys : List PrivateKey) : Task σ SignedTransaction := do
  ofExcept id (signFor (← get).config.chain t keys)

/-- Submits a transaction and returns its identifier. -/
def broadcast (signed : SignedTransaction) : Task σ TransactionId := do
  let id ← ofExcept .transaction signed.body.id
  discard (call (.broadcast signed))
  return id

/-- Submits a transaction and waits until it is in a block. -/
def broadcastSynchronous (signed : SignedTransaction) : Task σ Confirmation := do
  discard (ofExcept .transaction signed.body.id)
  call (.broadcastSynchronous signed)

/-- Prepares, signs and submits a transfer. -/
def transfer (key : PrivateKey) (sender receiver : String) (amount : Asset) (memo : String) :
    Task σ Confirmation := do
  let t ← prepare [.transfer sender receiver amount memo]
  let signed ← sign t [key]
  broadcastSynchronous signed

/-! ### Keys -/

/-- The text of a key under the address tag of the client. -/
def keyText (c : Client σ) (key : PublicKey) : String :=
  key.textWithTag c.config.tag

/-- Reads the text of a key under the address tag of the client. -/
def keyOfText (c : Client σ) (s : String) : Except PublicKeyFault PublicKey :=
  PublicKey.ofTextWithTag c.config.tag s

end Client

end LedgerClient
