import LedgerClient.Key.Private
import LedgerClient.Transaction.Builder

/-!
# Signed transactions

A transaction with signatures. The first signature binds it to a chain: the digest for that chain
is kept, all further signatures are made over it, and no other chain can be chosen any more. The
body never changes and signatures are only added.
-/

namespace LedgerClient

/-- A chain and the digest of a transaction for it. -/
structure Binding where
  /-- The chain. -/
  chain : ChainId
  /-- The digest of the transaction for the chain. -/
  digest : Digest
  deriving DecidableEq

/-- A transaction with signatures. -/
structure SignedTransaction where
  /-- What is signed. -/
  body : Transaction
  /-- The signatures in the order in which they were made. -/
  signatures : List Signature
  /-- The chain that the transaction is bound to, if it is. -/
  binding : Option Binding

namespace SignedTransaction

/-- A transaction with signatures made elsewhere, bound to no chain. -/
def ofParts (body : Transaction) (signatures : List Signature) : SignedTransaction :=
  ⟨body, signatures, none⟩

/-- A transaction without signatures. -/
def unsigned (body : Transaction) : SignedTransaction := ofParts body []

/-- Whether two signed transactions are the same up to what they are bound to. -/
def sameContent (s t : SignedTransaction) : Bool :=
  s.body = t.body && s.signatures = t.signatures

/-- The signed transaction without its binding. -/
def unbound (s : SignedTransaction) : SignedTransaction := { s with binding := none }

/-! ### Signing -/

/-- A step that acts on a signed transaction and may fail. -/
abbrev Step := ExceptT TransactionFault (StateM SignedTransaction)

/-- Binds the transaction to a chain and returns the digest. Binding again to the same chain
changes nothing; another chain is refused. -/
def bind (chain : ChainId) : Step Digest := do
  let s ← get
  match s.binding with
  | some b => if b.chain = chain then return b.digest else throw (.invalid (.bound b.chain))
  | none =>
    liftExcept s.body.validate
    let digest ← liftExcept (s.body.digest chain)
    set { s with binding := some ⟨chain, digest⟩ }
    return digest
where
  /-- A result as a step that changes nothing. -/
  liftExcept {α : Type} : Except TransactionFault α → Step α
    | .ok x => return x
    | .error fault => throw fault

/-- Adds a signature over the digest that the transaction is bound to. -/
def cosign (key : PrivateKey) : Step Signature := do
  let s ← get
  match s.binding with
  | none => throw .notSigned
  | some b =>
    match key.sign b.digest with
    | .error fault => throw (.value (.signature fault))
    | .ok signature =>
      set { s with signatures := s.signatures ++ [signature] }
      return signature

/-- Binds the transaction to a chain and adds a signature. -/
def sign (key : PrivateKey) (chain : ChainId) : Step Signature := do
  discard (bind chain)
  cosign key

/-- The result of a step and the signed transaction after it. -/
def run {α : Type} (step : Step α) (s : SignedTransaction) :
    Except TransactionFault α × SignedTransaction :=
  step.run.run s

/-- A transaction with one signature. -/
def signOnce (body : Transaction) (key : PrivateKey) (chain : ChainId) :
    Except TransactionFault SignedTransaction :=
  match run (sign key chain) (unsigned body) with
  | (.ok _, s) => .ok s
  | (.error fault, _) => .error fault

/-! ### Signers -/

/-- The digest for a chain: the one that is kept, if the transaction is bound to that chain. -/
def digestFor (s : SignedTransaction) (chain : ChainId) : Except TransactionFault Digest :=
  match s.binding.filter (·.chain = chain) with
  | some b => .ok b.digest
  | none => s.body.digest chain

/-- The keys that made the signatures, in order. -/
def recoverAll (d : Digest) : List Signature → Except TransactionFault (List PublicKey)
  | [] => .ok []
  | s :: rest =>
    match s.recover d with
    | .error fault => .error (.value (.signature fault))
    | .ok key => (recoverAll d rest).map (key :: ·)

/-- The keys that signed the transaction for a chain, in the order of the signatures. -/
def signers (s : SignedTransaction) (chain : ChainId) :
    Except TransactionFault (List PublicKey) := do
  let d ← s.digestFor chain
  recoverAll d s.signatures

/-! ### Wire form and JSON form -/

/-- The wire form: the transaction followed by its signatures, which may be missing altogether. -/
def codec : Wire.Codec SignedTransaction where
  write s := Transaction.codec.write s.body ++ Signature.codec.list.write s.signatures
  read := do
    let body ← Transaction.codec.read
    let left ← Wire.Reader.remaining
    let signatures ← if left = 0 then pure [] else Signature.codec.list.read
    return ofParts body signatures

/-- Reads a signed transaction from the members of an object. The signatures are read before the
fields of the transaction. -/
def ofMembers (ms : List (String × Json)) : Except Json.Misfit SignedTransaction := do
  let signatures ← (Json.readMember "signatures" Signature.form.list.read .required
    (Json.find? ms)).mapError Json.RecordFault.toMisfit
  let body ← Transaction.fields.readMembers ms
  return ofParts body signatures

/-- The JSON form: the fields of the transaction and the signatures in one object. -/
def form : Json.Form SignedTransaction where
  write s := .obj (Transaction.fields.write s.body ++
    [("signatures", Signature.form.list.write s.signatures)])
  read
    | .obj ms => ofMembers ms
    | _ => .error (.kind "an object")

/-- The bytes of a signed transaction. -/
def toBytes (s : SignedTransaction) : Except Wire.Fault Bytes :=
  codec.toBytes s

end SignedTransaction

end LedgerClient
