import LedgerClient.Json.Evaluate
import LedgerClient.Sandbox.Sample.Operation
import LedgerClient.Sandbox.Sample.Survey
import LedgerClient.Transaction.Signed

/-!
# Sources of values

A source draws values of one type, says what is lawful about each of them and shows it as JSON. The
law of most sources is that a value can be read back from its wire form and from its JSON text.
-/

namespace LedgerClient.Sandbox

/-! ### Laws -/

/-- Whether a value can be read back from its wire form. -/
def survivesWire {α : Type} [DecidableEq α] (codec : Wire.Codec α) (x : α) : Bool :=
  match (codec.toBytes x).bind codec.ofBytes with
  | .ok y => y = x
  | .error _ => false

/-- Whether a value can be read back from its JSON text. -/
def survivesJson {α : Type} [DecidableEq α] (form : Json.Form α) (x : α) : Bool :=
  match (Json.parse? (form.write x).text).map form.read with
  | some (.ok y) => y = x
  | _ => false

/-- Whether a private key can be read back from its text. -/
def survivesText (k : PrivateKey) : Bool :=
  match PrivateKey.ofText k.text with
  | .ok l => l = k
  | .error _ => false

/-- Whether the name of a symbol is a capital letter and up to six capital letters and digits, and
gives the symbol back. -/
def lawfulSymbol (s : Symbol) : Bool :=
  Symbol.ofParts s.name s.precision = s &&
    match s.name.toList with
    | c :: cs => 'A' ≤ c && c ≤ 'Z' && cs.length ≤ 6 &&
        cs.all fun c => ('A' ≤ c && c ≤ 'Z') || Numeral.isDigit c
    | [] => false

/-- Whether an operation can be read back from its wire form, which starts with the number of its
kind, and from its JSON text. -/
def lawfulOperation (op : Operation) : Bool :=
  !op.isUnknown && survivesWire Operation.codec op && survivesJson Operation.form op &&
    match op.kind?, Operation.codec.toBytes op with
    | some kind, .ok (b :: _) => b.toNat = kind.tag
    | _, _ => false

/-- Whether signing a transaction gives a signature that nodes take and that names its signer, and
the signed transaction can be read back from its wire form. -/
def lawfullySigned (key : PrivateKey) (chain : ChainId) (t : Transaction) : Bool :=
  match SignedTransaction.signOnce t key chain with
  | .error _ => false
  | .ok signed =>
    signed.signatures.all Signature.isCanonical &&
      (match signed.signers chain with
        | .ok signers => signers = [key.publicKey]
        | .error _ => false) &&
      match signed.toBytes.bind SignedTransaction.codec.ofBytes with
      | .ok copy => copy.sameContent signed
      | .error _ => false

/-- Whether a transaction with an operation that only nodes emit is refused in every way. -/
def lawfullyRefused (key : PrivateKey) (chain : ChainId) (t : Transaction) : Bool :=
  (match t.validate with
    | .error (.invalid _) => true
    | _ => false) &&
  (match t.toBytes with
    | .error (.unsupported _) => true
    | _ => false) &&
  match SignedTransaction.signOnce t key chain with
  | .ok _ => false
  | .error _ => true

/-- The chain that transactions are signed for in trials. -/
def trialChain : ChainId := ⟨Vector.replicate 32 0x42⟩

/-- An operation that only nodes emit. -/
def trialVirtual : Operation :=
  .known .shutdownWitness rfl (.field "alice" .empty)

/-- Whether a transaction can be read back, passes the checks and, if asked for, is signed and
refused as it should be. -/
def lawfulTransaction (sign : Bool) (t : Transaction) : Bool :=
  survivesWire Transaction.codec t && survivesJson Transaction.form t && t.validate.toBool &&
    (!sign ||
      match PrivateKey.ofSeed "alice" with
      | .error _ => false
      | .ok key => lawfullySigned key trialChain t &&
          lawfullyRefused key trialChain { t with operations := t.operations ++ [trialVirtual] })

/-! ### Sources -/

/-- A source of values. -/
structure Source where
  /-- The type of the values. -/
  Carrier : Type
  /-- Draws a value. -/
  draw : Draw Carrier
  /-- What is lawful about a value. -/
  lawful : Carrier → Bool
  /-- How a value is shown. -/
  json : Carrier → Json

namespace Source

/-- A source of values with a wire form and a JSON form. -/
def ofForms {α : Type} [DecidableEq α] (draw : Draw α) (codec : Wire.Codec α) (form : Json.Form α)
    (also : α → Bool := fun _ => true) : Source :=
  ⟨α, draw, fun x => survivesWire codec x && survivesJson form x && also x, form.write⟩

/-- A source of symbols, which are shown by name, length of the name and decimal places. -/
def ofSymbols (draw : Draw Symbol) (native : Bool) : Source :=
  ⟨Symbol, draw,
    fun s => lawfulSymbol s &&
      (native || (s.name ≠ Symbol.vizName && s.name ≠ Symbol.vestsName)),
    fun s => .obj [("name", .str s.name), ("size", .arr (s.name.toList.map fun _ => .nat 0)),
      ("precision", .nat s.precision.toNat)]⟩

/-- The JSON value of a transaction, with the answers whether its operations are virtual in place
of them. -/
def outline (t : Transaction) : Json :=
  match Transaction.form.write t with
  | .obj ms => .obj (ms.map fun m =>
      if m.1 = "operations" then (m.1, .arr (t.operations.map fun op => .bool op.isVirtual)) else m)
  | v => v

/-- The source of a name. -/
def named? (sign : Bool) : String → Option Source
  | "private_key" =>
    some ⟨PrivateKey, Draw.privateKey, survivesText, fun k => .str (Hex.encode k.toBytes)⟩
  | "public_key" => some (ofForms Draw.publicKey PublicKey.codec PublicKey.form (!·.isNull))
  | "block_id" =>
    some (ofForms (Draw.identifier : Draw BlockId) Identifier.codec Identifier.form)
  | "transaction_id" =>
    some (ofForms (Draw.identifier : Draw TransactionId) Identifier.codec Identifier.form)
  | "chain_id" =>
    some (ofForms (Draw.identifier : Draw ChainId) Identifier.codec Identifier.form)
  | "timestamp" => some (ofForms Draw.timestamp Timestamp.codec Timestamp.form)
  | "custom_symbol" => some (ofSymbols Draw.customSymbol false)
  | "symbol" => some (ofSymbols Draw.symbol true)
  | "asset" => some (ofForms Draw.asset Asset.codec Asset.form)
  | "viz" => some (ofForms Draw.tokens Asset.codec Asset.form (·.symbol = .viz))
  | "shares" => some (ofForms Draw.shares Asset.codec Asset.form (·.symbol = .vests))
  | "account_name" => some (ofForms Draw.accountName .text .text)
  | "permlink" => some (ofForms Draw.permlink .text .text)
  | "text" => some (ofForms Draw.text .text .text)
  | "authority" => some (ofForms Draw.authority Authority.codec Authority.form)
  | "beneficiaries" =>
    some (ofForms Draw.beneficiaries Beneficiary.codec.list Beneficiary.form.list)
  | "extensions" => some (ofForms Draw.extensions Extension.codec.list Extension.form.list)
  | "content_extensions" =>
    some (ofForms Draw.contentExtensions ContentExtension.codec.list ContentExtension.form.list)
  | "transaction" => some ⟨Transaction, Draw.transaction, lawfulTransaction sign, outline⟩
  | _ => none

/-- Draws so many values and tells how many there are, whether all are lawful, and, if asked for,
what they look like. -/
def survey (source : Source) (count : Nat) (shape : Bool) : Json :=
  let values := (Draw.repeated source.draw count).fromSeed 1
  .obj [("drawn", .nat values.length), ("lawful", .bool (values.all source.lawful)),
    ("shape", .obj (if shape then Survey.facts "$" (values.map source.json) else []))]

end Source

/-! ### Surveys of keys -/

/-- Draws two private keys, signs a digest with the first, and tells whether the keys differ,
whether the first can be read back from its text, whether nodes take the signature, and which of the
keys it verifies under. -/
def surveyKeys (d : Digest) : Except SignatureFault Json := do
  let signer := Draw.privateKey.fromSeed 1
  let other := Draw.privateKey.fromSeed 2
  let s ← signer.sign d
  return .obj [("canonical", .bool s.isCanonical), ("differ", .bool (signer ≠ other)),
    ("verifies", .bool (signer.publicKey.verifies d s)),
    ("verifies_other", .bool (other.publicKey.verifies d s)),
    ("wif_round_trip", .bool (survivesText signer))]

/-! ### Surveys of operations -/

/-- Draws operations until none of the kinds is wanted any more, but at most so many. -/
def drawWanted (draw : Draw Operation) : (limit : Nat) → (wanted : List Kind) →
    Draw (List Operation)
  | 0, _ | _, [] => return []
  | limit + 1, wanted => do
    let op ← draw
    let ops ← drawWanted draw limit ((op.kind?.map wanted.erase).getD wanted)
    return op :: ops

/-- The kinds of operations that a source of a name gives, and how to draw one. -/
def operationsNamed? : String → Option (List Kind × Draw Operation)
  | "regular_operation" => some (Draw.regularKinds, Draw.regularOperation)
  | "virtual_operation" => some (Draw.virtualKinds, Draw.virtualOperation)
  | "operation" => some (Draw.regularKinds ++ Draw.virtualKinds, Draw.operation)
  | _ => none

/-- The operations of a kind. -/
def ofKind (kind : Kind) (ops : List Operation) : List Operation :=
  ops.filter fun op => op.kind? = some kind

/-- The payload of an operation as JSON. -/
def payloadJson (op : Operation) : Json :=
  match op.toJson with
  | .arr [_, payload] => payload
  | v => v

/-- Draws operations until each of the kinds was seen so often, and tells which kinds were seen,
whether the first of each are lawful, how many are virtual, and, if asked for, what the payloads
look like. -/
def surveyOperations (kinds : List Kind) (draw : Draw Operation) (perKind : Nat) (shape : Bool) :
    Json :=
  let wanted := kinds.flatMap (List.replicate perKind)
  let ops := (drawWanted draw (1000 * (perKind + 10)) wanted).fromSeed 1
  let groups := (Kind.all.map fun k => (k.name, ofKind k ops)).filter fun g => !g.2.isEmpty
  let emitted := ops.countP Operation.isVirtual
  .obj [("kinds", .arr ((groups.foldl (fun ks g => Survey.insertText g.1 ks) []).map .str)),
    ("lawful", .bool (groups.all fun g => (g.2.take 5).all lawfulOperation)),
    ("virtual", .str (if emitted = 0 then "none" else if emitted = ops.length then "all"
      else "some")),
    ("mostly_regular", .bool (2 * emitted < ops.length)),
    ("shape", .obj (if shape then
      groups.flatMap fun g => Survey.facts g.1 (g.2.map payloadJson) else []))]

end LedgerClient.Sandbox
