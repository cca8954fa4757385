import LedgerClient.Transaction.Signed

/-!
# A reference transaction

A transfer together with everything that is derived from it, which every client of the ledger has
to reproduce byte for byte, and the check that tells what differs.
-/

namespace LedgerClient.Sandbox

/-- A transaction and all that is derived from it. -/
structure Reference where
  /-- The seed of the signer's key. -/
  seed : String := "alice"
  /-- The text of the signer's private key. -/
  secretText : String := "5J9bWm2ThenDm3tjvmUgHtWCVMUdjRR1pxnRtnJjvKA4b2ut5WK"
  /-- The text of the signer's public key. -/
  publicText : String := "VIZ7zsqi7QUAjTAdyynd6DVe8uv4K8gCTRHnAoMN9w9CA1xLCTDVv"
  /-- The low half of the number of the block referred to. -/
  blockNumber : UInt16 := 12345
  /-- The mark of the block referred to. -/
  blockMark : UInt32 := 1234567890
  /-- The time after which nodes refuse the transaction. -/
  expiration : Timestamp := ⟨1704067200⟩
  /-- The chain that the transaction is signed for. -/
  chain : ChainId := .mainnet
  /-- The bytes of the transaction in hexadecimal. -/
  bytes : String :=
    "3930d202964980009265010205616c69636503626f62e8030000000000000356495a000000000000"
  /-- The digest for the chain in hexadecimal. -/
  digest : String := "9514dee83641597426b3dc9ab8530657f8460bef525ef9ca9716a755dda1a8f5"
  /-- The identifier of the transaction in hexadecimal. -/
  id : String := "502e2fb63d05f1dfdb91c5715cf61c8d14e356c4"
  /-- The signature in hexadecimal. -/
  signature : String :=
    "1f7e624bdf49bf1be1388ff6f7a2b5115861b6ad454a85d9c614799eaae431bf" ++
      "c775dfec1f5cd88609c205b1dff074c81581fdd777180503da7c2d2fbf5cb0a986"

namespace Reference

/-- The transaction of a reference. -/
def transaction (r : Reference) : Transaction :=
  ⟨r.blockNumber, r.blockMark, r.expiration, [.transfer "alice" "bob" (.viz 1000) ""], []⟩

/-- The text of the first signature of the transaction. -/
def signatureText (r : Reference) (key : PrivateKey) : Option String :=
  match SignedTransaction.signOnce r.transaction key r.chain with
  | .ok signed => signed.signatures.head?.map Signature.text
  | .error _ => none

/-- What is derived from the transaction of a reference with the signer's key: for each value its
name, what the reference states, and what it is. -/
def derived (r : Reference) (key : PrivateKey) : List (String × String × Option String) :=
  let t := r.transaction
  [("signer_wif", r.secretText, some key.text),
    ("signer_public", r.publicText, some key.publicKey.text),
    ("transaction_hex", r.bytes, t.toBytes.toOption.map Hex.encode),
    ("digest_hex", r.digest, (t.digest r.chain).toOption.map Identifier.text),
    ("transaction_id_hex", r.id, t.id.toOption.map Identifier.text),
    ("signature_hex", r.signature, r.signatureText key)]

/-- The names of the values that differ from what a reference states. -/
def mismatches (r : Reference) : Except PrivateKeyFault (List String) :=
  (PrivateKey.ofSeed r.seed).map fun key =>
    ((r.derived key).filter fun d => d.2.2 ≠ some d.2.1).map Prod.fst

end Reference

end LedgerClient.Sandbox
