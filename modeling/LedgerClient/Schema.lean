import LedgerClient.Transaction.Signed

/-!
# Schemas

A schema is a type whose values have a wire form and a JSON form. The basic types of the ledger,
the parts of operations and the payloads of all kinds of operations have schemas by name, from which
those of lists, options and pairs are made.
-/

namespace LedgerClient

/-- A type with a wire form and a JSON form. -/
structure Schema where
  /-- The type. -/
  {Carrier : Type}
  /-- Values can be compared. -/
  [decEq : DecidableEq Carrier]
  /-- The wire form. -/
  codec : Wire.Codec Carrier
  /-- The JSON form. -/
  form : Json.Form Carrier

namespace Schema

instance (s : Schema) : DecidableEq s.Carrier := s.decEq

/-- Lists of values. -/
def list (s : Schema) : Schema := ⟨s.codec.list, s.form.list⟩

/-- Values that may be absent. -/
def option (s : Schema) : Schema := ⟨s.codec.option, s.form.option⟩

/-- Pairs of values. -/
def pair (s t : Schema) : Schema := ⟨s.codec.pair t.codec, s.form.pair t.form⟩

/-- Identifiers of a kind. -/
def identifier (n : Named) : Schema :=
  ⟨(Identifier.codec : Wire.Codec (Identifier n)), Identifier.form⟩

/-- Numbers, truth values and texts. -/
def basic : List (String × Schema) :=
  [("u8", ⟨.u8, .u8⟩), ("u16", ⟨.u16, .u16⟩), ("u32", ⟨.u32, .u32⟩), ("u64", ⟨.u64, .u64⟩),
   ("i8", ⟨.i8, .i8⟩), ("i16", ⟨.i16, .i16⟩), ("i32", ⟨.i32, .i32⟩), ("i64", ⟨.i64, .i64⟩),
   ("bool", ⟨.flag, .flag⟩), ("string", ⟨.text, .text⟩), ("varint", ⟨.varint, .u64⟩)]

/-- The parts of operations and transactions. -/
def parts : List (String × Schema) :=
  [("asset", ⟨Asset.codec, Asset.form⟩), ("timestamp", ⟨Timestamp.codec, Timestamp.form⟩),
   ("public_key", ⟨PublicKey.codec, PublicKey.form⟩),
   ("signature", ⟨Signature.codec, Signature.form⟩), ("block_id", identifier .block),
   ("chain_id", identifier .chain), ("transaction_id", identifier .transaction),
   ("digest", identifier .digest), ("authority", ⟨Authority.codec, Authority.form⟩),
   ("beneficiary", ⟨Beneficiary.codec, Beneficiary.form⟩),
   ("content_beneficiaries", ⟨Beneficiary.codec.list, ContentExtension.bodyForm⟩),
   ("content_extension", ⟨ContentExtension.codec, ContentExtension.form⟩),
   ("future_extension", ⟨Extension.codec, Extension.form⟩),
   ("extensions", ⟨Extension.codec.list, Extension.form.list⟩),
   ("operation", ⟨Operation.codec, Operation.form⟩),
   ("operation_wrapper", ⟨Operation.codec, Operation.wrappedForm⟩),
   ("transaction", ⟨Transaction.codec, Transaction.form⟩)]

/-- The payload of a kind of operations. -/
def payload (k : Kind) : Schema := ⟨Record.codec k.layout, Record.form k.layout⟩

/-- The schema of a name. -/
def named? (name : String) : Option Schema :=
  (basic ++ parts).lookup name <|>
    (Kind.all.find? fun k => k.name = name && !k.isReserved).map payload

end Schema

end LedgerClient
