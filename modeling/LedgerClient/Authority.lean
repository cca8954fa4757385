import LedgerClient.Key.Public

/-!
# Authorities and extensions

Parts that many operations share: the keys and accounts that may act for an account, shares of a
reward that go to other accounts, and the places that later versions of the ledger may fill.
-/

namespace LedgerClient

/-! ### Authorities -/

/-- Weighted accounts and keys: those whose weights reach the threshold together may act. -/
structure Authority where
  /-- The weight that must be reached. -/
  threshold : UInt32
  /-- Accounts with their weights. -/
  accounts : List (String × UInt16)
  /-- Keys with their weights. -/
  keys : List (PublicKey × UInt16)
  deriving DecidableEq

namespace Authority

/-- No one may act. -/
def empty : Authority := ⟨0, [], []⟩

/-- One key may act alone. -/
def ofKey (key : PublicKey) : Authority := ⟨1, [], [(key, 1)]⟩

/-- One account may act alone. -/
def ofAccount (account : String) : Authority := ⟨1, [(account, 1)], []⟩

/-- The wire form. -/
def codec : Wire.Codec Authority :=
  (Wire.Codec.u32.pair
    ((Wire.Codec.text.pair Wire.Codec.u16).list.pair
      (PublicKey.codec.pair Wire.Codec.u16).list)).via
    (fun a => (a.threshold, a.accounts, a.keys)) fun p => ⟨p.1, p.2.1, p.2.2⟩

/-- The JSON form. -/
def form : Json.Form Authority :=
  .record (Json.Fields.start mk
    |>.field "weight_threshold" .u32 threshold
    |>.field "account_auths" (Json.Form.pair .text .u16).list accounts
    |>.field "key_auths" (PublicKey.form.pair .u16).list keys)

end Authority

/-! ### Beneficiaries -/

/-- A share of a reward, in hundredths of a percent. -/
structure Beneficiary where
  /-- Who receives the share. -/
  account : String
  /-- The share in hundredths of a percent. -/
  weight : UInt16
  deriving DecidableEq, Repr

namespace Beneficiary

/-- The wire form. -/
def codec : Wire.Codec Beneficiary :=
  (Wire.Codec.text.pair Wire.Codec.u16).via (fun b => (b.account, b.weight)) fun p => ⟨p.1, p.2⟩

/-- The JSON form. -/
def form : Json.Form Beneficiary :=
  .record (Json.Fields.start mk
    |>.field "account" .text account
    |>.field "weight" .u16 weight)

end Beneficiary

/-! ### Extensions -/

/-- An extension of a transaction or of most operations: so far there is only an empty one. -/
inductive Extension
  /-- The extension without content. -/
  | void
  deriving DecidableEq, Repr

namespace Extension

/-- The wire form: a tag. -/
def codec : Wire.Codec Extension where
  write
    | .void => .ofBytes (Wire.varintBytes 0)
  read := do
    let tag ← Wire.Reader.varint
    if tag = 0 then return .void else throw (.invalid (.extensionTag tag))

/-- The JSON form: a tag and a body, which is ignored. -/
def form : Json.Form Extension where
  write
    | .void => .arr [.nat 0, .obj []]
  read v := do
    let (tag, _) ← (Json.Form.u64.pair .any).read v
    if tag = 0 then return .void else .error (.extensionTag tag.toNat)

end Extension

/-- An extension of a content operation. -/
inductive ContentExtension
  /-- Shares of the author's reward that go to other accounts. -/
  | beneficiaries (list : List Beneficiary)
  deriving DecidableEq, Repr

namespace ContentExtension

/-- The JSON form of the body with shares of a reward. -/
def bodyForm : Json.Form (List Beneficiary) :=
  .record (Json.Fields.start id |>.field "beneficiaries" Beneficiary.form.list id)

/-- The wire form: a tag and a body. -/
def codec : Wire.Codec ContentExtension where
  write
    | .beneficiaries list => .ofBytes (Wire.varintBytes 0) ++ Beneficiary.codec.list.write list
  read := do
    let tag ← Wire.Reader.varint
    if tag = 0 then return .beneficiaries (← Beneficiary.codec.list.read)
    else throw (.invalid (.contentExtensionTag tag))

/-- Reads the body that belongs to a tag. -/
def readBody (tag : UInt64) (rest : List Json) : Except Json.Misfit ContentExtension :=
  if tag ≠ 0 then .error (.contentExtensionTag tag.toNat)
  else
    match rest with
    | [] => .error .length
    | body :: rest => do
      let list ← bodyForm.read body
      if rest.isEmpty then return .beneficiaries list else .error .length

/-- The JSON form: a tag and a body. -/
def form : Json.Form ContentExtension where
  write
    | .beneficiaries list => .arr [.nat 0, bodyForm.write list]
  read
    | .arr (tag :: rest) => do readBody (← Json.Form.u64.read tag) rest
    | .arr [] => .error .length
    | _ => .error (.kind "a [tag, payload] pair")

end ContentExtension

end LedgerClient
