import LedgerClient.Asset.Text
import LedgerClient.Json.Form
import LedgerClient.Wire.Codec

/-!
# The wire form and the JSON form of an asset

On the wire an amount takes sixteen bytes: the amount, the number of places, and the name of the
symbol in seven bytes, filled up with zeros. In JSON it is its text.
-/

namespace LedgerClient.Asset

/-- The number of bytes for the name of a symbol. -/
def symbolWidth : Nat := 7

/-- The name of a symbol filled up with zeros. -/
def paddedName (name : Bytes) : Bytes :=
  name ++ List.replicate (symbolWidth - name.length) 0

/-- The name that a filled-up field holds. -/
def readName (field : Bytes) : Except Wire.Flaw String :=
  let name := field.takeWhile (· ≠ 0)
  if (field.drop name.length).any (· ≠ 0) then .error .symbolPadding
  else
    match Utf8.decode name with
    | .error _ => .error .symbolText
    | .ok s => if name.isEmpty then .error .symbolEmpty else .ok s

/-- The wire form of an amount. -/
def codec : Wire.Codec Asset where
  write a :=
    let name := Utf8.encode a.symbol.name
    if symbolWidth < name.length then .ofFault (.symbolTooLong a.symbol.name)
    else
      Wire.Codec.i64.write a.amount ++ Wire.Codec.u8.write a.precision ++
        .ofBytes (paddedName name)
  read := do
    let amount ← Wire.Codec.i64.read
    let precision ← Wire.Codec.u8.read
    let field ← Wire.Reader.take symbolWidth
    match readName field with
    | .ok name => return ⟨amount, .ofParts name precision⟩
    | .error flaw => throw (.invalid flaw)

/-- The JSON form of an amount. -/
def form : Json.Form Asset :=
  .ofText text fun s => (ofText s).mapError fun fault => .value (.asset fault)

end LedgerClient.Asset
