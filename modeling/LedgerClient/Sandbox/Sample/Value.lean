import LedgerClient.Asset.Wire
import LedgerClient.Authority
import LedgerClient.Key.Private
import LedgerClient.Sandbox.Sample.Draw
import LedgerClient.Timestamp.Basic

/-!
# Drawing the parts of operations

The values from which operations are drawn: keys, names, texts and amounts. All of them have a
wire form and a JSON form from which they can be read back.
-/

namespace LedgerClient.Sandbox.Draw

/-! ### Keys and identifiers -/

/-- A private key, by a secret between one and the order of the group. -/
def privateKey : Draw PrivateKey := do
  let n ← below (Curve.order - 1)
  have pos : 0 < n % (Curve.order - 1) + 1 := by omega
  have lt_order : n % (Curve.order - 1) + 1 < Curve.order := by
    have : 1 < Curve.order := by decide
    have := Nat.mod_lt n (show 0 < Curve.order - 1 by omega)
    omega
  return ⟨n % (Curve.order - 1) + 1, pos, lt_order⟩

/-- The public key of some private key. -/
def publicKey : Draw PublicKey :=
  return (← privateKey).publicKey

/-- An identifier. -/
def identifier {n : Named} : Draw (Identifier n) := do
  return (Identifier.ofBytes? (← bytes n.size)).getD .zero

/-- A point in time. -/
def timestamp : Draw Timestamp :=
  return ⟨(← word).toUInt32⟩

/-! ### Amounts -/

/-- The name of a symbol: a capital letter and up to six capital letters and digits. -/
def symbolName : Draw String := do
  let first ← charBetween (0x41, 0x5A)
  let rest ← listOf 0 6 do
    let i ← below 36
    return Char.ofNat (if i < 26 then 0x41 + i else 0x30 + (i - 26))
  let name := String.ofList (first :: rest)
  return if name = Symbol.vizName || name = Symbol.vestsName then "TOKEN" else name

/-- A symbol that is not one of the ledger's own. -/
def customSymbol : Draw Symbol := do
  return .custom (← symbolName) (.ofNat (← below 9))

/-- A symbol of the ledger or another one. -/
def symbol : Draw Symbol := do
  match ← below 3 with
  | 0 => return .viz
  | 1 => return .vests
  | _ => customSymbol

/-- The largest number of smallest units of a token. -/
def tokenLimit : Nat := Nat.pow 10 12

/-- The largest number of smallest units of a share or of any amount. -/
def shareLimit : Nat := Nat.pow 10 15

/-- An amount of any symbol. -/
def asset : Draw Asset := do
  return ⟨.ofNat (← below (shareLimit + 1)), ← symbol⟩

/-- An amount of the liquid token. -/
def tokens : Draw Asset := do
  return .viz (.ofNat (← below (tokenLimit + 1)))

/-- An amount of vesting shares. -/
def shares : Draw Asset := do
  return .vests (.ofNat (← below (shareLimit + 1)))

/-! ### Texts -/

/-- A small letter. -/
def letter : Draw Char :=
  charBetween (0x61, 0x7A)

/-- A small letter, a digit or one of the given characters. -/
def nameChar (others : List Char) : Draw Char := do
  let i ← below (36 + others.length)
  return if i < 26 then .ofNat (0x61 + i) else if i < 36 then .ofNat (0x30 + (i - 26))
    else others[i - 36]?.getD 'a'

/-- The name of an account: a letter and up to 24 letters, digits, dots and hyphens. -/
def accountName : Draw String := do
  return .ofList ((← letter) :: (← listOf 1 24 (nameChar ['.', '-'])))

/-- The name of a content: letters, digits and hyphens. -/
def permlink : Draw String :=
  return .ofList (← listOf 1 64 (nameChar ['-']))

/-- The name of a custom operation: letters and dots. -/
def customId : Draw String :=
  return .ofList (← listOf 1 16 do
    if (← below 27) = 26 then return '.' else letter)

/-- Ranges of code points of printable characters, of one to four bytes. -/
def printable : List (Nat × Nat) :=
  [(0x20, 0x7E), (0xA1, 0xAC), (0xC0, 0x17F), (0x391, 0x3A1), (0x410, 0x44F), (0x5D0, 0x5EA),
    (0x3041, 0x3096), (0x4E00, 0x9FFF), (0xAC00, 0xD7A3), (0x1F600, 0x1F64F)]

/-- Up to 48 printable characters. -/
def text : Draw String :=
  return .ofList (← listOf 0 48 (charWithin printable))

/-! ### Authorities and extensions -/

/-- An unsigned number of 16 bits. -/
def u16 : Draw UInt16 :=
  return (← word).toUInt16

/-- Hundredths of a percent up to the whole. -/
def percent : Draw UInt16 :=
  return .ofNat (← below 10001)

/-- An authority with up to two accounts and two keys. -/
def authority : Draw Authority := do
  return ⟨(← word).toUInt32, ← listOf 0 2 do return (← accountName, ← u16),
    ← listOf 0 2 do return (← publicKey, ← u16)⟩

/-- Up to two shares of a reward. -/
def beneficiaries : Draw (List Beneficiary) :=
  listOf 0 2 do return ⟨← accountName, ← percent⟩

/-- At most one extension. -/
def extensions : Draw (List Extension) :=
  listOf 0 1 (pure .void)

/-- At most one extension of a content operation. -/
def contentExtensions : Draw (List ContentExtension) :=
  listOf 0 1 do return .beneficiaries (← beneficiaries)

end LedgerClient.Sandbox.Draw
