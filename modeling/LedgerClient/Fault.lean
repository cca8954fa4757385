import LedgerClient.Binary64.Shortest
import LedgerClient.Bytes.Base58
import LedgerClient.Bytes.Hex

/-!
# Why a value is refused

The causes for which a text, a number or a byte sequence is not an asset, a time, a key, a
signature or an identifier, each with its wording in one place.
-/

namespace LedgerClient

/-! ### Assets -/

/-- What is wrong with the text of an asset. -/
inductive AssetFlaw
  /-- There are not two words. -/
  | notTwoWords
  /-- The symbol is not made of upper-case letters and digits. -/
  | symbol
  /-- The amount is not a decimal numeral. -/
  | malformed
  /-- There are more decimal places than an asset can have. -/
  | tooManyPlaces
  /-- A well-known symbol comes with another number of decimal places than its own. -/
  | places (symbol : String) (needed : Nat)
  /-- The amount exceeds 63 bits. -/
  | outOfRange
  deriving DecidableEq, Repr

/-- The wording of a flaw. -/
def AssetFlaw.message : AssetFlaw → String
  | .notTwoWords => "expected \"<amount> <SYMBOL>\""
  | .symbol => "symbol must be uppercase ascii"
  | .malformed => "malformed amount"
  | .tooManyPlaces => "too many decimal places"
  | .places name needed => name ++ " requires " ++ toString needed ++ " decimal places"
  | .outOfRange => "amount out of range"

/-- Why a value is no asset. -/
inductive AssetFault
  /-- The text has a flaw. -/
  | text (text : String) (flaw : AssetFlaw)
  /-- The number is too large for the symbol, or not finite. -/
  | outOfRange (value : Binary64) (symbol : String)
  deriving DecidableEq, Repr

/-- The wording of a fault. -/
def AssetFault.message : AssetFault → String
  | .text s flaw => Quoted.text s ++ ": " ++ flaw.message
  | .outOfRange x symbol => x.plainText ++ " is out of range for " ++ symbol

/-! ### Times -/

/-- What is wrong with the text of a time. -/
inductive TimestampFlaw
  /-- The named part is not made of its digits or outside its range. -/
  | component (name : String)
  /-- A character between two parts is not the one that belongs there. -/
  | literal
  /-- Something follows the seconds. -/
  | trailing
  /-- The month does not have so many days. -/
  | day
  /-- The minute does not have so many seconds. -/
  | second
  deriving DecidableEq, Repr

/-- The wording of a flaw. -/
def TimestampFlaw.message : TimestampFlaw → String
  | .component name => "the '" ++ name ++ "' component could not be parsed"
  | .literal => "a character literal was not valid"
  | .trailing => "unexpected trailing characters; the end of input was expected"
  | .day => "day was not in range"
  | .second => "second was not in range"

/-- Why a value is no time. -/
inductive TimestampFault
  /-- The text has a flaw. -/
  | text (text : String) (flaw : TimestampFlaw)
  /-- The number of seconds does not fit 32 bits. -/
  | outOfRange (seconds : Int)
  /-- The clock stands before the epoch. -/
  | before
  /-- The clock stands beyond all representable seconds. -/
  | after
  deriving DecidableEq, Repr

/-- The wording of a fault. -/
def TimestampFault.message : TimestampFault → String
  | .text s flaw => Quoted.text s ++ ": " ++ flaw.message
  | .outOfRange seconds => toString seconds ++ " is outside 1970..2106"
  | .before => "time is before 1970"
  | .after => "time is after 2106"

/-! ### Keys and signatures -/

/-- The one thing that the curve arithmetic has to say about values that it refuses. -/
def curveMessage : String := "signature error"

/-- Why a value is no public key. -/
inductive PublicKeyFault
  /-- The bytes are not the compressed form of a point. -/
  | notPoint
  /-- The text does not start with the address tag of the network. -/
  | tag (text tag : String)
  /-- What follows the address tag is not in base 58. -/
  | base58 (fault : Base58.Fault)
  /-- The text holds another number of bytes than a key with its checksum. -/
  | length (bytes : Nat)
  /-- The last four bytes are not the checksum of the key. -/
  | checksum
  deriving DecidableEq, Repr

/-- The wording of a fault. -/
def PublicKeyFault.message : PublicKeyFault → String
  | .notPoint => "not a curve point: " ++ curveMessage
  | .tag s expected => Quoted.text s ++ " lacks prefix " ++ Quoted.text expected
  | .base58 fault => "bad base58: " ++ fault.message
  | .length n => "decoded " ++ toString n ++ " bytes, expected 37"
  | .checksum => "checksum mismatch"

/-- Why a value is no private key. -/
inductive PrivateKeyFault
  /-- The number is zero or not below the order of the group. -/
  | outOfRange
  /-- The text is not in checked base 58. -/
  | base58 (fault : Base58.Fault)
  /-- The first byte is not the version of a private key. -/
  | version (byte : UInt8)
  /-- The version and the secret together have another number of bytes than 33. -/
  | length (bytes : Nat)
  deriving DecidableEq, Repr

/-- The wording of a fault. -/
def PrivateKeyFault.message : PrivateKeyFault → String
  | .outOfRange => "scalar out of range"
  | .base58 fault => "bad WIF: " ++ fault.message
  | .version b => "WIF version byte " ++ Quoted.byte b
  | .length n => "WIF payload of " ++ toString n ++ " bytes"

/-- Why a signature cannot be made or does not name its signer. -/
inductive SignatureFault
  /-- The first byte announces no recovery number. -/
  | header (byte : UInt8)
  /-- One of the two numbers is zero or not below the order of the group. -/
  | outOfRange
  /-- No key made this signature. -/
  | recovery
  /-- The arithmetic of one signing attempt failed. -/
  | signing
  /-- None of so many attempts gave a canonical signature. -/
  | notCanonical (attempts : Nat)
  deriving DecidableEq, Repr

/-- The wording of a fault. -/
def SignatureFault.message : SignatureFault → String
  | .header b => "header byte " ++ toString b.toNat
  | .outOfRange => curveMessage
  | .recovery => "recovery failed: " ++ curveMessage
  | .signing => "signing failed: " ++ curveMessage
  | .notCanonical n => "no canonical signature after " ++ toString n ++ " attempts"

/-! ### All of them -/

/-- Why a value of one of the basic kinds is refused. -/
inductive ValueFault
  /-- No asset. -/
  | asset (fault : AssetFault)
  /-- No time. -/
  | timestamp (fault : TimestampFault)
  /-- No public key. -/
  | publicKey (fault : PublicKeyFault)
  /-- No private key. -/
  | privateKey (fault : PrivateKeyFault)
  /-- No signature, or none that names its signer. -/
  | signature (fault : SignatureFault)
  /-- No hexadecimal text of the length asked for. -/
  | hex (fault : Hex.Fault)
  deriving DecidableEq, Repr

/-- The wording of a fault. -/
def ValueFault.message : ValueFault → String
  | .asset f => "invalid asset: " ++ f.message
  | .timestamp f => "invalid timestamp: " ++ f.message
  | .publicKey f => "invalid public key: " ++ f.message
  | .privateKey f => "invalid private key: " ++ f.message
  | .signature f => "invalid signature: " ++ f.message
  | .hex f => "invalid hex: " ++ f.message

end LedgerClient
