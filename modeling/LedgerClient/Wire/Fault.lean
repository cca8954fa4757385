import LedgerClient.Fault

/-!
# Why bytes cannot be written or read

The causes for which a value has no wire form or bytes are no wire form of a value.
-/

namespace LedgerClient.Wire

/-- A value that the wire has no form for. -/
inductive Unsupported
  /-- An operation of an unknown kind. -/
  | unknownOperation
  /-- An operation that only nodes emit, inside a transaction. -/
  | virtualOperation (name : String)
  deriving DecidableEq, Repr

/-- The wording of what is unsupported. -/
def Unsupported.message : Unsupported → String
  | .unknownOperation => "unserializable operation"
  | .virtualOperation name => "virtual operation " ++ name ++ " in transaction"

/-- What is wrong with bytes that are long enough. -/
inductive Flaw
  /-- A truth value is neither 0 nor 1. -/
  | flag (byte : UInt8)
  /-- The mark of an optional value is neither 0 nor 1. -/
  | presence (byte : UInt8)
  /-- A text is not UTF-8. -/
  | text (fault : Utf8.Fault)
  /-- A byte follows the end of an asset symbol. -/
  | symbolPadding
  /-- An asset symbol is no text. -/
  | symbolText
  /-- An asset symbol is empty. -/
  | symbolEmpty
  /-- The bytes are no value of a basic kind. -/
  | value (fault : ValueFault)
  /-- An extension has a tag that is not in use. -/
  | extensionTag (tag : Nat)
  /-- An extension of a content operation has a tag that is not in use. -/
  | contentExtensionTag (tag : Nat)
  deriving DecidableEq, Repr

/-- The wording of a flaw. -/
def Flaw.message : Flaw → String
  | .flag b => "bool byte " ++ Quoted.byte b
  | .presence b => "option presence byte " ++ Quoted.byte b
  | .text fault => "string is not utf-8: " ++ fault.message
  | .symbolPadding => "symbol padding is not zero"
  | .symbolText => "symbol is not ascii"
  | .symbolEmpty => "empty asset symbol"
  | .value fault => fault.message
  | .extensionTag n => "extension tag " ++ toString n
  | .contentExtensionTag n => "content extension tag " ++ toString n

/-- Why a value has no wire form or bytes are no wire form. -/
inductive Fault
  /-- The wire has no form for the value. -/
  | unsupported (what : Unsupported)
  /-- Fewer bytes remain than are needed. -/
  | truncated (needed remaining : Nat)
  /-- A variable-length number exceeds 64 bits. -/
  | varintOverflow
  /-- An asset symbol is longer than its seven bytes. -/
  | symbolTooLong (name : String)
  /-- The bytes have a flaw. -/
  | invalid (flaw : Flaw)
  /-- Bytes remain after the value. -/
  | trailing (bytes : Nat)
  deriving DecidableEq, Repr

/-- The wording of a fault. -/
def Fault.message : Fault → String
  | .unsupported what => "unsupported type: " ++ what.message
  | .truncated needed remaining =>
    "truncated input: needed " ++ toString needed ++ " bytes, " ++ toString remaining ++
      " remaining"
  | .varintOverflow => "varint overflows 64 bits"
  | .symbolTooLong name => "asset symbol " ++ Quoted.text name ++ " exceeds 7 bytes"
  | .invalid flaw => "invalid value: " ++ flaw.message
  | .trailing n => toString n ++ " trailing bytes after value"

end LedgerClient.Wire
