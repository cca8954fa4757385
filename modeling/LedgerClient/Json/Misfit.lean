import LedgerClient.Fault
import LedgerClient.Json.Print

/-!
# Why a JSON value does not fit a type

The causes for which a JSON value cannot be read as a value of some type of the library. The first
four are about the shape of the value; the others come from what the shape holds.
-/

namespace LedgerClient.Json

/-- Why a JSON value does not fit a type. -/
inductive Misfit
  /-- The value is of another kind than the one expected. -/
  | kind (expected : String)
  /-- The number is of the right kind but out of range. -/
  | range (expected : String)
  /-- A list has too few or too many items. -/
  | length
  /-- An object lacks a member. -/
  | missing (name : String)
  /-- A text is no value of a basic kind. -/
  | value (fault : ValueFault)
  /-- A text is not the hexadecimal form of an identifier. -/
  | hex (fault : Hex.Fault)
  /-- An integer does not fit 64 bits of the sign asked for. -/
  | integerRange (value : Int)
  /-- A text is no integer. -/
  | notInteger (text : String)
  /-- An extension has a tag that is not in use. -/
  | extensionTag (tag : Nat)
  /-- An extension of a content operation has a tag that is not in use. -/
  | contentExtensionTag (tag : Nat)
  /-- The number of an operation is not a natural number. -/
  | operationNumber (number : Number)
  /-- An operation is named by neither a text nor a number. -/
  | operationTag (tag : Json)
  /-- The payload of an operation of the named kind does not fit. -/
  | payload (kind : String) (inner : Misfit)
  deriving Repr

/-- The wording of a misfit. -/
def Misfit.message : Misfit → String
  | .kind expected => "invalid type: expected " ++ expected
  | .range expected => "invalid value: expected " ++ expected
  | .length => "invalid length of a list"
  | .missing name => "missing field `" ++ name ++ "`"
  | .value fault => fault.message
  | .hex fault => fault.message
  | .integerRange i => "integer " ++ toString i ++ " out of range"
  | .notInteger s => Quoted.text s ++ " is not an integer"
  | .extensionTag n => "unknown extension tag " ++ toString n
  | .contentExtensionTag n => "unknown content extension tag " ++ toString n
  | .operationNumber n => "operation tag " ++ String.ofList n.chars
  | .operationTag v => "operation tag must be a name or number, got " ++ v.text
  | .payload name inner => name ++ ": " ++ inner.message

end LedgerClient.Json
