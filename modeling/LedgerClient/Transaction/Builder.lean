import LedgerClient.Transaction.Basic

/-!
# Building transactions

A transaction under construction. The expiration has to be set before it can be built, and what is
built has passed the checks of a transaction.
-/

namespace LedgerClient

/-- A transaction under construction. -/
structure TransactionBuilder where
  /-- The low half of the number of the block referred to. -/
  blockNumber : UInt16 := 0
  /-- The mark of the block referred to. -/
  blockMark : UInt32 := 0
  /-- The expiration, once it is set. -/
  expiration : Option Timestamp := none
  /-- The operations so far. -/
  operations : List Operation := []

namespace TransactionBuilder

/-- Nothing is set yet. -/
def empty : TransactionBuilder := {}

/-- Refers to a block. -/
def withBlock (b : TransactionBuilder) (block : BlockId) : TransactionBuilder :=
  { b with blockNumber := block.shortNumber, blockMark := block.mark }

/-- Refers to a block by number and mark. -/
def withReference (b : TransactionBuilder) (number : UInt16) (mark : UInt32) : TransactionBuilder :=
  { b with blockNumber := number, blockMark := mark }

/-- Sets the expiration. -/
def expireAt (b : TransactionBuilder) (t : Timestamp) : TransactionBuilder :=
  { b with expiration := some t }

/-- Sets the expiration to a number of seconds after a time. -/
def expireAfter (b : TransactionBuilder) (now : Timestamp) (seconds : Nat) :
    Except TransactionFault TransactionBuilder :=
  match now.add? seconds with
  | some t => .ok (b.expireAt t)
  | none => .error (.invalid (.expirationRange now seconds))

/-- Adds operations after those so far. -/
def append (b : TransactionBuilder) (ops : List Operation) : TransactionBuilder :=
  { b with operations := b.operations ++ ops }

/-- The transaction, if it passes the checks. -/
def build (b : TransactionBuilder) : Except TransactionFault Transaction :=
  match b.expiration with
  | none => .error (.invalid .noExpiration)
  | some expiration => do
    let t : Transaction := ⟨b.blockNumber, b.blockMark, expiration, b.operations, []⟩
    t.validate
    return t

end TransactionBuilder

end LedgerClient
