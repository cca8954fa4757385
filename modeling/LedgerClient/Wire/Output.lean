import LedgerClient.Wire.Fault

/-!
# Writing the wire form

What a writer has put out: bytes, and the fault that stopped it, if one did. Outputs are joined
end to end, and nothing is written after a fault, so that they form a monoid whose unit is the
empty output.
-/

namespace LedgerClient.Wire

/-- The bytes written so far and the fault that ended the writing, if one did. -/
structure Output where
  /-- The bytes written. -/
  bytes : Bytes
  /-- What ended the writing. -/
  fault : Option Fault
  deriving DecidableEq, Repr

namespace Output

/-- Nothing written yet. -/
def empty : Output := ⟨[], none⟩

/-- Bytes written without a fault. -/
def ofBytes (bytes : Bytes) : Output := ⟨bytes, none⟩

/-- A fault before any byte. -/
def ofFault (fault : Fault) : Output := ⟨[], some fault⟩

/-- One output after another; the second does not happen if the first ended in a fault. -/
def append (a b : Output) : Output :=
  match a.fault with
  | some _ => a
  | none => ⟨a.bytes ++ b.bytes, b.fault⟩

instance : Append Output := ⟨append⟩

/-- The outputs of the members of a list, one after another. -/
def ofList {α : Type} (write : α → Output) : List α → Output
  | [] => empty
  | x :: xs => write x ++ ofList write xs

/-- All the bytes, if no fault ended the writing. -/
def toExcept (o : Output) : Except Fault Bytes :=
  match o.fault with
  | some fault => .error fault
  | none => .ok o.bytes

theorem append_def (a b : Output) : a ++ b = a.append b := rfl

@[simp]
theorem empty_append (a : Output) : empty ++ a = a := rfl

@[simp]
theorem append_empty (a : Output) : a ++ empty = a := by
  obtain ⟨bytes, fault⟩ := a
  cases fault <;> simp [append_def, append, empty]

theorem append_assoc (a b c : Output) : a ++ b ++ c = a ++ (b ++ c) := by
  obtain ⟨x, f⟩ := a
  obtain ⟨y, g⟩ := b
  cases f <;> cases g <;> simp [append_def, append]

@[simp]
theorem ofBytes_append_ofBytes (x y : Bytes) : ofBytes x ++ ofBytes y = ofBytes (x ++ y) := rfl

end Output

end LedgerClient.Wire
