/-!
# Drawing values

Values for trying out are drawn from a stream of words that a seed determines, so that a seed gives
the same values every time. A draw takes as many words as it needs.
-/

namespace LedgerClient.Sandbox

/-- Something that is drawn; the state is where the stream stands. -/
abbrev Draw (α : Type) := StateM UInt64 α

namespace Draw

/-- How far the stream moves with each word. -/
def stride : UInt64 := 0x9E3779B97F4A7C15

/-- Spreads the bits of a word over all its places. -/
def mix (w : UInt64) : UInt64 :=
  let w := (w ^^^ (w >>> 30)) * 0xBF58476D1CE4E5B9
  let w := (w ^^^ (w >>> 27)) * 0x94D049BB133111EB
  w ^^^ (w >>> 31)

/-- The next word. -/
def word : Draw UInt64 := do
  let next := (← get) + stride
  set next
  return mix next

/-- What is drawn from a seed. -/
def fromSeed {α : Type} (d : Draw α) (seed : UInt64) : α :=
  (d.run seed).1

/-- So many draws. -/
def repeated {α : Type} (d : Draw α) : (count : Nat) → Draw (List α)
  | 0 => return []
  | count + 1 => do
    let x ← d
    let xs ← repeated d count
    return x :: xs

/-- A natural number below `2 ^ 256`. -/
def large : Draw Nat := do
  let ws ← repeated word 4
  return ws.foldl (fun n w => n * UInt64.size + w.toNat) 0

/-- A natural number below a bound, or zero if there is none. -/
def below (bound : Nat) : Draw Nat := do
  return (← large) % bound

/-- A whole number between two bounds, both included. -/
def between (low high : Int) : Draw Int := do
  return low + (← below (high - low + 1).toNat)

/-- A truth value. -/
def flag : Draw Bool := do
  return (← below 2) = 1

/-- One of several things, or the given one if there are none. -/
def oneOf {α : Type} (other : α) (xs : List α) : Draw α := do
  return (xs[← below xs.length]?).getD other

/-- A list with a number of items between two bounds, both included. -/
def listOf {α : Type} (low high : Nat) (d : Draw α) : Draw (List α) := do
  repeated d (low + (← below (high - low + 1)))

/-- A value, or none. -/
def maybe {α : Type} (d : Draw α) : Draw (Option α) := do
  if ← flag then return some (← d) else return none

/-- So many bytes. -/
def bytes (count : Nat) : Draw (List UInt8) :=
  repeated (do return (← word).toUInt8) count

/-- A character within a range of code points. -/
def charBetween (range : Nat × Nat) : Draw Char := do
  return .ofNat (range.1 + (← below (range.2 - range.1 + 1)))

/-- A character within one of several ranges of code points, or a space if there are none. -/
def charWithin (ranges : List (Nat × Nat)) : Draw Char := do
  charBetween (← oneOf (0x20, 0x20) ranges)

end Draw

end LedgerClient.Sandbox
