import LedgerClient.Text.Utf8

/-!
# Numbers as bytes

Whole numbers in a fixed number of bytes, the low byte first or the high byte first. Writing keeps
the number modulo the width; reading is exact.
-/

namespace LedgerClient

/-- The lowest `width` bytes of a number, the low byte first. -/
def littleEndian : (width n : Nat) → Bytes
  | 0, _ => []
  | width + 1, n => UInt8.ofNat n :: littleEndian width (n / 256)

/-- The lowest `width` bytes of a number, the high byte first. -/
def bigEndian (width n : Nat) : Bytes :=
  (littleEndian width n).reverse

/-- The number whose bytes are given, the low byte first. -/
def ofLittleEndian : Bytes → Nat
  | [] => 0
  | b :: rest => b.toNat + 256 * ofLittleEndian rest

/-- The number whose bytes are given, the high byte first. -/
def ofBigEndian (bytes : Bytes) : Nat :=
  bytes.foldl (fun n b => 256 * n + b.toNat) 0

@[simp]
theorem length_littleEndian (width n : Nat) : (littleEndian width n).length = width := by
  induction width generalizing n with
  | zero => rfl
  | succ width ih => simp [littleEndian, ih]

@[simp]
theorem length_bigEndian (width n : Nat) : (bigEndian width n).length = width := by
  simp [bigEndian]

theorem size_toArray_of_length {bytes : Bytes} {n : Nat} (h : bytes.length = n) :
    bytes.toArray.size = n := by
  rw [List.size_toArray, h]

/-- The bytes of a number, the high byte first, in a vector of their own length. -/
def bigEndianVector (width n : Nat) : Vector UInt8 width :=
  ⟨(bigEndian width n).toArray, by simp⟩

end LedgerClient
