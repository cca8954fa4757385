import Mathlib.Algebra.Group.Int.Defs
import Mathlib.Algebra.Group.Nat.Defs
import LedgerClient.Bytes.Endian

/-!
# Numbers are read back from their bytes

Writing a number in a fixed number of bytes keeps it modulo the width, and the number that bytes
stand for determines the bytes among those of one length. The high byte first is the low byte first
backwards, so that both orders obey the same laws.
-/

namespace LedgerClient

/-! ### The low byte first -/

/-- Reading back a number that was written in a fixed width gives the number modulo the width. -/
theorem ofLittleEndian_littleEndian (width n : Nat) :
    ofLittleEndian (littleEndian width n) = n % 256 ^ width := by
  induction width generalizing n with
  | zero => simp [littleEndian, ofLittleEndian, Nat.mod_one]
  | succ width ih =>
    have hbyte : (UInt8.ofNat n).toNat = n % 256 := by simp
    rw [littleEndian, ofLittleEndian, ih, hbyte, Nat.pow_succ', Nat.mod_mul]

theorem ofLittleEndian_lt (bytes : Bytes) : ofLittleEndian bytes < 256 ^ bytes.length := by
  induction bytes with
  | nil => simp [ofLittleEndian]
  | cons b bytes ih =>
    have hb : b.toNat < 256 := b.toNat_lt
    rw [ofLittleEndian, List.length_cons, Nat.pow_succ']
    omega

/-- Writing the number that bytes stand for gives the bytes again. -/
theorem littleEndian_ofLittleEndian (bytes : Bytes) :
    littleEndian bytes.length (ofLittleEndian bytes) = bytes := by
  induction bytes with
  | nil => rfl
  | cons b bytes ih =>
    have hb : b.toNat < 256 := b.toNat_lt
    have hlow : UInt8.ofNat (b.toNat + 256 * ofLittleEndian bytes) = b := by
      rw [← UInt8.toNat_inj, UInt8.toNat_ofNat']
      omega
    have hhigh : (b.toNat + 256 * ofLittleEndian bytes) / 256 = ofLittleEndian bytes := by omega
    rw [ofLittleEndian, List.length_cons, littleEndian, hlow, hhigh, ih]

/-! ### The high byte first -/

theorem ofBigEndian_eq_ofLittleEndian_reverse (bytes : Bytes) :
    ofBigEndian bytes = ofLittleEndian bytes.reverse := by
  rw [ofBigEndian, ← List.foldr_reverse]
  generalize bytes.reverse = l
  induction l with
  | nil => rfl
  | cons b l ih => rw [List.foldr_cons, ih, ofLittleEndian, Nat.add_comm]

/-- A number that fits the width is read back from its bytes. -/
theorem ofBigEndian_bigEndian {width n : Nat} (h : n < 256 ^ width) :
    ofBigEndian (bigEndian width n) = n := by
  rw [ofBigEndian_eq_ofLittleEndian_reverse, bigEndian, List.reverse_reverse,
    ofLittleEndian_littleEndian, Nat.mod_eq_of_lt h]

theorem bigEndian_ofBigEndian {width : Nat} {bytes : Bytes} (h : bytes.length = width) :
    bigEndian width (ofBigEndian bytes) = bytes := by
  rw [bigEndian, ofBigEndian_eq_ofLittleEndian_reverse, ← h, ← List.length_reverse,
    littleEndian_ofLittleEndian, List.reverse_reverse]

end LedgerClient
