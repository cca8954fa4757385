import Mathlib.Data.List.GetD
import LedgerClient.Hash.Hmac

/-!
# The hash on numbers

Words of 32 bits are numbers modulo `2³²`. On numbers the hash takes far fewer steps to evaluate by
the rules of the logic, which is how single signatures are checked, so that it is written once more
here, with the schedule of a block as a list whose newest word comes first. Every step is the step
on words, up to `hash_eq_onNumbers`; on the blocks, `toNumbers_absorb` is an induction whose step is
`toNumbers_compress`.
-/

namespace LedgerClient

namespace Sha256

namespace OnNumbers

/-- Eight words of state. -/
structure State where
  a : Nat
  b : Nat
  c : Nat
  d : Nat
  e : Nat
  f : Nat
  g : Nat
  h : Nat

/-- The sum of two words. -/
def add (x y : Nat) : Nat :=
  (x + y) % UInt32.size

/-- A word rotated right. -/
def rotateRight (x n : Nat) : Nat :=
  (x >>> n) ||| ((x <<< (32 - n)) % UInt32.size)

/-- The word after a schedule whose newest word comes first. -/
def scheduleWord (w : List Nat) : Nat :=
  let x := w.getD 14 0
  let y := w.getD 1 0
  let s0 := rotateRight x 7 ^^^ rotateRight x 18 ^^^ (x >>> 3)
  let s1 := rotateRight y 17 ^^^ rotateRight y 19 ^^^ (y >>> 10)
  add (add (add (w.getD 15 0) s0) (w.getD 6 0)) s1

/-- A schedule with so many more words, the newest word first. -/
def schedule : (more : Nat) → (w : List Nat) → List Nat
  | 0, w => w
  | more + 1, w => schedule more (scheduleWord w :: w)

/-- The constants of the rounds. -/
def constants : List Nat :=
  Sha256.constants.toList.map UInt32.toNat

/-- One round, given its constant and its word. -/
def round (s : State) (given : Nat × Nat) : State :=
  let s1 := rotateRight s.e 6 ^^^ rotateRight s.e 11 ^^^ rotateRight s.e 25
  let choice := (s.e &&& s.f) ^^^ ((UInt32.size - 1 - s.e) &&& s.g)
  let t1 := add (add (add (add s.h s1) choice) given.1) given.2
  let s0 := rotateRight s.a 2 ^^^ rotateRight s.a 13 ^^^ rotateRight s.a 22
  let majority := (s.a &&& s.b) ^^^ (s.a &&& s.c) ^^^ (s.b &&& s.c)
  ⟨add (add t1 s0) majority, s.a, s.b, s.c, add s.d t1, s.e, s.f, s.g⟩

/-- Mixes a block into the state. -/
def compress (s : State) (block : List Nat) : State :=
  let t := (constants.zip (schedule 48 block.reverse).reverse).foldl round s
  ⟨add s.a t.a, add s.b t.b, add s.c t.c, add s.d t.d, add s.e t.e, add s.f t.f, add s.g t.g,
    add s.h t.h⟩

/-- Mixes the first blocks of a word sequence into the state. -/
def absorb : (blocks : Nat) → State → List Nat → State
  | 0, s, _ => s
  | blocks + 1, s, words => absorb blocks (compress s (words.take 16)) (words.drop 16)

end OnNumbers

/-- The numbers of the words of a state. -/
def State.toNumbers (s : State) : OnNumbers.State :=
  ⟨s.a.toNat, s.b.toNat, s.c.toNat, s.d.toNat, s.e.toNat, s.f.toNat, s.g.toNat, s.h.toNat⟩

/-- The number of blocks that a byte sequence is padded to. -/
def blockCount (bytes : Bytes) : Nat :=
  (pad bytes).length / 64

/-- The hash of a byte sequence, computed on numbers. -/
def hashOnNumbers (bytes : Bytes) : Bytes :=
  let s := OnNumbers.absorb (blockCount bytes) initial.toNumbers
    ((toWords (pad bytes)).map UInt32.toNat)
  bigEndian 32 ([s.a, s.b, s.c, s.d, s.e, s.f, s.g, s.h].foldl (fun n w => n * UInt32.size + w) 0)

/-! ### Words -/

theorem toNat_rotateRight (x : UInt32) {n : UInt32} (hpos : 0 < n) (hlt : n < 32) :
    (rotateRight x n).toNat = OnNumbers.rotateRight x.toNat n.toNat := by
  have hpos : 0 < n.toNat := hpos
  have hlt : n.toNat < 32 := hlt
  have hrest : (32 - n).toNat = 32 - n.toNat :=
    UInt32.toNat_sub_of_le 32 n (Nat.le_of_lt hlt)
  have hwidth : (32 - n.toNat) % 32 = 32 - n.toNat := Nat.mod_eq_of_lt (by omega)
  rw [rotateRight, OnNumbers.rotateRight, UInt32.toNat_or, UInt32.toNat_shiftRight,
    UInt32.toNat_shiftLeft, hrest, hwidth, Nat.mod_eq_of_lt hlt]

/-! ### Schedules -/

theorem toNat_scheduleWord {w : Array UInt32} {i : Nat} (hsize : w.size = i) (hi : 16 ≤ i) :
    (scheduleWord w i).toNat =
      OnNumbers.scheduleWord (w.toList.reverse.map UInt32.toNat) := by
  -- The word `j` places back stands at index `j - 1` of the list.
  have hback (j : Nat) (hj : j < 16) :
      (w.toList.reverse.map UInt32.toNat).getD j 0 = (w.getD (i - (j + 1)) 0).toNat := by
    have hindex : w.size - 1 - j = i - (j + 1) := by omega
    have hbound : j < w.toList.length := by
      rw [Array.length_toList]
      omega
    rw [← UInt32.toNat_zero, List.getD_map, List.getD_reverse _ hbound]
    simp [hindex]
  rw [OnNumbers.scheduleWord, hback 15 (by decide), hback 14 (by decide), hback 6 (by decide),
    hback 1 (by decide)]
  simp [scheduleWord, toNat_rotateRight, OnNumbers.add]

theorem toNat_schedule (more : Nat) {w : Array UInt32} {i : Nat} (hsize : w.size = i)
    (hi : 16 ≤ i) :
    (((List.range' i more).foldl (fun w i => w.push (scheduleWord w i)) w).toList.reverse.map
      UInt32.toNat) = OnNumbers.schedule more (w.toList.reverse.map UInt32.toNat) := by
  induction more generalizing w i with
  | zero => rfl
  | succ more ih =>
    rw [List.range'_succ, List.foldl_cons, ih (by simp [hsize]) (by omega), OnNumbers.schedule]
    simp [toNat_scheduleWord hsize hi]

theorem size_schedule {block : List UInt32} (hlength : block.length = 16) :
    (schedule block).size = 64 := by
  have hpush (l : List Nat) (w : Array UInt32) :
      (l.foldl (fun w i => w.push (scheduleWord w i)) w).size = w.size + l.length := by
    induction l generalizing w with
    | nil => rfl
    | cons i l ih => rw [List.foldl_cons, ih, Array.size_push, List.length_cons]; omega
  simp [schedule, hpush, hlength]

/-! ### Blocks -/

theorem toNumbers_round (w : Array UInt32) (s : State) (i : Nat) :
    (round w s i).toNumbers =
      OnNumbers.round s.toNumbers ((constants.getD i 0).toNat, (w.getD i 0).toNat) := by
  simp [round, OnNumbers.round, State.toNumbers, toNat_rotateRight, OnNumbers.add]

/-- The rounds go through the constants and the schedule together. -/
theorem toNumbers_foldl_round {w : Array UInt32} (s : State) (hsize : w.size = 64) :
    ((List.range 64).foldl (round w) s).toNumbers =
      (OnNumbers.constants.zip (w.toList.map UInt32.toNat)).foldl OnNumbers.round s.toNumbers := by
  have hzip : OnNumbers.constants.zip (w.toList.map UInt32.toNat) =
      (List.range 64).map fun i => ((constants.getD i 0).toNat, (w.getD i 0).toNat) := by
    apply List.ext_getElem
    · simp [OnNumbers.constants, hsize, constants]
    · intro i h₁ h₂
      have hi : i < 64 := by simpa using h₂
      have hconstant : i < constants.size := hi
      simp [OnNumbers.constants, hsize, hi, hconstant]
  rw [hzip, List.foldl_map]
  exact (List.foldl_hom State.toNumbers fun s i => (toNumbers_round w s i).symm).symm

theorem toNumbers_compress (s : State) {block : List UInt32} (hlength : block.length = 16) :
    (compress s block).toNumbers = OnNumbers.compress s.toNumbers (block.map UInt32.toNat) := by
  have hschedule : (schedule block).toList.map UInt32.toNat =
      (OnNumbers.schedule 48 (block.map UInt32.toNat).reverse).reverse := by
    have hwords := toNat_schedule 48 (w := block.toArray) hlength (Nat.le_refl 16)
    rw [← List.map_reverse, ← hwords]
    simp [schedule]
  have hrounds := toNumbers_foldl_round s (size_schedule hlength)
  rw [hschedule] at hrounds
  rw [OnNumbers.compress, ← hrounds]
  simp [compress, State.toNumbers, OnNumbers.add]

theorem toNumbers_absorb {blocks : Nat} (s : State) {words : List UInt32}
    (hlength : words.length = 16 * blocks) :
    (absorb s words).toNumbers =
      OnNumbers.absorb blocks s.toNumbers (words.map UInt32.toNat) := by
  induction blocks generalizing s words with
  | zero =>
    obtain rfl := List.length_eq_zero_iff.mp hlength
    rw [absorb]
    rfl
  | succ blocks ih =>
    have hnonempty : words.isEmpty = false := by
      cases words with
      | nil => simp at hlength
      | cons => rfl
    have hrest : (words.drop 16).length = 16 * blocks := by
      rw [List.length_drop]
      omega
    rw [absorb, hnonempty, if_neg Bool.false_ne_true, ih _ hrest,
      toNumbers_compress _ (by rw [List.length_take]; omega), List.map_take, List.map_drop]
    rfl

/-! ### Byte sequences -/

/-- The padding fills whole blocks. -/
theorem length_pad (bytes : Bytes) : (pad bytes).length = 64 * blockCount bytes := by
  have hwhole : (pad bytes).length % 64 = 0 := by
    simp only [pad, List.length_append, List.length_cons, List.length_replicate, length_bigEndian]
    omega
  rw [blockCount]
  omega

theorem length_toWords {words : Nat} {bytes : Bytes} (h : bytes.length = 4 * words) :
    (toWords bytes).length = words := by
  induction words generalizing bytes with
  | zero =>
    obtain rfl := List.length_eq_zero_iff.mp h
    rfl
  | succ words ih =>
    obtain ⟨a, b, c, d, rest, rfl⟩ : ∃ a b c d rest, bytes = a :: b :: c :: d :: rest := by
      match bytes, h with
      | a :: b :: c :: d :: rest, _ => exact ⟨a, b, c, d, rest, rfl⟩
    rw [toWords, List.length_cons, ih (by simpa [Nat.mul_add] using h)]

/-- **The hash on numbers.** It is the same hash. -/
theorem hash_eq_onNumbers (bytes : Bytes) : (hash bytes).toList = hashOnNumbers bytes := by
  have hwords : (toWords (pad bytes)).length = 16 * blockCount bytes :=
    length_toWords (by rw [length_pad]; omega)
  rw [hashOnNumbers, ← toNumbers_absorb initial hwords]
  rfl

end Sha256

namespace Hmac

/-- The authentication code of a message, computed on numbers. -/
def sha256OnNumbers (key message : Bytes) : Bytes :=
  let inner := Sha256.hashOnNumbers (maskedKey 0x36 key ++ message)
  Sha256.hashOnNumbers (maskedKey 0x5C key ++ inner)

theorem sha256_eq_onNumbers (key message : Bytes) :
    sha256 key message = sha256OnNumbers key message := by
  rw [sha256OnNumbers, ← Sha256.hash_eq_onNumbers, ← Sha256.hash_eq_onNumbers]
  rfl

end Hmac

end LedgerClient
