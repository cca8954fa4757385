import LedgerClient.Bytes.Endian

/-!
# RIPEMD-160

The 160-bit hash of a byte sequence. Each block of sixteen words runs through two lines of eighty
steps, which use the words in different orders and are joined at the end.
-/

namespace LedgerClient.Ripemd160

/-- Five words of state. -/
structure State where
  a : UInt32
  b : UInt32
  c : UInt32
  d : UInt32
  e : UInt32

/-- The state before the first block. -/
def initial : State :=
  ⟨0x67452301, 0xefcdab89, 0x98badcfe, 0x10325476, 0xc3d2e1f0⟩

/-- A word rotated left. -/
def rotateLeft (x : UInt32) (n : UInt32) : UInt32 :=
  (x <<< n) ||| (x >>> (32 - n))

/-- The mixing function of a group of sixteen steps. -/
def mix (group : Nat) (x y z : UInt32) : UInt32 :=
  match group with
  | 0 => x ^^^ y ^^^ z
  | 1 => (x &&& y) ||| ((~~~ x) &&& z)
  | 2 => (x ||| (~~~ y)) ^^^ z
  | 3 => (x &&& z) ||| (y &&& (~~~ z))
  | _ => x ^^^ (y ||| (~~~ z))

/-- What distinguishes the two lines: the word and the rotation of each step, the constant of each
group, and whether the mixing functions come in reverse order. -/
structure Line where
  /-- The word that each step takes. -/
  words : Array Nat
  /-- The rotation of each step. -/
  rotations : Array UInt32
  /-- The constant of each group of sixteen steps. -/
  constants : Array UInt32
  /-- Whether the mixing functions come in reverse order. -/
  reversed : Bool

/-- The left line. -/
def left : Line where
  words := #[
    0, 1, 2, 3, 4, 5, 6, 7, 8, 9, 10, 11, 12, 13, 14, 15,
    7, 4, 13, 1, 10, 6, 15, 3, 12, 0, 9, 5, 2, 14, 11, 8,
    3, 10, 14, 4, 9, 15, 8, 1, 2, 7, 0, 6, 13, 11, 5, 12,
    1, 9, 11, 10, 0, 8, 12, 4, 13, 3, 7, 15, 14, 5, 6, 2,
    4, 0, 5, 9, 7, 12, 2, 10, 14, 1, 3, 8, 11, 6, 15, 13]
  rotations := #[
    11, 14, 15, 12, 5, 8, 7, 9, 11, 13, 14, 15, 6, 7, 9, 8,
    7, 6, 8, 13, 11, 9, 7, 15, 7, 12, 15, 9, 11, 7, 13, 12,
    11, 13, 6, 7, 14, 9, 13, 15, 14, 8, 13, 6, 5, 12, 7, 5,
    11, 12, 14, 15, 14, 15, 9, 8, 9, 14, 5, 6, 8, 6, 5, 12,
    9, 15, 5, 11, 6, 8, 13, 12, 5, 12, 13, 14, 11, 8, 5, 6]
  constants := #[0x00000000, 0x5a827999, 0x6ed9eba1, 0x8f1bbcdc, 0xa953fd4e]
  reversed := false

/-- The right line. -/
def right : Line where
  words := #[
    5, 14, 7, 0, 9, 2, 11, 4, 13, 6, 15, 8, 1, 10, 3, 12,
    6, 11, 3, 7, 0, 13, 5, 10, 14, 15, 8, 12, 4, 9, 1, 2,
    15, 5, 1, 3, 7, 14, 6, 9, 11, 8, 12, 2, 10, 0, 4, 13,
    8, 6, 4, 1, 3, 11, 15, 0, 5, 12, 2, 13, 9, 7, 10, 14,
    12, 15, 10, 4, 1, 5, 8, 7, 6, 2, 13, 14, 0, 3, 9, 11]
  rotations := #[
    8, 9, 9, 11, 13, 15, 15, 5, 7, 7, 8, 11, 14, 14, 12, 6,
    9, 13, 15, 7, 12, 8, 9, 11, 7, 7, 12, 7, 6, 15, 13, 11,
    9, 7, 15, 11, 8, 6, 6, 14, 12, 13, 5, 14, 13, 13, 7, 5,
    15, 5, 8, 11, 14, 14, 6, 14, 6, 9, 12, 9, 12, 5, 15, 8,
    8, 5, 12, 9, 12, 5, 14, 6, 8, 13, 6, 5, 15, 13, 11, 11]
  constants := #[0x50a28be6, 0x5c4dd124, 0x6d703ef3, 0x7a6d76e9, 0x00000000]
  reversed := true

/-- One step of a line. -/
def Line.step (line : Line) (block : Array UInt32) (s : State) (i : Nat) : State :=
  let group := i / 16
  let mixed := mix (if line.reversed then 4 - group else group) s.b s.c s.d
  let word := block.getD (line.words.getD i 0) 0
  let sum := s.a + mixed + word + line.constants.getD group 0
  ⟨s.e, rotateLeft sum (line.rotations.getD i 0) + s.e, s.b, rotateLeft s.c 10, s.d⟩

/-- Mixes a block into the state. -/
def compress (s : State) (block : Array UInt32) : State :=
  let l := (List.range 80).foldl (left.step block) s
  let r := (List.range 80).foldl (right.step block) s
  ⟨s.b + l.c + r.d, s.c + l.d + r.e, s.d + l.e + r.a, s.e + l.a + r.b, s.a + l.b + r.c⟩

/-- The bytes with a mark, zeros and their length in bits, which fill whole blocks. -/
def pad (bytes : Bytes) : Bytes :=
  let n := bytes.length
  bytes ++ 0x80 :: List.replicate ((119 - n % 64) % 64) 0 ++ littleEndian 8 (8 * n)

/-- Bytes as words of 32 bits, the low byte first. -/
def toWords : Bytes → List UInt32
  | a :: b :: c :: d :: rest =>
    (a.toUInt32 ||| (b.toUInt32 <<< 8) ||| (c.toUInt32 <<< 16) ||| (d.toUInt32 <<< 24)) ::
      toWords rest
  | _ => []

/-- Mixes all blocks of a word sequence into the state. -/
def absorb (s : State) (words : List UInt32) : State :=
  if words.isEmpty then s else absorb (compress s (words.take 16).toArray) (words.drop 16)
termination_by words.length
decreasing_by
  rename_i nonempty
  have : words.length ≠ 0 := fun none =>
    nonempty (List.isEmpty_iff.2 (List.length_eq_zero_iff.1 none))
  rw [List.length_drop]
  omega

/-- The hash of a byte sequence. -/
def hash (bytes : Bytes) : Bytes :=
  let s := absorb initial (toWords (pad bytes))
  [s.a, s.b, s.c, s.d, s.e].flatMap fun w => littleEndian 4 w.toNat

end LedgerClient.Ripemd160
