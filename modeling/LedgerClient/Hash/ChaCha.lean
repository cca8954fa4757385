import LedgerClient.Bytes.Endian

/-!
# The ChaCha stream

The first block of the ChaCha key stream of a 256-bit key, with block number and nonce zero. Six
double rounds are made, which gives the variant with twelve rounds.
-/

namespace LedgerClient.ChaCha

/-- A word rotated left. -/
def rotateLeft (x : UInt32) (n : UInt32) : UInt32 :=
  (x <<< n) ||| (x >>> (32 - n))

/-- Mixes the words at four places. -/
def quarter (s : Array UInt32) (i j k l : Nat) : Array UInt32 :=
  let a := s.getD i 0
  let b := s.getD j 0
  let c := s.getD k 0
  let d := s.getD l 0
  let a := a + b
  let d := rotateLeft (d ^^^ a) 16
  let c := c + d
  let b := rotateLeft (b ^^^ c) 12
  let a := a + b
  let d := rotateLeft (d ^^^ a) 8
  let c := c + d
  let b := rotateLeft (b ^^^ c) 7
  (((s.setIfInBounds i a).setIfInBounds j b).setIfInBounds k c).setIfInBounds l d

/-- Mixes the columns and then the diagonals. -/
def doubleRound (s : Array UInt32) : Array UInt32 :=
  [(0, 4, 8, 12), (1, 5, 9, 13), (2, 6, 10, 14), (3, 7, 11, 15),
    (0, 5, 10, 15), (1, 6, 11, 12), (2, 7, 8, 13), (3, 4, 9, 14)].foldl
    (fun s p => quarter s p.1 p.2.1 p.2.2.1 p.2.2.2) s

/-- The number of double rounds. -/
def doubleRounds : Nat := 6

/-- The words of the block before mixing: four constants, the key, and zeros. -/
def start (key : Bytes) : Array UInt32 :=
  #[0x61707865, 0x3320646e, 0x79622d32, 0x6b206574] ++
    ((List.range 8).map fun i =>
      UInt32.ofNat (ofLittleEndian ((key.drop (4 * i)).take 4))).toArray ++
    #[0, 0, 0, 0]

/-- The first block of the key stream. -/
def firstBlock (key : Bytes) : Bytes :=
  let s := start key
  let t := doubleRounds.repeat doubleRound s
  (s.zipWith (· + ·) t).toList.flatMap fun w => littleEndian 4 w.toNat

end LedgerClient.ChaCha
