import LedgerClient.Hash.Sha256

/-!
# Keyed hashes

The message authentication code over SHA-256, for keys of at most one block.
-/

namespace LedgerClient.Hmac

/-- The number of bytes of a block of the hash. -/
def blockSize : Nat := 64

/-- The key filled up to a block, every byte combined with a mask. -/
def maskedKey (mask : UInt8) (key : Bytes) : Bytes :=
  (key ++ List.replicate (blockSize - key.length) 0).map (· ^^^ mask)

/-- The authentication code of a message under a key of at most one block. -/
def sha256 (key message : Bytes) : Bytes :=
  let inner := Sha256.hash (maskedKey 0x36 key ++ message)
  (Sha256.hash (maskedKey 0x5C key ++ inner.toList)).toList

end LedgerClient.Hmac
