import Keyring.Digest.Block

/-!
# Keyed hashing

HMAC over any hash function.
-/

namespace Keyring.Digest

/-- The key filled up with zeros to a block; a key longer than a block is hashed first. -/
def Algorithm.blockKey (algorithm : Algorithm) (key : Bytes) : Bytes :=
  let short := if key.length > algorithm.blockSize then algorithm.hash key else key
  short ++ List.replicate (algorithm.blockSize - short.length) 0

/-- HMAC of a message under a key. -/
def Algorithm.hmac (algorithm : Algorithm) (key message : Bytes) : Bytes :=
  let block := algorithm.blockKey key
  algorithm.hash (block.map (· ^^^ 0x5c)
    ++ algorithm.hash (block.map (· ^^^ 0x36) ++ message))

end Keyring.Digest
