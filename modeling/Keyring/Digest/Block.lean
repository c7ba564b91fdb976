import Keyring.Bytes

/-!
# Hashing by blocks of sixteen words

The padding and the chaining that SHA-1 and SHA-256 share: a message gets a one bit, zeros and its
length in bits, is read as big-endian 32-bit words, and every sixteen words are compressed into the
chaining value.
-/

namespace Keyring.Digest

/-- The message with the bit one, as few zero bytes as fill up the last block, and the message's
length in bits as eight bytes. -/
def pad (message : Bytes) : Bytes :=
  let zeros := (119 - message.length % 64) % 64
  message ++ 0x80 :: (List.replicate zeros 0 ++ Bytes.ofNat 8 (message.length * 8))

/-- The 32-bit word of four bytes, most significant first. -/
def word (a b c d : UInt8) : UInt32 :=
  (a.toUInt32 <<< 24) ||| (b.toUInt32 <<< 16) ||| (c.toUInt32 <<< 8) ||| d.toUInt32

/-- The bytes of a word, most significant first. -/
def wordBytes (w : UInt32) : Bytes :=
  [(w >>> 24).toUInt8, (w >>> 16).toUInt8, (w >>> 8).toUInt8, w.toUInt8]

/-- A word turned left by `n` bits, for `n` from 1 to 31. -/
def rotateLeft (w n : UInt32) : UInt32 := (w <<< n) ||| (w >>> (32 - n))

/-- A word turned right by `n` bits, for `n` from 1 to 31. -/
def rotateRight (w n : UInt32) : UInt32 := (w >>> n) ||| (w <<< (32 - n))

/-- Reads the message as words. A word that is full joins the block at hand, and a block that is
full is compressed; what is left over at the end is dropped, and padding leaves nothing over. -/
def chain {State : Type} (compress : State → Array UInt32 → State) :
    State → Array UInt32 → Bytes → State
  | state, block, a :: b :: c :: d :: rest =>
    let block := block.push (word a b c d)
    if block.size = 16 then chain compress (compress state block) #[] rest
    else chain compress state block rest
  | state, _, _ => state

/-- A hash function with the size in bytes of the blocks that it works on. -/
structure Algorithm where
  hash : Bytes → Bytes
  blockSize : Nat
  digestSize : Nat

end Keyring.Digest
