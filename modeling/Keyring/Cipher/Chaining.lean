import Keyring.Bytes

/-!
# Cipher block chaining

Decryption of a chain of blocks, and the padding that fills the last block: as many bytes as are
added, each holding their number.
-/

namespace Keyring.Cipher

/-- Decrypts `count` blocks, each xored with the block of ciphertext before it. -/
def chainedDecrypt (blockSize : Nat) (decryptBlock : Bytes → Bytes) : Nat → Bytes → Bytes → Bytes
  | 0, _, _ => []
  | count + 1, previous, ciphertext =>
    let block := ciphertext.take blockSize
    Bytes.xor (decryptBlock block) previous
      ++ chainedDecrypt blockSize decryptBlock count block (ciphertext.drop blockSize)

/-- The text without its padding; `none` when the last byte counts no bytes of its own value. -/
def unpad? (blockSize : Nat) (padded : Bytes) : Option Bytes :=
  match padded.getLast? with
  | none => none
  | some last =>
    let count := last.toNat
    let kept := padded.length - count
    if 1 ≤ count ∧ count ≤ blockSize ∧ padded.drop kept = List.replicate count last then
      some (padded.take kept)
    else none

/-- The plaintext of a padded chain; `none` for an empty one, one that is not made of whole blocks,
or one whose padding is damaged. -/
def chainedPlaintext? (blockSize : Nat) (decryptBlock : Bytes → Bytes) (vector ciphertext : Bytes) :
    Option Bytes :=
  if ciphertext.length % blockSize = 0 ∧ vector.length = blockSize then
    unpad? blockSize (chainedDecrypt blockSize decryptBlock (ciphertext.length / blockSize) vector
      ciphertext)
  else none

end Keyring.Cipher
