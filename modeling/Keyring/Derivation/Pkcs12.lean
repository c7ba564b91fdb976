import Keyring.Digest.Block

/-!
# Keys from passwords: PKCS #12

The derivation that key containers use for their integrity check and for their older ciphers. The
password is taken as big-endian UTF-16 with two zero bytes at its end.
-/

namespace Keyring.Derivation

open Digest

/-- What a derived string is for. -/
inductive Purpose where
  | cipherKey
  | initialVector
  | integrityKey

/-- The byte that stands for the purpose. -/
def Purpose.code : Purpose → UInt8
  | .cipherKey => 1
  | .initialVector => 2
  | .integrityKey => 3

/-- The UTF-16 code units of a character. -/
def codeUnits (c : Char) : List Nat :=
  if c.toNat < 0x10000 then [c.toNat]
  else [0xd800 + (c.toNat - 0x10000) / 0x400, 0xdc00 + (c.toNat - 0x10000) % 0x400]

/-- A password as the derivation takes it: big-endian UTF-16, ended by a zero unit. -/
def passwordUnits (password : String) : Bytes :=
  (password.toList.flatMap codeUnits ++ [0]).flatMap (Bytes.ofNat 2)

/-- The byte string repeated and cut so that it fills whole blocks; nothing stays nothing. -/
def fillBlocks (blockSize : Nat) (bytes : Bytes) : Bytes :=
  let size := (bytes.length + blockSize - 1) / blockSize * blockSize
  ((List.replicate size bytes).flatten).take size

/-- The hash applied `count` times. -/
def rehash (algorithm : Algorithm) : Nat → Bytes → Bytes
  | 0, bytes => bytes
  | count + 1, bytes => rehash algorithm count (algorithm.hash bytes)

/-- Adds `step + 1` to each of the `count` blocks, without carry from one block to the next. -/
def advance (blockSize step : Nat) : Nat → Bytes → Bytes
  | 0, _ => []
  | count + 1, bytes =>
    Bytes.ofNat blockSize (Bytes.toNat (bytes.take blockSize) + step + 1)
      ++ advance blockSize step count (bytes.drop blockSize)

/-- `count` chunks of derived bytes; `state` is the salt and password that the next chunk uses. -/
def pkcs12Chunks (algorithm : Algorithm) (diversifier : Bytes) (iterations : Nat) :
    Nat → Bytes → Bytes
  | 0, _ => []
  | count + 1, state =>
    let chunk := rehash algorithm iterations (diversifier ++ state)
    let filled := (List.replicate algorithm.blockSize chunk).flatten.take algorithm.blockSize
    chunk ++ pkcs12Chunks algorithm diversifier iterations count
      (advance algorithm.blockSize (Bytes.toNat filled) (state.length / algorithm.blockSize) state)

/-- A string of `size` bytes for a purpose, from a password in its UTF-16 form. -/
def pkcs12 (algorithm : Algorithm) (purpose : Purpose) (password salt : Bytes)
    (iterations size : Nat) : Bytes :=
  let blockSize := algorithm.blockSize
  let diversifier := List.replicate blockSize purpose.code
  let state := fillBlocks blockSize salt ++ fillBlocks blockSize password
  let chunks := (size + algorithm.digestSize - 1) / algorithm.digestSize
  (pkcs12Chunks algorithm diversifier iterations chunks state).take size

end Keyring.Derivation
