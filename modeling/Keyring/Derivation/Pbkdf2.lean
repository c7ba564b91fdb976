import Keyring.Digest.Hmac

/-!
# Keys from passwords: PBKDF2

A key is put together from blocks, each the exclusive or of a chain of keyed hashes.
-/

namespace Keyring.Derivation

open Digest

/-- `count` further links of the chain from `link`, all added into `sum`. -/
def pbkdf2Chain (algorithm : Algorithm) (password : Bytes) : Nat → Bytes → Bytes → Bytes
  | 0, _, sum => sum
  | count + 1, link, sum =>
    let next := algorithm.hmac password link
    pbkdf2Chain algorithm password count next (Bytes.xor sum next)

/-- The block with the given number, counted from one. -/
def pbkdf2Block (algorithm : Algorithm) (password salt : Bytes) (iterations number : Nat) : Bytes :=
  let first := algorithm.hmac password (salt ++ Bytes.ofNat 4 number)
  pbkdf2Chain algorithm password (iterations - 1) first first

/-- A key of `size` bytes from a password. -/
def pbkdf2 (algorithm : Algorithm) (password salt : Bytes) (iterations size : Nat) : Bytes :=
  let blocks := (size + algorithm.digestSize - 1) / algorithm.digestSize
  ((List.range blocks).flatMap
    (fun i => pbkdf2Block algorithm password salt iterations (i + 1))).take size

end Keyring.Derivation
