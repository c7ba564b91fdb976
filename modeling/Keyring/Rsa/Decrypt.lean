import Keyring.Digest.Hmac
import Keyring.Digest.Sha256
import Keyring.Rsa.Key

/-!
# RSA decryption

Decryption of blocks that were padded before they were encrypted: a zero byte, a byte two, eight or
more bytes that are not zero, a zero byte and the message. A block whose padding is damaged yields a
substitute message that depends on the key and the ciphertext only, so that nobody can tell from the
outcome whether the padding was sound.
-/

namespace Keyring.Rsa

/-- Why a key refuses a ciphertext. -/
inductive Refusal where
  | wrongLength
  | notBelowModulus
  deriving DecidableEq

/-- What is said about a refusal. -/
def Refusal.message : Refusal → String
  | .wrongLength => "Ciphertext length must be equal to key size."
  | .notBelowModulus => "Decryption failed"

/-- The message behind sound padding; `none` when the padding is damaged. -/
def paddedMessage? (block : Bytes) : Option Bytes :=
  match block with
  | 0 :: 2 :: rest =>
    let padding := rest.takeWhile (· ≠ 0)
    match rest.dropWhile (· ≠ 0) with
    | [] => none
    | _ :: message => if padding.length < 8 then none else some message
  | _ => none

/-- `size` bytes that follow from a seed and a label: keyed hashes of the count of the chunk, the
label and the wanted size in bits. -/
def expandSeed (seed label : Bytes) (size : Nat) : Bytes :=
  let chunk (i : Nat) : Bytes :=
    Digest.Sha256.algorithm.hmac seed (Bytes.ofNat 2 i ++ label ++ Bytes.ofNat 2 (size * 8))
  ((List.range ((size + 31) / 32)).flatMap chunk).take size

/-- The two-byte numbers of a byte string. -/
def pairNumbers : Bytes → List Nat
  | a :: b :: rest => (a.toNat * 256 + b.toNat) :: pairNumbers rest
  | _ => []

/-- The length of a substitute message: of 128 candidates, cut to as many bits as `bound` has, the
last one below `bound`, or zero. -/
def substituteLength (seed : Bytes) (bound : Nat) : Nat :=
  let candidates := (pairNumbers (expandSeed seed (Bytes.ofText "length") 256)).map
    (· % Nat.pow 2 (bitLength bound))
  (candidates.reverse.find? (· < bound)).getD 0

/-- The message that stands in for one whose padding is damaged. -/
def PrivateKey.substitute (key : PrivateKey) (ciphertext : Bytes) : Bytes :=
  let width := key.width
  let secret := Digest.Sha256.hash (Bytes.ofNat width key.privateExponent)
  let seed := Digest.Sha256.algorithm.hmac secret ciphertext
  let length := substituteLength seed (width - 10)
  (expandSeed seed (Bytes.ofText "message") width).drop (width - length)

/-- Decrypts a ciphertext as long as the modulus. -/
def PrivateKey.decrypt (key : PrivateKey) (ciphertext : Bytes) : Except Refusal Bytes :=
  if ciphertext.length ≠ key.width then .error .wrongLength
  else
    let number := Bytes.toNat ciphertext
    if number ≥ key.modulus then .error .notBelowModulus
    else
      let block := Bytes.ofNat key.width (powMod number key.privateExponent key.modulus)
      .ok ((paddedMessage? block).getD (key.substitute ciphertext))

end Keyring.Rsa
