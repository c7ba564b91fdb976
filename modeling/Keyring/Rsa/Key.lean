import Keyring.Der
import Keyring.ObjectId

/-!
# RSA keys

Keys as numbers, the arithmetic on them, and the checks that make a private key consistent. The
written form of a public key is the one that certificates hold.
-/

namespace Keyring.Rsa

/-- The power of `base` modulo `modulus`, by repeated squaring. -/
def powMod (base exponent modulus : Nat) : Nat :=
  if h : exponent = 0 then 1 % modulus
  else
    have : exponent / 2 < exponent := by omega
    let half := powMod (base * base % modulus) (exponent / 2) modulus
    if exponent % 2 = 1 then base * half % modulus else half
termination_by exponent

/-- How many bits a number needs. -/
def bitLength (n : Nat) : Nat := if n = 0 then 0 else Nat.log2 n + 1

/-- A public key: the modulus and the public exponent. -/
structure PublicKey where
  modulus : Nat
  exponent : Nat
  deriving DecidableEq

/-- A private key with its factors and the numbers for the shortcut by remainders. -/
structure PrivateKey where
  modulus : Nat
  publicExponent : Nat
  privateExponent : Nat
  prime1 : Nat
  prime2 : Nat
  exponent1 : Nat
  exponent2 : Nat
  coefficient : Nat
  deriving DecidableEq

/-- The public half. -/
def PrivateKey.publicKey (key : PrivateKey) : PublicKey := ⟨key.modulus, key.publicExponent⟩

/-- The size of the key in bits, which is that of its modulus. -/
def PrivateKey.bits (key : PrivateKey) : Nat := bitLength key.modulus

/-- The size of a ciphertext in bytes. -/
def PrivateKey.width (key : PrivateKey) : Nat := (key.bits + 7) / 8

/-! ## The written form of a public key -/

/-- The subject public key info: the algorithm with a null parameter, and the two numbers as a
sequence inside a bit string that leaves no bit unused. -/
def PublicKey.info (key : PublicKey) : Bytes :=
  let algorithm := Der.ofList [⟨Der.objectIdTag, ObjectId.rsaEncryption⟩, ⟨Der.nullTag, []⟩]
  let numbers := Der.ofList [Der.ofNat key.modulus, Der.ofNat key.exponent]
  (Der.ofList [algorithm, ⟨Der.bitStringTag, 0 :: numbers.encode⟩]).encode

/-! ## Consistency -/

/-- The exponent without its factors of two, and their count; `fuel` bounds the count. -/
def splitTwos : Nat → Nat → Nat × Nat
  | 0, n => (n, 0)
  | fuel + 1, n =>
    if n % 2 = 0 then
      let rest := splitTwos fuel (n / 2)
      (rest.1, rest.2 + 1)
    else (n, 0)

/-- Whether squaring up to `count` times meets the number before `n`. -/
def meetsMinusOne (n : Nat) : Nat → Nat → Bool
  | 0, _ => false
  | count + 1, x => x = n - 1 || meetsMinusOne n count (x * x % n)

/-- Whether a base fails to show that the odd number `n` is composite. -/
def passesBase (n base : Nat) : Bool :=
  let (odd, twos) := splitTwos (bitLength n) (n - 1)
  let x := powMod base odd n
  base % n = 0 || x = 1 || meetsMinusOne n twos x

/-- The bases of the test: the first twenty primes. -/
def testBases : List Nat :=
  [2, 3, 5, 7, 11, 13, 17, 19, 23, 29, 31, 37, 41, 43, 47, 53, 59, 61, 67, 71]

/-- The strong probable prime test to all of the bases. -/
def isProbablePrime (n : Nat) : Bool :=
  n = 2 || (n ≥ 2 && n % 2 = 1 && testBases.all (passesBase n))

/-- The numbers of a private key belong together: an odd public exponent other than one, two primes
whose product is the modulus, exponents that undo each other, and the right shortcut numbers. -/
def PrivateKey.isConsistent (key : PrivateKey) : Bool :=
  let p := key.prime1
  let q := key.prime2
  let d := key.privateExponent
  key.publicExponent % 2 = 1 && key.publicExponent ≠ 1
    && p % 2 = 1 && q % 2 = 1 && key.modulus = p * q
    && isProbablePrime p && isProbablePrime q
    && d * key.publicExponent % Nat.lcm (p - 1) (q - 1) = 1
    && key.exponent1 = d % (p - 1) && key.exponent2 = d % (q - 1)
    && key.coefficient < p && key.coefficient * q % p = 1

end Keyring.Rsa
