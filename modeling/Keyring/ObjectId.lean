import Keyring.Der

/-!
# Object identifiers

The names of algorithms and structures that key files use, as the encoded arcs that stand for them.
-/

namespace Keyring.ObjectId

/-- One arc in base 128, most significant digit first, all but the last marked. -/
def encodeArc (arc : Nat) : Bytes :=
  let low := UInt8.ofNat (arc % 128)
  let digit (k : Nat) : UInt8 := UInt8.ofNat (arc / Nat.pow 128 k % 128 + 128)
  if arc < 128 then [low]
  else if arc < Nat.pow 128 2 then [digit 1, low]
  else [digit 2, digit 1, low]

/-- The encoded form of arcs below `128 ^ 3`; the first two share a byte. -/
def ofArcs : List Nat → Bytes
  | a :: b :: rest => (a * 40 + b) :: rest |>.flatMap encodeArc
  | _ => []

def rsaEncryption : Bytes := ofArcs [1, 2, 840, 113549, 1, 1, 1]
def rsaProbabilistic : Bytes := ofArcs [1, 2, 840, 113549, 1, 1, 10]
def digitalSignature : Bytes := ofArcs [1, 2, 840, 10040, 4, 1]
def ellipticCurve : Bytes := ofArcs [1, 2, 840, 10045, 2, 1]
def x25519 : Bytes := ofArcs [1, 3, 101, 110]
def x448 : Bytes := ofArcs [1, 3, 101, 111]
def ed25519 : Bytes := ofArcs [1, 3, 101, 112]
def ed448 : Bytes := ofArcs [1, 3, 101, 113]

/-- The curves that have a name: the prime curves of 192 to 521 bits, the curve of 256 bits over a
special prime, and the three of random primes. -/
def namedCurves : List Bytes := [
  ofArcs [1, 2, 840, 10045, 3, 1, 1], ofArcs [1, 3, 132, 0, 33], ofArcs [1, 2, 840, 10045, 3, 1, 7],
  ofArcs [1, 3, 132, 0, 34], ofArcs [1, 3, 132, 0, 35], ofArcs [1, 3, 132, 0, 10],
  ofArcs [1, 3, 36, 3, 3, 2, 8, 1, 1, 7], ofArcs [1, 3, 36, 3, 3, 2, 8, 1, 1, 11],
  ofArcs [1, 3, 36, 3, 3, 2, 8, 1, 1, 13]]

def data : Bytes := ofArcs [1, 2, 840, 113549, 1, 7, 1]
def encryptedData : Bytes := ofArcs [1, 2, 840, 113549, 1, 7, 6]
def plainKeyBag : Bytes := ofArcs [1, 2, 840, 113549, 1, 12, 10, 1, 1]
def shroudedKeyBag : Bytes := ofArcs [1, 2, 840, 113549, 1, 12, 10, 1, 2]

def sha1 : Bytes := ofArcs [1, 3, 14, 3, 2, 26]
def sha256 : Bytes := ofArcs [2, 16, 840, 1, 101, 3, 4, 2, 1]
def hmacSha1 : Bytes := ofArcs [1, 2, 840, 113549, 2, 7]
def hmacSha256 : Bytes := ofArcs [1, 2, 840, 113549, 2, 9]
def passwordScheme2 : Bytes := ofArcs [1, 2, 840, 113549, 1, 5, 13]
def passwordDerivation2 : Bytes := ofArcs [1, 2, 840, 113549, 1, 5, 12]
def sha1TripleDes : Bytes := ofArcs [1, 2, 840, 113549, 1, 12, 1, 3]
def aes128Cbc : Bytes := ofArcs [2, 16, 840, 1, 101, 3, 4, 1, 2]
def aes192Cbc : Bytes := ofArcs [2, 16, 840, 1, 101, 3, 4, 1, 22]
def aes256Cbc : Bytes := ofArcs [2, 16, 840, 1, 101, 3, 4, 1, 42]

end Keyring.ObjectId
