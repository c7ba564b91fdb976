import Keyring.Bytes

/-!
# AES

The inverse cipher for keys of 16, 24 and 32 bytes. The substitution is computed from its
definition, the inverse in the field of 256 elements followed by an affine map.
-/

namespace Keyring.Cipher.Aes

/-- Multiplication by the polynomial `x`. -/
def double (b : UInt8) : UInt8 := (b <<< 1) ^^^ (if b ≥ 0x80 then 0x1b else 0)

/-- Multiplication in the field, by the `count` lowest bits of `a`. -/
def mulBits : Nat → UInt8 → UInt8 → UInt8
  | 0, _, _ => 0
  | count + 1, a, b => (if a &&& 1 = 1 then b else 0) ^^^ mulBits count (a >>> 1) (double b)

/-- Multiplication in the field. -/
def mul (a b : UInt8) : UInt8 := mulBits 8 a b

/-- The power with exponent `n`. -/
def power (b : UInt8) : Nat → UInt8
  | 0 => 1
  | n + 1 => mul b (power b n)

/-- The affine map of the substitution. -/
def affine (b : UInt8) : UInt8 :=
  let turn (n : UInt8) : UInt8 := (b <<< n) ||| (b >>> (8 - n))
  b ^^^ turn 1 ^^^ turn 2 ^^^ turn 3 ^^^ turn 4 ^^^ 0x63

/-- The substituted byte; the inverse of an element is its power 254. -/
def substitute (b : UInt8) : UInt8 := affine (power b 254)

/-- The substitution as a table. -/
def substitution : Array UInt8 := (Array.range 256).map (fun n => substitute (UInt8.ofNat n))

/-- The inverse substitution as a table. -/
def inverseSubstitution : Array UInt8 :=
  (List.range 256).foldl
    (fun table n => table.setIfInBounds (substitution.getD n 0).toNat (UInt8.ofNat n))
    (Array.replicate 256 0)

/-- A word of four bytes, each substituted. -/
def substituteWord (w : Bytes) : Bytes := w.map (fun b => substitution.getD b.toNat 0)

/-- The word that is added before each key-length-th word: `constant` is the power of `x` of the
turn. -/
def turnedWord (constant : UInt8) : Bytes → Bytes
  | a :: rest => Bytes.xor (substituteWord (rest ++ [a])) [constant, 0, 0, 0]
  | [] => []

/-- `count` further words of the expanded key, where `words` holds those so far and `keyWords` is
the length of the key in words. -/
def expand (keyWords : Nat) : Nat → UInt8 → Array Bytes → Array Bytes
  | 0, _, words => words
  | count + 1, constant, words =>
    let i := words.size
    let last := words.getD (i - 1) []
    let base := words.getD (i - keyWords) []
    if i % keyWords = 0 then
      expand keyWords count (double constant)
        (words.push (Bytes.xor base (turnedWord constant last)))
    else if keyWords > 6 ∧ i % keyWords = 4 then
      expand keyWords count constant (words.push (Bytes.xor base (substituteWord last)))
    else expand keyWords count constant (words.push (Bytes.xor base last))

/-- The words of a byte string, four bytes each. -/
def wordsOf : Bytes → List Bytes
  | a :: b :: c :: d :: rest => [a, b, c, d] :: wordsOf rest
  | _ => []

/-- The keys of the rounds, first round first, each of sixteen bytes. -/
def roundKeys (key : Bytes) : List Bytes :=
  let keyWords := key.length / 4
  let rounds := keyWords + 6
  let words := expand keyWords (4 * (rounds + 1) - keyWords) 1 (wordsOf key).toArray
  (List.range (rounds + 1)).map (fun r =>
    (List.range 4).flatMap (fun i => words.getD (4 * r + i) []))

/-- The positions that the bytes of the block come from when its rows are shifted back. -/
def rowOrder : List Nat := [0, 13, 10, 7, 4, 1, 14, 11, 8, 5, 2, 15, 12, 9, 6, 3]

/-- Rows shifted back and bytes substituted back. -/
def unshift (block : Bytes) : Bytes :=
  let bytes := block.toArray
  rowOrder.map (fun i => inverseSubstitution.getD (bytes.getD i 0).toNat 0)

/-- Columns mixed back. -/
def unmix : Bytes → Bytes
  | a :: b :: c :: d :: rest =>
    (mul 14 a ^^^ mul 11 b ^^^ mul 13 c ^^^ mul 9 d)
      :: (mul 9 a ^^^ mul 14 b ^^^ mul 11 c ^^^ mul 13 d)
      :: (mul 13 a ^^^ mul 9 b ^^^ mul 14 c ^^^ mul 11 d)
      :: (mul 11 a ^^^ mul 13 b ^^^ mul 9 c ^^^ mul 14 d)
      :: unmix rest
  | _ => []

/-- The rounds of the inverse cipher, for the keys of the rounds from the last to the first. -/
def unwind : List Bytes → Bytes → Bytes
  | [], block => block
  | [key], block => Bytes.xor (unshift block) key
  | key :: rest, block => unwind rest (unmix (Bytes.xor (unshift block) key))

/-- The plaintext of a block under the keys of the rounds, given from the last to the first. -/
def decryptBlock (reversedKeys : List Bytes) (block : Bytes) : Bytes :=
  match reversedKeys with
  | [] => block
  | key :: rest => unwind rest (Bytes.xor block key)

/-- The inverse cipher of a key. -/
def decrypt (key : Bytes) : Bytes → Bytes :=
  let keys := (roundKeys key).reverse
  fun block => decryptBlock keys block

end Keyring.Cipher.Aes
