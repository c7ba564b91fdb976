import Keyring.Rsa.Decrypt
import Mathlib.Data.Nat.ChineseRemainder
import Mathlib.FieldTheory.Finite.Basic

/-!
# Encryption and its inverse

What a public key makes of a message that is padded with bytes of the sender's choice, and why the
private key gets the message back: raising to the one exponent and then to the other changes no
number below a product of two primes. The big-endian readings of numbers carry this over to bytes.
-/

namespace Keyring

/-! ## Big-endian numbers -/

namespace Bytes

theorem toNat_concat (init : Bytes) (last : UInt8) :
    toNat (init ++ [last]) = toNat init * 256 + last.toNat := by
  rw [toNat, List.foldl_append]
  rfl

theorem toNat_append (bytes other : Bytes) :
    toNat (bytes ++ other) = toNat bytes * 256 ^ other.length + toNat other := by
  induction other using List.reverseRecOn with
  | nil => simp [toNat]
  | append_singleton init last ih =>
    rw [← List.append_assoc, toNat_concat, ih, toNat_concat, List.length_append,
      List.length_singleton, pow_succ]
    ring

theorem toNat_cons (first : UInt8) (rest : Bytes) :
    toNat (first :: rest) = first.toNat * 256 ^ rest.length + toNat rest := by
  have h := toNat_append [first] rest
  simpa [toNat] using h

theorem toNat_lt (bytes : Bytes) : toNat bytes < 256 ^ bytes.length := by
  induction bytes with
  | nil => simp [toNat]
  | cons first rest ih =>
    rw [toNat_cons, List.length_cons, pow_succ]
    have hfirst : first.toNat + 1 ≤ 256 := first.toNat_lt
    calc first.toNat * 256 ^ rest.length + toNat rest
        < (first.toNat + 1) * 256 ^ rest.length := by rw [Nat.succ_mul]; omega
      _ ≤ 256 * 256 ^ rest.length := Nat.mul_le_mul_right _ hfirst
      _ = 256 ^ rest.length * 256 := Nat.mul_comm _ _

theorem toNat_ofNatOnto (n width : Nat) (tail : Bytes) :
    toNat (ofNatOnto n width tail) = n % 256 ^ width * 256 ^ tail.length + toNat tail := by
  induction width generalizing n tail with
  | zero => simp [ofNatOnto, Nat.mod_one]
  | succ width ih =>
    have hbyte : (UInt8.ofNat n).toNat = n % 256 := UInt8.toNat_ofNat'
    rw [ofNatOnto, ih, toNat_cons, hbyte, List.length_cons, pow_succ' 256 width, Nat.mod_mul,
      pow_succ]
    ring

/-- A number that has room in its big-endian form is read back. -/
theorem toNat_ofNat {width n : Nat} (h : n < 256 ^ width) : toNat (ofNat width n) = n := by
  rw [ofNat, toNat_ofNatOnto, Nat.mod_eq_of_lt h]
  simp [toNat]

theorem ofNatOnto_toNat (bytes tail : Bytes) :
    ofNatOnto (toNat bytes) bytes.length tail = bytes ++ tail := by
  induction bytes using List.reverseRecOn generalizing tail with
  | nil => rfl
  | append_singleton init last ih =>
    have hdiv : (toNat init * 256 + last.toNat) / 256 = toNat init := by
      have := last.toNat_lt
      omega
    have hbyte : UInt8.ofNat (toNat init * 256 + last.toNat) = last := by
      apply UInt8.toNat_inj.1
      rw [UInt8.toNat_ofNat']
      have := last.toNat_lt
      omega
    rw [toNat_concat, List.length_append, List.length_singleton, ofNatOnto, hdiv, hbyte, ih]
    simp

/-- The big-endian form of a byte string's number is the byte string. -/
theorem ofNat_toNat {width : Nat} {bytes : Bytes} (h : bytes.length = width) :
    ofNat width (toNat bytes) = bytes := by
  subst h
  rw [ofNat, ofNatOnto_toNat, List.append_nil]

end Bytes

namespace Rsa

/-! ## Powers -/

theorem powMod_eq (base exponent modulus : Nat) :
    powMod base exponent modulus = base ^ exponent % modulus := by
  fun_induction powMod base exponent modulus with
  | case1 base => rw [pow_zero]
  | case2 base exponent _ _ half hodd ih =>
    -- the power of the square, and the factor that halving the exponent drops
    have hpow : base ^ exponent = base * (base * base) ^ (exponent / 2) := by
      conv_lhs => rw [← Nat.div_add_mod exponent 2, hodd, pow_succ, pow_mul, pow_two]
      rw [Nat.mul_comm]
    rw [show half = _ from ih, hpow, Nat.mul_mod, Nat.mod_mod, ← Nat.pow_mod, ← Nat.mul_mod]
  | case3 base exponent _ _ half heven ih =>
    have hpow : base ^ exponent = (base * base) ^ (exponent / 2) := by
      have hzero : exponent % 2 = 0 := by omega
      conv_lhs => rw [← Nat.div_add_mod exponent 2, hzero, Nat.add_zero, pow_mul, pow_two]
    rw [show half = _ from ih, hpow, ← Nat.pow_mod]

/-- Raising to one more than a multiple of what is below a prime changes no remainder. -/
theorem pow_succ_modEq_self {p exponent : Nat} (hp : p.Prime) (h : p - 1 ∣ exponent) (n : Nat) :
    n ^ (exponent + 1) ≡ n [MOD p] := by
  have : Fact p.Prime := ⟨hp⟩
  rw [← ZMod.natCast_eq_natCast_iff, Nat.cast_pow, pow_succ]
  by_cases hn : (n : ZMod p) = 0
  · rw [hn, mul_zero]
  · obtain ⟨count, rfl⟩ := h
    rw [pow_mul, ZMod.pow_card_sub_one_eq_one hn, one_pow, one_mul]

/-- The exponents undo each other on all numbers below a product of two primes. -/
theorem pow_mod_pow_mod {p q e d n : Nat} (hp : p.Prime) (hq : q.Prime) (hpq : p ≠ q)
    (h : d * e % Nat.lcm (p - 1) (q - 1) = 1) (hn : n < p * q) :
    (n ^ e % (p * q)) ^ d % (p * q) = n := by
  have hexp : e * d = Nat.lcm (p - 1) (q - 1) * (d * e / Nat.lcm (p - 1) (q - 1)) + 1 := by
    have hdiv := Nat.div_add_mod (d * e) (Nat.lcm (p - 1) (q - 1))
    rw [h] at hdiv
    rw [hdiv, Nat.mul_comm]
  have hdvd := Nat.dvd_mul_right (Nat.lcm (p - 1) (q - 1)) (d * e / Nat.lcm (p - 1) (q - 1))
  have hmodp : n ^ (e * d) ≡ n [MOD p] := by
    rw [hexp]
    exact pow_succ_modEq_self hp ((Nat.dvd_lcm_left _ _).trans hdvd) n
  have hmodq : n ^ (e * d) ≡ n [MOD q] := by
    rw [hexp]
    exact pow_succ_modEq_self hq ((Nat.dvd_lcm_right _ _).trans hdvd) n
  have hboth : n ^ (e * d) ≡ n [MOD p * q] :=
    (Nat.modEq_and_modEq_iff_modEq_mul ((Nat.coprime_primes hp hq).2 hpq)).1 ⟨hmodp, hmodq⟩
  calc (n ^ e % (p * q)) ^ d % (p * q)
      = n ^ (e * d) % (p * q) := by rw [← Nat.pow_mod, pow_mul]
    _ = n % (p * q) := hboth
    _ = n := Nat.mod_eq_of_lt hn

/-! ## Padding -/

/-- A message behind a zero byte, a byte two, the padding and a zero byte. -/
def paddedBlock (padding message : Bytes) : Bytes := 0 :: 2 :: (padding ++ 0 :: message)

theorem length_paddedBlock (padding message : Bytes) :
    (paddedBlock padding message).length = padding.length + message.length + 3 := by
  simp [paddedBlock]
  omega

/-- What is padded as it should be is found behind its padding. -/
theorem paddedMessage?_paddedBlock {padding : Bytes} (hlength : 8 ≤ padding.length)
    (hzero : ∀ byte ∈ padding, byte ≠ 0) (message : Bytes) :
    paddedMessage? (paddedBlock padding message) = some message := by
  have hall : ∀ byte ∈ padding, decide (byte ≠ 0) = true := by simpa using hzero
  have htake : (padding ++ 0 :: message).takeWhile (· ≠ 0) = padding := by
    rw [List.takeWhile_append_of_pos hall]
    simp
  have hdrop : (padding ++ 0 :: message).dropWhile (· ≠ 0) = 0 :: message := by
    rw [List.dropWhile_append_of_pos hall]
    simp
  have hnot : ¬ padding.length < 8 := Nat.not_lt.2 hlength
  simp only [paddedBlock, paddedMessage?, htake, hdrop, hnot, if_false]

/-! ## Encryption -/

namespace PublicKey

/-- The size of a ciphertext in bytes. -/
def width (key : PublicKey) : Nat := (bitLength key.modulus + 7) / 8

/-- The ciphertext of a message with a padding. -/
def encrypt (key : PublicKey) (padding message : Bytes) : Bytes :=
  Bytes.ofNat key.width (Bytes.toNat (paddedBlock padding message) ^ key.exponent % key.modulus)

/-- A ciphertext is one of a message: it comes out under some padding of eight or more bytes, none
of them zero, with which the message fills the block. -/
def Encrypts (key : PublicKey) (message ciphertext : Bytes) : Prop :=
  ∃ padding : Bytes, 8 ≤ padding.length ∧ (∀ byte ∈ padding, byte ≠ 0) ∧
    (paddedBlock padding message).length = key.width ∧ ciphertext = key.encrypt padding message

/-- A key encrypts the messages that leave eleven bytes of the block free. -/
theorem exists_encrypts_iff (key : PublicKey) (message : Bytes) :
    (∃ ciphertext, key.Encrypts message ciphertext) ↔ message.length + 11 ≤ key.width := by
  constructor
  · rintro ⟨ciphertext, padding, hlength, -, hblock, -⟩
    rw [length_paddedBlock] at hblock
    omega
  · intro h
    refine ⟨_, List.replicate (key.width - message.length - 3) 1, ?_, ?_, ?_, rfl⟩
    · rw [List.length_replicate]
      omega
    · intro byte hb
      rw [List.eq_of_mem_replicate hb]
      decide
    · rw [length_paddedBlock, List.length_replicate]
      omega

theorem modulus_lt (key : PublicKey) : key.modulus < 256 ^ key.width := by
  have hbits : key.modulus < 2 ^ bitLength key.modulus := by
    unfold bitLength
    split
    · omega
    · exact Nat.lt_log2_self
  have hwidth : bitLength key.modulus ≤ 8 * key.width := by
    rw [width]
    omega
  calc key.modulus < 2 ^ bitLength key.modulus := hbits
    _ ≤ 2 ^ (8 * key.width) := Nat.pow_le_pow_right (by decide) hwidth
    _ = 256 ^ key.width := pow_mul 2 8 key.width

theorem le_modulus {key : PublicKey} (h : 0 < key.width) : 256 ^ (key.width - 1) ≤ key.modulus := by
  have hne : key.modulus ≠ 0 := by
    intro he
    rw [width, he] at h
    exact absurd h (by decide)
  have hwidth : 8 * (key.width - 1) ≤ Nat.log2 key.modulus := by
    rw [width, bitLength, if_neg hne] at h ⊢
    omega
  calc 256 ^ (key.width - 1) = 2 ^ (8 * (key.width - 1)) := (pow_mul 2 8 (key.width - 1)).symm
    _ ≤ 2 ^ Nat.log2 key.modulus := Nat.pow_le_pow_right (by decide) hwidth
    _ ≤ key.modulus := Nat.log2_self_le hne

/-- A block is below the modulus, for its first byte is zero. -/
theorem toNat_paddedBlock_lt {key : PublicKey} {padding message : Bytes}
    (h : (paddedBlock padding message).length = key.width) :
    Bytes.toNat (paddedBlock padding message) < key.modulus := by
  have hrest : (2 :: (padding ++ 0 :: message) : Bytes).length = key.width - 1 := by
    rw [← h]
    rfl
  have hpos : 0 < key.width := by
    rw [← h]
    exact Nat.succ_pos _
  calc Bytes.toNat (paddedBlock padding message)
      = Bytes.toNat (2 :: (padding ++ 0 :: message)) := by
        rw [paddedBlock, Bytes.toNat_cons]
        simp
    _ < 256 ^ (key.width - 1) := hrest ▸ Bytes.toNat_lt _
    _ ≤ key.modulus := le_modulus hpos

end PublicKey

/-! ## Decryption of what was encrypted -/

namespace PrivateKey

/-- The key gets back every message that its public half encrypts, under whichever padding. -/
def Inverts (key : PrivateKey) : Prop :=
  ∀ message ciphertext, key.publicKey.Encrypts message ciphertext →
    key.decrypt ciphertext = .ok message

/-- A key whose exponents undo each other gets messages back. -/
theorem inverts_of_pow {key : PrivateKey}
    (h : ∀ n < key.modulus,
      (n ^ key.publicExponent % key.modulus) ^ key.privateExponent % key.modulus = n) :
    key.Inverts := by
  rintro message ciphertext ⟨padding, hlength, hzero, hblock, rfl⟩
  have hlt := PublicKey.toNat_paddedBlock_lt hblock
  have hpower : Bytes.toNat (paddedBlock padding message) ^ key.publicExponent % key.modulus
      < key.modulus := Nat.mod_lt _ (Nat.zero_lt_of_lt hlt)
  have hwidth : (key.publicKey.encrypt padding message).length = key.width :=
    Bytes.length_ofNat _ _
  have hnumber : Bytes.toNat (key.publicKey.encrypt padding message) =
      Bytes.toNat (paddedBlock padding message) ^ key.publicExponent % key.modulus :=
    Bytes.toNat_ofNat (hpower.trans key.publicKey.modulus_lt)
  have hback : Bytes.ofNat key.width (Bytes.toNat (paddedBlock padding message)) =
      paddedBlock padding message := Bytes.ofNat_toNat hblock
  rw [decrypt, if_neg (not_not.2 hwidth), hnumber]
  simp only [ge_iff_le, Nat.not_le.2 hpower, if_false, powMod_eq, h _ hlt, hback,
    paddedMessage?_paddedBlock hlength hzero, Option.getD_some]

/-- A key of two primes gets messages back. -/
theorem inverts_of_prime {key : PrivateKey} (hp : key.prime1.Prime) (hq : key.prime2.Prime)
    (hpq : key.prime1 ≠ key.prime2) (hn : key.modulus = key.prime1 * key.prime2)
    (hd : key.privateExponent * key.publicExponent %
      Nat.lcm (key.prime1 - 1) (key.prime2 - 1) = 1) : key.Inverts := by
  apply inverts_of_pow
  rw [hn]
  exact fun n hlt => pow_mod_pow_mod hp hq hpq hd hlt

/-- A key whose numbers belong together gets messages back, provided that the numbers which passed
for primes are. -/
theorem inverts_of_isConsistent {key : PrivateKey} (h : key.isConsistent = true)
    (hp : key.prime1.Prime) (hq : key.prime2.Prime) : key.Inverts := by
  simp only [isConsistent, Bool.and_eq_true, decide_eq_true_eq] at h
  obtain ⟨⟨⟨⟨⟨⟨⟨⟨_, hn⟩, _⟩, _⟩, hd⟩, _⟩, _⟩, _⟩, hc⟩ := h
  have hpq : key.prime1 ≠ key.prime2 := by
    intro he
    rw [← he, Nat.mul_mod_left] at hc
    cases hc
  exact inverts_of_prime hp hq hpq hn hd

end PrivateKey

end Rsa

end Keyring
