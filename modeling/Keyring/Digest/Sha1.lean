import Keyring.Digest.Block

/-!
# SHA-1

The 160-bit hash that names public keys.
-/

namespace Keyring.Digest.Sha1

/-- The five chaining words. -/
structure State where
  a : UInt32
  b : UInt32
  c : UInt32
  d : UInt32
  e : UInt32

/-- The chaining words before the first block. -/
def initial : State := ⟨0x67452301, 0xefcdab89, 0x98badcfe, 0x10325476, 0xc3d2e1f0⟩

/-- The eighty words that the rounds use, from the sixteen of the block. -/
def schedule (block : Array UInt32) : Array UInt32 :=
  (List.range 64).foldl (fun w i =>
    w.push (rotateLeft
      (w.getD (i + 13) 0 ^^^ w.getD (i + 8) 0 ^^^ w.getD (i + 2) 0 ^^^ w.getD i 0) 1)) block

/-- The choice, parity and majority functions, each with its constant, for round `i`. -/
def mix (i : Nat) (b c d : UInt32) : UInt32 :=
  if i < 20 then ((b &&& c) ||| (~~~b &&& d)) + 0x5a827999
  else if i < 40 then (b ^^^ c ^^^ d) + 0x6ed9eba1
  else if i < 60 then ((b &&& c) ||| (b &&& d) ||| (c &&& d)) + 0x8f1bbcdc
  else (b ^^^ c ^^^ d) + 0xca62c1d6

/-- One round. -/
def round (w : Array UInt32) (s : State) (i : Nat) : State :=
  ⟨rotateLeft s.a 5 + mix i s.b s.c s.d + s.e + w.getD i 0, s.a, rotateLeft s.b 30, s.c, s.d⟩

/-- Eighty rounds, whose result is added to the chaining words. -/
def compress (s : State) (block : Array UInt32) : State :=
  let t := (List.range 80).foldl (round (schedule block)) s
  ⟨s.a + t.a, s.b + t.b, s.c + t.c, s.d + t.d, s.e + t.e⟩

/-- The twenty bytes of the chaining words. -/
def State.bytes (s : State) : Bytes :=
  wordBytes s.a ++ wordBytes s.b ++ wordBytes s.c ++ wordBytes s.d ++ wordBytes s.e

/-- The SHA-1 digest of a message. -/
def hash (message : Bytes) : Bytes := (chain compress initial #[] (pad message)).bytes

theorem length_hash (message : Bytes) : (hash message).length = 20 := by
  simp [hash, State.bytes, wordBytes]

/-- SHA-1 as a hash function of blocks of 64 bytes. -/
def algorithm : Algorithm := ⟨hash, 64, 20⟩

end Keyring.Digest.Sha1
