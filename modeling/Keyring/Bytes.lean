/-!
# Bytes

A byte string is a list of bytes. This module holds the readings that the rest of the library
shares: the big-endian number of a byte string and back, the bytewise exclusive or, and UTF-8.
-/

namespace Keyring

/-- A byte string, first byte first. -/
abbrev Bytes := List UInt8

namespace Bytes

/-- The signed numbers of 64 bits lie from the negative of this one up to it. -/
def wordBound : Nat := 0x8000000000000000

/-- The largest size of a byte string: what is left of 63 bits when its header is counted in. -/
def maxSize : Nat := wordBound - 34

/-- The number whose big-endian form is the byte string. -/
def toNat (bytes : Bytes) : Nat :=
  bytes.foldl (fun n b => n * 256 + b.toNat) 0

/-- The last `width` base-256 digits of a number, most significant first, put before `tail`. -/
def ofNatOnto (n : Nat) : Nat → Bytes → Bytes
  | 0, tail => tail
  | width + 1, tail => ofNatOnto (n / 256) width (UInt8.ofNat n :: tail)

/-- The big-endian form of a number in `width` bytes; higher digits are dropped. -/
def ofNat (width n : Nat) : Bytes := ofNatOnto n width []

/-- How many bytes the big-endian form of a number needs; zero needs none. -/
def widthOf (n : Nat) : Nat := if n = 0 then 0 else Nat.log2 n / 8 + 1

/-- The shortest big-endian form of a number. -/
def ofNatMinimal (n : Nat) : Bytes := ofNat (widthOf n) n

/-- Bytewise exclusive or, as long as the shorter argument. -/
def xor (a b : Bytes) : Bytes := List.zipWith (· ^^^ ·) a b

/-- The UTF-8 form of a text. -/
def ofText (text : String) : Bytes := text.toUTF8.data.toList

/-- The text whose UTF-8 form is given; `none` when the bytes are no well-formed UTF-8. -/
def toText? (bytes : Bytes) : Option String := String.fromUTF8? ⟨bytes.toArray⟩

theorem length_ofNatOnto (n width : Nat) (tail : Bytes) :
    (ofNatOnto n width tail).length = width + tail.length := by
  induction width generalizing n tail with
  | zero => simp [ofNatOnto]
  | succ width ih => simp [ofNatOnto, ih]; omega

theorem length_ofNat (width n : Nat) : (ofNat width n).length = width := by
  simp [ofNat, length_ofNatOnto]

/-- What is written as UTF-8 is read back. -/
theorem toText?_ofText (text : String) : toText? (ofText text) = some text := by
  have h : ByteArray.mk (ofText text).toArray = text.toByteArray := by simp [ofText]
  simp [toText?, String.fromUTF8?, h, String.fromUTF8, text.isValidUTF8]

end Bytes

end Keyring
