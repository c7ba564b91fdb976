import Keyring.Bytes

/-!
# Base64

The standard alphabet in groups of four characters, the last filled with equals signs. Only the
canonical form is read: bits that stand for nothing are zero.
-/

namespace Keyring.Base64

/-- The value of a character of the alphabet. -/
def digit? (c : UInt8) : Option Nat :=
  if 0x41 ≤ c ∧ c ≤ 0x5a then some (c.toNat - 0x41)
  else if 0x61 ≤ c ∧ c ≤ 0x7a then some (c.toNat - 0x61 + 26)
  else if 0x30 ≤ c ∧ c ≤ 0x39 then some (c.toNat - 0x30 + 52)
  else if c = 0x2b then some 62
  else if c = 0x2f then some 63
  else none

/-- The equals sign that fills the last group. -/
def filler : UInt8 := 0x3d

/-- The three bytes of four values. -/
def group (a b c d : Nat) : Bytes :=
  [UInt8.ofNat (a * 4 + b / 16), UInt8.ofNat (b % 16 * 16 + c / 4), UInt8.ofNat (c % 4 * 64 + d)]

/-- The bytes of the last group, which may be filled. -/
def lastGroup (a b c d : UInt8) : Option Bytes :=
  match digit? a, digit? b with
  | some w, some x =>
    if c = filler then
      if d = filler ∧ x % 16 = 0 then some ((group w x 0 0).take 1) else none
    else
      match digit? c with
      | none => none
      | some y =>
        if d = filler then
          if y % 4 = 0 then some ((group w x y 0).take 2) else none
        else (digit? d).map (group w x y)
  | _, _ => none

/-- Reads whole groups after the bytes `read` so far, which are given last byte first. -/
def decodeOnto (read : Bytes) : Bytes → Option Bytes
  | [] => some read.reverse
  | [a, b, c, d] => (lastGroup a b c d).map (read.reverse ++ ·)
  | a :: b :: c :: d :: rest =>
    match digit? a, digit? b, digit? c, digit? d with
    | some w, some x, some y, some z => decodeOnto ((group w x y z).reverse ++ read) rest
    | _, _, _, _ => none
  | _ => none

/-- The bytes of a base64 text; the empty text stands for none. -/
def decode (text : Bytes) : Option Bytes := decodeOnto [] text

end Keyring.Base64
