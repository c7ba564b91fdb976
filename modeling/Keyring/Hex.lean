import Keyring.Bytes

/-!
# Hexadecimal text

Bytes are written as two lower-case digits each. A reader takes digits of either case, and lets
blanks of the ASCII set stand before, between and after the pairs but never inside one.
-/

namespace Keyring.Hex

/-- The sixteen digits, in the order of their values. -/
def digits : List Char :=
  ['0', '1', '2', '3', '4', '5', '6', '7', '8', '9', 'a', 'b', 'c', 'd', 'e', 'f']

/-- The lower-case digit of a value below sixteen. -/
def digit (value : Nat) : Char := digits.getD value '0'

/-- The value of a hexadecimal digit of either case. -/
def digit? (c : Char) : Option Nat :=
  if '0' ≤ c ∧ c ≤ '9' then some (c.toNat - '0'.toNat)
  else if 'a' ≤ c ∧ c ≤ 'f' then some (c.toNat - 'a'.toNat + 10)
  else if 'A' ≤ c ∧ c ≤ 'F' then some (c.toNat - 'A'.toNat + 10)
  else none

theorem digit?_digit {value : Nat} (h : value < 16) : digit? (digit value) = some value := by
  have hall : ∀ n < 16, digit? (digit n) = some n := by decide
  exact hall value h

theorem lt_of_digit? {c : Char} {value : Nat} (h : digit? c = some value) : value < 16 := by
  have hnine : '9'.toNat = '0'.toNat + 9 := rfl
  have hf : 'f'.toNat = 'a'.toNat + 5 := rfl
  have hF : 'F'.toNat = 'A'.toNat + 5 := rfl
  unfold digit? at h
  split at h
  · rename_i hdigit
    have hc : c.toNat ≤ '9'.toNat := hdigit.2
    cases h
    omega
  · split at h
    · rename_i hlower
      have hc : c.toNat ≤ 'f'.toNat := hlower.2
      cases h
      omega
    · split at h
      · rename_i hupper
        have hc : c.toNat ≤ 'F'.toNat := hupper.2
        cases h
        omega
      · cases h

/-- The pair of digits of one byte. -/
def encodeByte (b : UInt8) : List Char := [digit (b.toNat / 16), digit (b.toNat % 16)]

/-- Two lower-case digits for each byte. -/
def encodeChars (bytes : Bytes) : List Char := bytes.flatMap encodeByte

/-- The hexadecimal text of a byte string. -/
def encode (bytes : Bytes) : String := String.ofList (encodeChars bytes)

/-- The blanks that may stand between pairs: space, tab, line feed, vertical tab, form feed and
carriage return. -/
def isGap (c : Char) : Bool :=
  c == ' ' || c == '\t' || c == '\n' || c == '\x0b' || c == '\x0c' || c == '\r'

/-- Reads pairs of digits; a fault is the index of the first character that fits no pair, where
`pos` is the index of the first character given and the end of the text counts as a character. -/
def decodeFrom (pos : Nat) : List Char → Except Nat Bytes
  | [] => .ok []
  | [c] =>
    if isGap c then .ok []
    else if (digit? c).isNone then .error pos
    else .error (pos + 1)
  | c :: d :: rest =>
    if isGap c then decodeFrom (pos + 1) (d :: rest)
    else
      match digit? c, digit? d with
      | none, _ => .error pos
      | some _, none => .error (pos + 1)
      | some hi, some lo => (decodeFrom (pos + 2) rest).map (UInt8.ofNat (hi * 16 + lo) :: ·)

/-- The bytes of a hexadecimal text, or the index of its fault. A character outside ASCII is a
fault that is reported before any other. -/
def decode (text : List Char) : Except Nat Bytes :=
  match text.findIdx? (fun c => !(c.toNat < 128)) with
  | some pos => .error pos
  | none => decodeFrom 0 text

end Keyring.Hex
