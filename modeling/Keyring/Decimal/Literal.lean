import Keyring.Bytes
import Keyring.Decimal.Digits

/-!
# Integer literals

The text of an integer: blanks around it, a sign directly before the digits, digits with single
underscores between them. A literal may have 4300 digits.
-/

namespace Keyring.Decimal

/-- What a character of a literal is. -/
inductive Mark where
  | digit (value : Nat)
  | underscore
  | plus
  | minus
  | blank
  | other
  deriving DecidableEq

/-- The mark of a character of a text: digits of all scripts, and white space without the
separators of ASCII. -/
def Mark.ofChar (c : Char) : Mark :=
  match digit? c with
  | some value => .digit value
  | none =>
    if c = '_' then .underscore
    else if c = '+' then .plus
    else if c = '-' then .minus
    else if Text.isWhiteSpace c then .blank
    else .other

/-- The mark of a byte, which is that of its character if it is ASCII. -/
def Mark.ofByte (b : UInt8) : Mark :=
  if b < 0x80 then Mark.ofChar (Char.ofNat b.toNat) else .other

/-- Why a text is no integer. -/
inductive LiteralFault where
  | malformed
  | tooLong (digits : Nat)
  deriving DecidableEq

/-- The largest count of digits. -/
def literalLimit : Nat := 4300

/-- Reads digits and the underscores between them: their count and value, and what follows.
`afterDigit` tells whether an underscore or the end may come next. -/
def readDigits (afterDigit : Bool) (count value : Nat) : List Mark → Option (Nat × Nat × List Mark)
  | .digit d :: rest => readDigits true (count + 1) (value * 10 + d) rest
  | .underscore :: rest => if afterDigit then readDigits false count value rest else none
  | rest => if afterDigit then some (count, value, rest) else none

/-- The value of the digits and of nothing but blanks after them. -/
def readMagnitude (marks : List Mark) : Except LiteralFault Nat :=
  match readDigits false 0 0 marks with
  | none => .error .malformed
  | some (count, value, rest) =>
    if count > literalLimit then .error (.tooLong count)
    else if rest.all (· = .blank) then .ok value
    else .error .malformed

/-- The value of a literal. -/
def readLiteral (marks : List Mark) : Except LiteralFault Int :=
  match marks.dropWhile (· = .blank) with
  | .minus :: rest => (readMagnitude rest).map (fun n => -(n : Int))
  | .plus :: rest => (readMagnitude rest).map Int.ofNat
  | rest => (readMagnitude rest).map Int.ofNat

/-- The integer that a text stands for. -/
def ofText (text : List Char) : Except LiteralFault Int := readLiteral (text.map Mark.ofChar)

/-- The integer that a byte string stands for. -/
def ofBytes (bytes : Bytes) : Except LiteralFault Int := readLiteral (bytes.map Mark.ofByte)

end Keyring.Decimal
