import Keyring.Hex
import Keyring.Text.Printable

/-!
# Quoted text

A text or a byte string between quotes, as messages show it: single quotes unless the text holds a
single quote and no double quote, with a backslash before what cannot stand there as it is.
-/

namespace Keyring.Text

/-- The lower-case digits of a number, `width` of them. -/
def hexDigits : Nat → Nat → List Char
  | 0, _ => []
  | width + 1, n => hexDigits width (n / 16) ++ [Hex.digit (n % 16)]

/-- The quote that stands around a text. -/
def quoteFor (text : List Char) : Char :=
  if text.contains '\'' && !text.contains '"' then '"' else '\''

/-- The escapes that texts and byte strings share. -/
def commonEscape (quote c : Char) : Option (List Char) :=
  if c = quote ∨ c = '\\' then some ['\\', c]
  else if c = '\n' then some ['\\', 'n']
  else if c = '\r' then some ['\\', 'r']
  else if c = '\t' then some ['\\', 't']
  else none

/-- How a character of a text is shown: as it is if it is printable, else by its code point in two,
four or eight digits. -/
def quotedChar (quote c : Char) : List Char :=
  match commonEscape quote c with
  | some escape => escape
  | none =>
    if isPrintable c then [c]
    else if c.toNat < 0x100 then '\\' :: 'x' :: hexDigits 2 c.toNat
    else if c.toNat < 0x10000 then '\\' :: 'u' :: hexDigits 4 c.toNat
    else '\\' :: 'U' :: hexDigits 8 c.toNat

/-- A text between quotes. -/
def quoteChars (text : List Char) : List Char :=
  let quote := quoteFor text
  quote :: (text.flatMap (quotedChar quote) ++ [quote])

/-- A text between quotes. -/
def quote (text : String) : String := String.ofList (quoteChars text.toList)

/-- How a byte is shown: as its character if that is printable ASCII, else by two digits. -/
def quotedByte (quote : Char) (b : UInt8) : List Char :=
  let c := Char.ofNat b.toNat
  match commonEscape quote c with
  | some escape => escape
  | none => if 0x20 ≤ b ∧ b < 0x7f then [c] else '\\' :: 'x' :: hexDigits 2 b.toNat

/-- The quote that stands around a byte string. -/
def quoteForBytes (bytes : Bytes) : Char := quoteFor (bytes.map (fun b => Char.ofNat b.toNat))

/-- A byte string between quotes, after the letter that marks byte strings. -/
def quoteBytes (bytes : Bytes) : String :=
  let quote := quoteForBytes bytes
  String.ofList ('b' :: quote :: (bytes.flatMap (quotedByte quote) ++ [quote]))

/-- A byte string between quotes, where a single quote is escaped whichever quotes are around it. -/
def quoteBuffer (bytes : Bytes) : String :=
  let quote := quoteForBytes bytes
  let shown := bytes.flatMap (fun b => if b = 0x27 then ['\\', '\''] else quotedByte quote b)
  String.ofList ('b' :: quote :: (shown ++ [quote]))

end Keyring.Text
