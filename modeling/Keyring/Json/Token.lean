import Keyring.Decimal.Binary64
import Keyring.Decimal.Digits
import Keyring.Hex

/-!
# Tokens of JSON

A text is cut into tokens one character at a time. Strings hold no control characters as they are,
and their escapes stand for whole characters; numbers have no superfluous zeros in front.
-/

namespace Keyring.Json

/-- A number as it is written: `digits * 10 ^ exponent`, and whether it has neither point nor
exponent. -/
structure Number where
  negative : Bool
  digits : Nat
  exponent : Int
  isInteger : Bool
  deriving DecidableEq

/-- The nearest binary number. -/
def Number.nearest (n : Number) : Binary64 := Binary64.ofDecimal n.negative n.digits n.exponent

/-- The integer that is written, where neither point nor exponent is. -/
def Number.integer? (n : Number) : Option Int :=
  if n.isInteger then some (if n.negative then -(n.digits : Int) else n.digits) else none

/-- A token. -/
inductive Token where
  | openArray
  | closeArray
  | openObject
  | closeObject
  | comma
  | colon
  | null
  | bool (b : Bool)
  | number (n : Number)
  | text (s : String)
  deriving DecidableEq

/-! ## Words and numbers -/

/-- The value of the digits of a text that starts with `value`, if it holds nothing else. -/
def digitsValue (value : Nat) : List Char → Option Nat
  | [] => some value
  | c :: rest =>
    match Decimal.asciiDigit? c with
    | some d => digitsValue (value * 10 + d) rest
    | none => none

/-- A text before the first of two marks, and after it if there is one. -/
def splitAtMark (a b : Char) (text : List Char) : List Char × Option (List Char) :=
  let start := text.takeWhile (fun c => c ≠ a ∧ c ≠ b)
  match text.dropWhile (fun c => c ≠ a ∧ c ≠ b) with
  | [] => (start, none)
  | _ :: rest => (start, some rest)

/-- The value of a text of one or more digits. -/
def someDigits (text : List Char) : Option Nat :=
  if text.isEmpty then none else digitsValue 0 text

/-- The value of an exponent, which may have a sign. -/
def readExponent : List Char → Option Int
  | '-' :: rest => (someDigits rest).map (fun n => -(n : Int))
  | '+' :: rest => (someDigits rest).map Int.ofNat
  | rest => (someDigits rest).map Int.ofNat

/-- A number without its sign: digits without superfluous zeros, then a point and digits or nothing,
then an exponent or nothing. -/
def readUnsigned (negative : Bool) (text : List Char) : Option Number :=
  let (significand, exponent) := splitAtMark 'e' 'E' text
  let (whole, fraction) := splitAtMark '.' '.' significand
  if whole.length > 1 ∧ whole.head? = some '0' then none
  else
    match someDigits whole, fraction.mapM someDigits, exponent.mapM readExponent with
    | some _, some _, some power =>
      let places := fraction.getD []
      (digitsValue 0 (whole ++ places)).map (fun digits =>
        ⟨negative, digits, power.getD 0 - places.length, fraction.isNone && exponent.isNone⟩)
    | _, _, _ => none

/-- A number. -/
def readNumber : List Char → Option Number
  | '-' :: rest => readUnsigned true rest
  | rest => readUnsigned false rest

/-- The token of a word or a number. -/
def readWord (text : List Char) : Option Token :=
  if text = ['n', 'u', 'l', 'l'] then some .null
  else if text = ['t', 'r', 'u', 'e'] then some (.bool true)
  else if text = ['f', 'a', 'l', 's', 'e'] then some (.bool false)
  else (readNumber text).map .number

/-! ## The scanner -/

/-- Where the scanner is. Characters of the token at hand are held last character first. -/
inductive Place where
  /-- Between tokens. -/
  | between
  /-- In a word or a number. -/
  | word (chars : List Char)
  /-- In a string. -/
  | string (chars : List Char)
  /-- In a string, after a backslash. -/
  | escape (chars : List Char)
  /-- In an escape by code unit with `missing` digits to come; `high` is the first half of a pair.
  -/
  | unit (chars : List Char) (high : Option Nat) (code missing : Nat)
  /-- After the first half of a pair, before the backslash of the second. -/
  | pair (chars : List Char) (high : Nat)
  /-- After the backslash of the second half. -/
  | pairEscape (chars : List Char) (high : Nat)

/-- The scanner: where it is, and the tokens so far, last token first. -/
structure Scanner where
  place : Place
  tokens : List Token

/-- The character of an escape by one letter. -/
def simpleEscape? : Char → Option Char
  | '"' => some '"'
  | '\\' => some '\\'
  | '/' => some '/'
  | 'b' => some '\x08'
  | 'f' => some '\x0c'
  | 'n' => some '\n'
  | 'r' => some '\r'
  | 't' => some '\t'
  | _ => none

/-- The token of a mark that stands for itself. -/
def mark? : Char → Option Token
  | '[' => some .openArray
  | ']' => some .closeArray
  | '\x7b' => some .openObject
  | '\x7d' => some .closeObject
  | ',' => some .comma
  | ':' => some .colon
  | _ => none

/-- The blanks between tokens. -/
def isBlank (c : Char) : Bool := c = ' ' || c = '\t' || c = '\n' || c = '\r'

/-- Where the scanner is after a whole escape by code unit. -/
def finishUnit (chars : List Char) (high : Option Nat) (code : Nat) : Option Place :=
  match high with
  | some high =>
    if 0xdc00 ≤ code ∧ code < 0xe000 then
      some (.string (Char.ofNat (0x10000 + (high - 0xd800) * 0x400 + (code - 0xdc00)) :: chars))
    else none
  | none =>
    if 0xd800 ≤ code ∧ code < 0xdc00 then some (.pair chars code)
    else if 0xdc00 ≤ code ∧ code < 0xe000 then none
    else some (.string (Char.ofNat code :: chars))

/-- A character between tokens. -/
def Scanner.start (tokens : List Token) (c : Char) : Scanner :=
  if isBlank c then ⟨.between, tokens⟩
  else if c = '"' then ⟨.string [], tokens⟩
  else
    match mark? c with
    | some token => ⟨.between, token :: tokens⟩
    | none => ⟨.word [c], tokens⟩

/-- Whether a character ends a word or a number. -/
def endsWord (c : Char) : Bool := isBlank c || c = '"' || (mark? c).isSome

/-- The scanner after one more character; none where the character cannot stand there. -/
def Scanner.step (scanner : Scanner) (c : Char) : Option Scanner :=
  let tokens := scanner.tokens
  match scanner.place with
  | .between => some (Scanner.start tokens c)
  | .word chars =>
    if endsWord c then (readWord chars.reverse).map (fun token => Scanner.start (token :: tokens) c)
    else some ⟨.word (c :: chars), tokens⟩
  | .string chars =>
    if c = '"' then some ⟨.between, .text (String.ofList chars.reverse) :: tokens⟩
    else if c = '\\' then some ⟨.escape chars, tokens⟩
    else if c.toNat < 0x20 then none
    else some ⟨.string (c :: chars), tokens⟩
  | .escape chars =>
    if c = 'u' then some ⟨.unit chars none 0 4, tokens⟩
    else (simpleEscape? c).map (fun d => ⟨.string (d :: chars), tokens⟩)
  | .unit chars high code missing =>
    match Hex.digit? c with
    | none => none
    | some d =>
      if missing ≤ 1 then (finishUnit chars high (code * 16 + d)).map (⟨·, tokens⟩)
      else some ⟨.unit chars high (code * 16 + d) (missing - 1), tokens⟩
  | .pair chars high => if c = '\\' then some ⟨.pairEscape chars high, tokens⟩ else none
  | .pairEscape chars high => if c = 'u' then some ⟨.unit chars (some high) 0 4, tokens⟩ else none

/-- The tokens at the end of the text. -/
def Scanner.finish (scanner : Scanner) : Option (List Token) :=
  match scanner.place with
  | .between => some scanner.tokens.reverse
  | .word chars => (readWord chars.reverse).map (fun token => (token :: scanner.tokens).reverse)
  | _ => none

/-- The tokens of a text. -/
def tokens (text : List Char) : Option (List Token) :=
  (text.foldlM Scanner.step ⟨.between, []⟩).bind Scanner.finish

end Keyring.Json
