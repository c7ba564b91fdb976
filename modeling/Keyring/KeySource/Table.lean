import Keyring.KeySource.Record
import Keyring.Text.Lines

/-!
# Tables of key sources

A table has a record on each line: the location and the credential, each between double quotes, with
a comma between the two. Inside the quotes a backslash and the letter `x` introduce a character by
two hexadecimal digits, and a backslash before anything else stands for that character. Blank lines
and lines that start with `#` hold no record.
-/

namespace Keyring.KeySource

/-- Why a list of sources cannot be read. -/
inductive ListFault where
  | notJson
  | notArray
  | malformedRecord (line : Nat)
  | invalid (issues : List Issue)
  deriving DecidableEq

/-- What is said about it. -/
def ListFault.message : ListFault → String
  | .notJson => "Invalid key source JSON"
  | .notArray => "Key source JSON must be an array"
  | .malformedRecord line => s!"Malformed key source record at line {line}"
  | .invalid issues => Issue.summary issues

namespace Table

/-! ## Reading -/

/-- The characters before the quote that ends a field, decoded, and what follows that quote. -/
def readField : List Char → Option (List Char × List Char)
  | [] => none
  | '"' :: rest => some ([], rest)
  | ['\\'] => none
  | '\\' :: 'x' :: a :: b :: rest =>
    match Hex.digit? a, Hex.digit? b with
    | some high, some low =>
      (readField rest).map (fun (field, after) => (Char.ofNat (high * 16 + low) :: field, after))
    | _, _ => (readField (a :: b :: rest)).map (fun (field, after) => ('x' :: field, after))
  | '\\' :: c :: rest => (readField rest).map (fun (field, after) => (c :: field, after))
  | c :: rest => (readField rest).map (fun (field, after) => (c :: field, after))

/-- The two fields of a record. -/
def readRecord : List Char → Option (String × String)
  | '"' :: rest =>
    match readField rest with
    | some (location, ',' :: '"' :: rest) =>
      match readField rest with
      | some (credential, []) => some (String.ofList location, String.ofList credential)
      | _ => none
    | _ => none
  | _ => none

/-- Whether a line, without blanks at its ends, holds no record. -/
def isSkipped (line : List Char) : Bool := line.isEmpty || line.head? = some '#'

/-- The sources on the lines of a table, of which `number` is the number of the first. -/
def readLines (number : Nat) : List (List Char) → Except ListFault (List KeySource)
  | [] => .ok []
  | line :: rest =>
    let line := Text.trim Text.isBlank line
    if isSkipped line then readLines (number + 1) rest
    else
      match readRecord line with
      | none => .error (.malformedRecord number)
      | some (location, credential) =>
        match ofTexts location credential with
        | .error issues => .error (.invalid issues)
        | .ok source => (readLines (number + 1) rest).map (source :: ·)

/-- The sources of a table. -/
def read (text : List Char) : Except ListFault (List KeySource) := readLines 1 (Text.lines text)

/-! ## Writing -/

/-- Whether a character has to be written by its number: a quote, a backslash, or a line break that
two digits can name. -/
def isEscaped (c : Char) : Bool :=
  c = '"' || c = '\\' || (Text.isLineBreak c && c.toNat < 0x100)

/-- How a character is written inside the quotes. -/
def writeChar (c : Char) : List Char :=
  if isEscaped c then '\\' :: 'x' :: Text.hexDigits 2 c.toNat else [c]

/-- A field with its quotes. -/
def writeField (field : String) : List Char := '"' :: (field.toList.flatMap writeChar ++ ['"'])

/-- The line of a record. -/
def writeRecord (record : String × String) : List Char :=
  writeField record.1 ++ ',' :: writeField record.2

/-- A table with a line for each record. -/
def write (records : List (String × String)) : List Char :=
  records.flatMap (fun record => writeRecord record ++ ['\n'])

end Table

end Keyring.KeySource
