import Keyring.Base64

/-!
# PEM

Blocks of base64 text between a line that opens them and a line that closes them. Text around the
blocks is skipped, but every block that is opened and closed has to be well formed.
-/

namespace Keyring

/-- A block: its label, whether it says that its contents are encrypted or otherwise processed, and
the contents. -/
structure Pem where
  label : Bytes
  processed : Bool
  content : Bytes
  deriving DecidableEq

namespace Pem

def opening : Bytes := Bytes.ofText "-----BEGIN "
def closing : Bytes := Bytes.ofText "-----END "
def dashes : Bytes := Bytes.ofText "-----"
def processedField : Bytes := Bytes.ofText "Proc-Type"

/-- Looks for the mark in a text; `seen` holds what was passed so far, last byte first. -/
def splitFrom (mark seen text : Bytes) : Option (Bytes × Bytes) :=
  if mark.isPrefixOf text then some (seen.reverse, text.drop mark.length)
  else
    match text with
    | [] => none
    | b :: rest => splitFrom mark (b :: seen) rest

/-- What stands before the first occurrence of the mark, and what stands after it. -/
def splitAt? (mark text : Bytes) : Option (Bytes × Bytes) := splitFrom mark [] text

/-- The blanks that may follow the dashes, and that end a line of base64. -/
def isBlank (b : UInt8) : Bool := b = 0x20 || b = 0x09 || b = 0x0a || b = 0x0d

/-- The blanks of a line: those of a text file and the vertical tab and form feed. -/
def isLineBlank (b : UInt8) : Bool := isBlank b || b = 0x0b || b = 0x0c

/-- The lines of a text without their line feeds; what follows the last line feed is a line unless
it is empty. -/
def lines (text : Bytes) : List Bytes :=
  text.foldr (fun b found =>
    if b = 0x0a then [] :: found
    else
      match found with
      | [] => [[b]]
      | line :: more => (b :: line) :: more) []

/-- The text without the blanks at its end. -/
def trimEnd (line : Bytes) : Bytes := (line.reverse.dropWhile isLineBlank).reverse

/-- The text without the blanks at both ends. -/
def trim (line : Bytes) : Bytes := trimEnd (line.dropWhile isLineBlank)

/-- The field names of header lines, each in front of a colon that is the line's only one. -/
def fieldNames? : List Bytes → Option (List Bytes)
  | [] => some []
  | line :: rest =>
    match splitAt? [0x3a] line with
    | none => none
    | some (name, value) =>
      if value.contains 0x3a then none else (fieldNames? rest).map (trim name :: ·)

/-- Header lines and base64 text; headers end at the first empty line. -/
def splitBody (body : Bytes) : Bytes × Bytes :=
  match splitAt? [0x0a, 0x0a] body with
  | some parts => parts
  | none => (splitAt? [0x0d, 0x0a, 0x0d, 0x0a] body).getD ([], body)

/-- The block of a label, a body and a closing label. -/
def ofParts (label body closingLabel : Bytes) : Option Pem :=
  if label = [] ∨ label ≠ closingLabel then none
  else
    let parts := splitBody body
    match fieldNames? (lines parts.1), Base64.decode ((lines parts.2).flatMap trimEnd) with
    | some names, some content => some ⟨label, names.contains processedField, content⟩
    | _, _ => none

/-- Cuts off the first block that is opened and closed: its parts and what follows it. -/
def cut (text : Bytes) : Option ((Bytes × Bytes × Bytes) × Bytes) :=
  match splitAt? opening text with
  | none => none
  | some (_, text) =>
    match splitAt? dashes text with
    | none => none
    | some (label, text) =>
      match splitAt? closing (text.dropWhile isBlank) with
      | none => none
      | some (body, text) =>
        (splitAt? dashes text).map (fun parts => ((label, body, parts.1), parts.2))

/-- At most `count` blocks of a text. -/
def readUpTo : Nat → Bytes → Option (List Pem)
  | 0, _ => some []
  | count + 1, text =>
    match cut text with
    | none => some []
    | some ((label, body, closingLabel), rest) =>
      match ofParts label body closingLabel with
      | none => none
      | some block => (readUpTo count rest).map (block :: ·)

/-- All blocks of a text; each takes some bytes. `none` when one of them is damaged. -/
def read (text : Bytes) : Option (List Pem) := readUpTo text.length text

end Pem

end Keyring
