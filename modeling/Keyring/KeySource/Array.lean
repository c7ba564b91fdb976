import Keyring.Json
import Keyring.KeySource.Table

/-!
# Arrays of key sources

A JSON array with an object for each source. Numbers too large for the binary format, and texts
nested too deeply, are refused.
-/

namespace Keyring

namespace Json

/-- How many arrays and objects may be open at a time. -/
def depthLimit : Nat := 1024

/-- Whether a token is a number beyond the range of the binary format. -/
def Token.isBeyondRange : Token → Bool
  | .number n => if let .infinity _ := n.nearest then true else false
  | _ => false

/-- The value of a text in which all numbers are within range. -/
def ofText (text : List Char) : Option Json :=
  match tokens text with
  | none => none
  | some found => if found.any Token.isBeyondRange then none else ofTokens depthLimit found

/-- A number as an integer if it is written as one of 64 bits, else as a binary number. -/
def Number.toValue (n : Number) : Value :=
  match n.integer? with
  | some i =>
    if -(Bytes.wordBound : Int) ≤ i ∧ i < 2 * Bytes.wordBound then .int i else .float n.nearest
  | none => .float n.nearest

mutual
/-- The value that a value of JSON stands for. -/
def toValue : Json → Value
  | .null => .null
  | .bool b => .bool b
  | .number n => n.toValue
  | .text s => .text s
  | .array items => .list (toValues items)
  | .object members => .record (toFields members)

/-- The values of the items of an array. -/
def toValues : List Json → List Value
  | [] => []
  | item :: rest => toValue item :: toValues rest

/-- The fields of the members of an object. -/
def toFields : List (String × Json) → List (String × Value)
  | [] => []
  | (name, value) :: rest => (name, toValue value) :: toFields rest
end

end Json

namespace KeySource

/-- The sources of the items of an array; the first that is none ends the reading. -/
def ofItems : List Value → Except ListFault (List KeySource)
  | [] => .ok []
  | item :: rest =>
    match ofValue item with
    | .error issues => .error (.invalid issues)
    | .ok source => (ofItems rest).map (source :: ·)

/-- The sources of a text. -/
def readArray (text : List Char) : Except ListFault (List KeySource) :=
  match Json.ofText text with
  | none => .error .notJson
  | some (.array items) => ofItems (Json.toValues items)
  | some _ => .error .notArray

/-- The sources of a text in UTF-8. -/
def readArrayBytes (bytes : Bytes) : Except ListFault (List KeySource) :=
  match Bytes.toText? bytes with
  | none => .error .notJson
  | some text => readArray text.toList

end KeySource

end Keyring
