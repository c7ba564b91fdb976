import Keyring.Decimal.Literal
import Keyring.Decimal.Shortest
import Keyring.KeyId
import Keyring.KeySource
import Keyring.Registry.BlockType

/-!
# Values

What a caller may hand over where a key source, a setting, an identifier, a block type or a block's
data is expected, and how each kind of value is read as a text, a number or bytes.
-/

namespace Keyring

/-- How a byte string is held: for good, open to change, or as a view of another one. -/
inductive BufferKind where
  | fixed
  | mutable
  | view
  deriving DecidableEq

/-- A value. The names of a record are different from one another. -/
inductive Value where
  | null
  | bool (b : Bool)
  | int (n : Int)
  | float (x : Binary64)
  | text (s : String)
  | buffer (kind : BufferKind) (bytes : Bytes)
  | keyId (id : KeyId)
  | blockType (type : BlockType)
  | source (source : KeySource)
  | list (items : List Value)
  | tuple (items : List Value)
  | record (fields : List (String × Value))

/-- Why a value cannot be used. -/
inductive ValueFault where
  /-- A value of another type is needed. -/
  | wrongType
  /-- The type of the value has no such operation. -/
  | noOperation
  /-- A number that is too large for the operation. -/
  | tooLarge
  | negativeCount
  | negativeLength
  | byteOutOfRange
  | notANumber
  | nulCharacter
  | badLiteral (quoted : String)
  | longLiteral (digits : Nat)
  /-- A number with more digits than are written. -/
  | longNumber
  deriving DecidableEq

/-- What is said about it; wrong types, missing operations and large numbers are not explained. -/
def ValueFault.message : ValueFault → String
  | .wrongType | .noOperation | .tooLarge => ""
  | .negativeCount => "negative count"
  | .negativeLength => "read length must be non-negative or -1"
  | .byteOutOfRange => "bytes must be in range(0, 256)"
  | .notANumber => "cannot convert float NaN to integer"
  | .nulCharacter => "embedded null byte"
  | .badLiteral quoted => s!"invalid literal for int() with base 10: {quoted}"
  | .longLiteral digits =>
    "Exceeds the limit (4300 digits) for integer string conversion: " ++
      s!"value has {digits} digits; use sys.set_int_max_str_digits() to increase the limit"
  | .longNumber =>
    "Exceeds the limit (4300 digits) for integer string conversion; " ++
      "use sys.set_int_max_str_digits() to increase the limit"

/-- Whether the value is of a fitting type and size, and is wrong for what it is. -/
def ValueFault.isWrongValue : ValueFault → Bool
  | .wrongType | .noOperation | .tooLarge => false
  | _ => true

namespace Value

/-- The name of a value's type, as messages give it. -/
def typeName : Value → String
  | .null => "NoneType"
  | .bool _ => "bool"
  | .int _ => "int"
  | .float _ => "float"
  | .text _ => "str"
  | .buffer .fixed _ => "bytes"
  | .buffer .mutable _ => "bytearray"
  | .buffer .view _ => "memoryview"
  | .keyId _ => "KeyId"
  | .blockType _ => "SecretsType"
  | .source _ => "KeySource"
  | .list _ => "list"
  | .tuple _ => "tuple"
  | .record _ => "dict"

/-- Whether a value counts as given: all but null, false, zero and what is empty. -/
def isGiven : Value → Bool
  | .null => false
  | .bool b => b
  | .int n => n ≠ 0
  | .float (.finite _ mantissa _) => mantissa ≠ 0
  | .float _ => true
  | .text s => s ≠ ""
  | .buffer _ bytes => !bytes.isEmpty
  | .list items | .tuple items => !items.isEmpty
  | .record fields => !fields.isEmpty
  | .keyId _ | .blockType _ | .source _ => true

/-! ## As text -/

/-- The texts with a comma and a space between them. -/
def joinComma (parts : List String) : String := String.intercalate ", " parts

mutual
/-- A value as it is shown inside a collection. -/
def quoted : Value → String
  | .null => "None"
  | .bool b => if b then "True" else "False"
  | .int n => toString n
  | .float x => x.text
  | .text s => Text.quote s
  | .buffer .fixed bytes => Text.quoteBytes bytes
  | .buffer .mutable bytes => "bytearray(" ++ Text.quoteBuffer bytes ++ ")"
  | .buffer .view _ => "<memory>"
  | .keyId id => id.quoted
  | .blockType type => type.quoted
  | .source origin => origin.quoted
  | .list items => "[" ++ joinComma (quotedItems items) ++ "]"
  | .tuple [item] => "(" ++ quoted item ++ ",)"
  | .tuple items => "(" ++ joinComma (quotedItems items) ++ ")"
  | .record fields => "\x7b" ++ joinComma (quotedFields fields) ++ "\x7d"

/-- The items of a list as they are shown. -/
def quotedItems : List Value → List String
  | [] => []
  | item :: rest => quoted item :: quotedItems rest

/-- The fields of a record as they are shown. -/
def quotedFields : List (String × Value) → List String
  | [] => []
  | (name, value) :: rest => (Text.quote name ++ ": " ++ quoted value) :: quotedFields rest
end

/-- A value as it is shown on its own. -/
def shown : Value → String
  | .text s => s
  | .keyId id => id.hex
  | .blockType type => toString type.code
  | .source origin => origin.shownLocation
  | value => value.quoted

mutual
/-- Whether a value can be shown: no number in it has more digits than are written. -/
def isShowable : Value → Bool
  | .int n => (Nat.toDigits 10 n.natAbs).length ≤ Decimal.literalLimit
  | .list items | .tuple items => areShowable items
  | .record fields => fieldsAreShowable fields
  | _ => true

/-- Whether the items of a list can be shown. -/
def areShowable : List Value → Bool
  | [] => true
  | item :: rest => isShowable item && areShowable rest

/-- Whether the fields of a record can be shown. -/
def fieldsAreShowable : List (String × Value) → Bool
  | [] => true
  | (_, value) :: rest => isShowable value && fieldsAreShowable rest
end

/-- The text that a value is converted to. -/
def toText (value : Value) : Except ValueFault String :=
  if value.isShowable then .ok value.shown else .error .longNumber

/-! ## As a number -/

/-- The integer that a value is, if it is one: truth values count as one and zero. -/
def integer? : Value → Option Int
  | .bool b => some (if b then 1 else 0)
  | .int n => some n
  | .blockType type => some type.code
  | _ => none

/-- The integer that a value is equal to. -/
def equalInteger? : Value → Option Int
  | .float x => x.toInt?
  | value => value.integer?

/-- The start of a text as it is shown in a message, cut to two hundred characters. -/
def cutQuoted (quoted : String) : String := String.ofList (quoted.toList.take 200)

/-- The fault of a literal that is shown as `quoted`. -/
def literalFault (quoted : String) : Decimal.LiteralFault → ValueFault
  | .malformed => .badLiteral (cutQuoted quoted)
  | .tooLong digits => .longLiteral digits

/-- The integer that a value is converted to: the integer part of a number, or the value of a
literal. -/
def toInteger : Value → Except ValueFault Int
  | .float x =>
    match x with
    | .nan => .error .notANumber
    | .infinity _ => .error .tooLarge
    | .finite .. => .ok (x.truncate?.getD 0)
  | .text s => (Decimal.ofText s.toList).mapError (literalFault (Text.quote s))
  | .buffer _ bytes =>
    (Decimal.ofBytes bytes).mapError (literalFault (Text.quoteBytes (bytes.take 200)))
  | value =>
    match value.integer? with
    | some n => .ok n
    | none => .error .wrongType

/-! ## As bytes -/

/-- The byte of a list's item. -/
def toByte (item : Value) : Except ValueFault UInt8 :=
  match item.integer? with
  | none => .error .wrongType
  | some n => if 0 ≤ n ∧ n < 256 then .ok (UInt8.ofNat n.toNat) else .error .byteOutOfRange

/-- As many zero bytes as a number says. -/
def zeros (n : Int) : Except ValueFault Bytes :=
  if n < -(Bytes.wordBound : Int) ∨ Bytes.maxSize < n then .error .tooLarge
  else if n < 0 then .error .negativeCount
  else .ok (List.replicate n.toNat 0)

/-- The bytes that a value is converted to. -/
def toBytes : Value → Except ValueFault Bytes
  | .buffer _ bytes => .ok bytes
  | .keyId id => .ok id.digest
  | .list items | .tuple items => items.mapM toByte
  | .record [] => .ok []
  | value =>
    match value.integer? with
    | some n => zeros n
    | none => .error .wrongType

/-- The first `length` elements, all but the last `-length` where it is negative. -/
def takeSigned {α : Type} (length : Int) (elements : List α) : List α :=
  if 0 ≤ length then elements.take length.toNat
  else elements.take (elements.length - length.natAbs)

/-- The value cut to a length, as only byte strings, texts, lists and tuples can be. -/
def cut (length value : Value) : Except ValueFault Value :=
  match length.integer?, value with
  | some n, .buffer kind bytes => .ok (.buffer kind (takeSigned n bytes))
  | some n, .text s => .ok (.text (String.ofList (takeSigned n s.toList)))
  | some n, .list items => .ok (.list (takeSigned n items))
  | some n, .tuple items => .ok (.tuple (takeSigned n items))
  | _, _ => .error .wrongType

/-! ## As a list -/

/-- What a value is made of, one after the other: the items of a list, the characters of a text, the
numbers of a byte string, the names of a record, and the named parts of a key source. -/
def elements? : Value → Option (List Value)
  | .list items | .tuple items => some items
  | .text s => some (s.toList.map (fun c => .text c.toString))
  | .buffer _ bytes => some (bytes.map (fun b => .int b.toNat))
  | .record fields => some (fields.map (fun field => .text field.1))
  | .source origin =>
    some [.tuple [.text "location", .text origin.location],
      .tuple [.text "credential", .text origin.credential]]
  | _ => none

/-! ## As a key of a table -/

mutual
/-- Whether a value can be looked up in a table. Lists, records, sources and byte strings that are
open to change cannot, nor can a tuple with one of them in it. A view is taken for one of bytes that
are held for good: the others cannot be looked up either. -/
def isHashable : Value → Bool
  | .list _ | .record _ | .source _ | .buffer .mutable _ => false
  | .tuple items => areHashable items
  | _ => true

/-- Whether all items of a tuple can be looked up. -/
def areHashable : List Value → Bool
  | [] => true
  | item :: rest => isHashable item && areHashable rest
end

/-! ## As an identifier -/

/-- The identifier of a byte string. -/
def digestToKeyId : Value → Except KeyId.Invalid KeyId
  | .buffer _ bytes => KeyId.ofBytes bytes
  | value => .error (.notBytes value.typeName)

/-- The identifier that a value spells: itself, a byte string, or a hexadecimal text. -/
def toKeyId : Value → Except KeyId.Invalid KeyId
  | .keyId id => .ok id
  | .text s => KeyId.ofHex s
  | value => value.digestToKeyId

/-- Whether a value is equal to an identifier. Bytes and texts that spell one are not. -/
def equalsKeyId (value : Value) (id : KeyId) : Bool :=
  match value with
  | .keyId other => other.digest == id.digest
  | _ => false

end Value

end Keyring
