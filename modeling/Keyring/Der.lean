import Keyring.Bytes

/-!
# DER

Tagged items with their length in front, as the distinguished rules write them: definite lengths
and numbers in their shortest form, tags of one byte.
-/

namespace Keyring

/-- One item: its tag byte and its contents. -/
structure Der where
  tag : UInt8
  content : Bytes
  deriving DecidableEq

namespace Der

def integerTag : UInt8 := 0x02
def bitStringTag : UInt8 := 0x03
def octetStringTag : UInt8 := 0x04
def nullTag : UInt8 := 0x05
def objectIdTag : UInt8 := 0x06
def sequenceTag : UInt8 := 0x30

/-- The constructed tag with a number of its context. -/
def contextTag (number : UInt8) : UInt8 := 0xa0 + number

/-! ## Writing -/

/-- A length: one byte below 128, else the count of its bytes and the bytes. -/
def encodeLength (length : Nat) : Bytes :=
  if length < 128 then [UInt8.ofNat length]
  else UInt8.ofNat (128 + Bytes.widthOf length) :: Bytes.ofNatMinimal length

/-- The written form of an item. -/
def encode (item : Der) : Bytes :=
  item.tag :: (encodeLength item.content.length ++ item.content)

/-- A natural number: its shortest big-endian form, with a zero byte in front where the first bit
would be taken for a sign. -/
def ofNat (n : Nat) : Der := ⟨integerTag, Bytes.ofNat (if n = 0 then 1 else Nat.log2 n / 8 + 1 +
  (if Nat.log2 n % 8 = 7 then 1 else 0)) n⟩

/-- A sequence of items. -/
def ofList (items : List Der) : Der := ⟨sequenceTag, items.flatMap encode⟩

/-! ## Reading -/

/-- Reads a length in its shortest form. -/
def readLength : Bytes → Option (Nat × Bytes)
  | [] => none
  | first :: rest =>
    if first < 0x80 then some (first.toNat, rest)
    else
      let width := first.toNat - 128
      let length := Bytes.toNat (rest.take width)
      if width = 0 ∨ width > 4 ∨ rest.length < width then none
      else if length < 128 ∨ Bytes.widthOf length ≠ width then none
      else some (length, rest.drop width)

/-- Reads one item and gives back what follows it. The tag zero, and tags of more than one byte,
start no item. -/
def read (bytes : Bytes) : Option (Der × Bytes) :=
  match bytes with
  | [] => none
  | tag :: rest =>
    if tag = 0 ∨ tag &&& 0x1f = 0x1f then none
    else
      match readLength rest with
      | none => none
      | some (length, body) =>
        if body.length < length then none
        else some (⟨tag, body.take length⟩, body.drop length)

/-- Reads at most `count` items until nothing is left. -/
def readUpTo : Nat → Bytes → Option (List Der)
  | _, [] => some []
  | 0, _ => none
  | count + 1, bytes =>
    match read bytes with
    | none => none
    | some (item, rest) => (readUpTo count rest).map (item :: ·)

/-- Reads items until nothing is left; each takes two bytes or more. -/
def readAll (bytes : Bytes) : Option (List Der) := readUpTo bytes.length bytes

/-- Reads one item with nothing after it. -/
def readWhole (bytes : Bytes) : Option Der :=
  match read bytes with
  | some (item, []) => some item
  | _ => none

/-- The items of a sequence. -/
def sequence? (item : Der) : Option (List Der) :=
  if item.tag = sequenceTag then readAll item.content else none

/-- The items of a sequence, whatever follows it. -/
def leadingSequence (bytes : Bytes) : Option (List Der) := (read bytes).bind (·.1.sequence?)

/-- The items of a sequence with nothing after it. -/
def readSequence (bytes : Bytes) : Option (List Der) :=
  match readWhole bytes with
  | some item => item.sequence?
  | none => none

/-- The only item of a constructed tag of the context. -/
def context? (number : UInt8) (item : Der) : Option Der :=
  if item.tag = contextTag number then readWhole item.content else none

/-- The value of an integer that is not negative and has no byte too many. -/
def natural? (item : Der) : Option Nat :=
  if item.tag ≠ integerTag then none
  else
    match item.content with
    | [] => none
    | [b] => if b < 0x80 then some b.toNat else none
    | a :: b :: rest =>
      if a ≥ 0x80 ∨ (a = 0 ∧ b < 0x80) then none else some (Bytes.toNat (a :: b :: rest))

/-- The bytes of an octet string. -/
def octets? (item : Der) : Option Bytes :=
  if item.tag = octetStringTag then some item.content else none

/-- The encoded arcs of an object identifier. -/
def objectId? (item : Der) : Option Bytes :=
  if item.tag = objectIdTag then some item.content else none

end Der

end Keyring
