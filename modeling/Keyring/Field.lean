import Keyring.Value

/-!
# Fields of records

How the fields of a record are read: which values pass for a text, an integer, a truth value or a
list, and what is said of the others. All fields that fail are listed, in the order of the record's
definition.
-/

namespace Keyring

/-- What is wrong with a value. -/
inductive Complaint where
  | missing
  | notText
  | notUnicode
  | emptyText
  | blankLocation
  | notRecord (kind : String)
  | notInteger
  | notIntegerText
  | longIntegerText
  | fractional
  | notFinite
  | belowOne
  | notTruthValue
  | notTruthText
  | notList
  deriving DecidableEq

namespace Complaint

/-- The name of the complaint. -/
def tag : Complaint → String
  | .missing => "missing"
  | .notText => "string_type"
  | .notUnicode => "string_unicode"
  | .emptyText => "string_too_short"
  | .blankLocation => "value_error"
  | .notRecord _ => "model_type"
  | .notInteger => "int_type"
  | .notIntegerText => "int_parsing"
  | .longIntegerText => "int_parsing_size"
  | .fractional => "int_from_float"
  | .notFinite => "finite_number"
  | .belowOne => "greater_than_equal"
  | .notTruthValue => "bool_type"
  | .notTruthText => "bool_parsing"
  | .notList => "list_type"

/-- The complaint in words. -/
def message : Complaint → String
  | .missing => "Field required"
  | .notText => "Input should be a valid string"
  | .notUnicode => "Input should be a valid string, unable to parse raw data as a unicode string"
  | .emptyText => "String should have at least 1 character"
  | .blankLocation => "Value error, Key source location cannot be empty"
  | .notRecord kind => s!"Input should be a valid dictionary or instance of {kind}"
  | .notInteger => "Input should be a valid integer"
  | .notIntegerText => "Input should be a valid integer, unable to parse string as an integer"
  | .longIntegerText => "Unable to parse input string as an integer, exceeded maximum size"
  | .fractional => "Input should be a valid integer, got a number with a fractional part"
  | .notFinite => "Input should be a finite number"
  | .belowOne => "Input should be greater than or equal to 1"
  | .notTruthValue => "Input should be a valid boolean"
  | .notTruthText => "Input should be a valid boolean, unable to interpret input"
  | .notList => "Input should be a valid list"

end Complaint

/-- A step from a record to a part of it. -/
inductive PathStep where
  | field (name : String)
  | item (index : Nat)
  deriving DecidableEq

/-- A complaint about a part of a record. -/
structure Issue where
  path : List PathStep
  complaint : Complaint
  deriving DecidableEq

/-- The issues in words. -/
def Issue.summary (issues : List Issue) : String :=
  String.intercalate "; " (issues.map (fun issue => issue.complaint.message))

/-- A reading that lists what is wrong. -/
abbrev Checked (α : Type) := Except (List Issue) α

namespace Checked

/-- Both readings; what is wrong with either is listed. -/
def both {α β : Type} : Checked α → Checked β → Checked (α × β)
  | .ok a, .ok b => .ok (a, b)
  | .ok _, .error issues => .error issues
  | .error issues, .ok _ => .error issues
  | .error issues, .error more => .error (issues ++ more)

/-- The reading of a part that is one step away. -/
def atStep {α : Type} (step : PathStep) : Checked α → Checked α
  | .ok a => .ok a
  | .error issues => .error (issues.map (fun issue => ⟨step :: issue.path, issue.complaint⟩))

/-- The readings of the items of a list from a position on. -/
def itemsFrom {α : Type} (read : Value → Checked α) (index : Nat) : List Value → Checked (List α)
  | [] => .ok []
  | item :: rest =>
    match both (atStep (.item index) (read item)) (itemsFrom read (index + 1) rest) with
    | .ok (a, more) => .ok (a :: more)
    | .error issues => .error issues

end Checked

namespace Field

/-- A reading that fails with one complaint. -/
def complain {α : Type} (complaint : Complaint) : Checked α := .error [⟨[], complaint⟩]

/-- The reading of a field that has to be there. -/
def required {α : Type} (name : String) (read : Value → Checked α)
    (fields : List (String × Value)) : Checked α :=
  Checked.atStep (.field name)
    (match fields.lookup name with
     | none => complain .missing
     | some value => read value)

/-- The reading of a field that has a default. -/
def optional {α : Type} (name : String) (read : Value → Checked α) (default : α)
    (fields : List (String × Value)) : Checked α :=
  match fields.lookup name with
  | none => .ok default
  | some value => Checked.atStep (.field name) (read value)

/-- A text, or the text of bytes in UTF-8. -/
def text : Value → Checked String
  | .text s => .ok s
  | .buffer .view _ => complain .notText
  | .buffer _ bytes =>
    match Bytes.toText? bytes with
    | some s => .ok s
    | none => complain .notUnicode
  | _ => complain .notText

/-- A text with at least one character. -/
def nonemptyText (value : Value) : Checked { s : String // s ≠ "" } :=
  match text value with
  | .error issues => .error issues
  | .ok s => if h : s ≠ "" then .ok ⟨s, h⟩ else complain .emptyText

/-- A list of what `read` reads. -/
def list {α : Type} (read : Value → Checked α) : Value → Checked (List α)
  | .list items => Checked.itemsFrom read 0 items
  | _ => complain .notList

/-! ## Integers -/

/-- Whether what follows the digits is nothing, or a point and one or more zeros. -/
def isZeroFraction : List Char → Bool
  | [] => true
  | '.' :: zeros => !zeros.isEmpty && zeros.all (· = '0')
  | _ => false

/-- The digits of an integer and their count: ASCII digits with single underscores between them,
then nothing, or a point and zeros. -/
def magnitude (chars : List Char) : Option (Nat × Nat) :=
  let isMark := fun c => c = '_' || (Decimal.asciiDigit? c).isSome
  let marks := (chars.takeWhile isMark).map Decimal.Mark.ofChar
  let rest := chars.dropWhile isMark
  match Decimal.readDigits false 0 0 marks with
  | some (count, value, []) => if isZeroFraction rest then some (count, value) else none
  | _ => none

/-- The integer that a text stands for: white space around it, a sign, digits. -/
def integerOfText (s : String) : Checked Int :=
  let signed (sign : Int) (chars : List Char) : Checked Int :=
    match magnitude chars with
    | none => complain .notIntegerText
    | some (count, value) =>
      if count > Decimal.literalLimit then complain .longIntegerText else .ok (sign * value)
  match Text.trim Text.isWhiteSpace s.toList with
  | '-' :: rest => signed (-1) rest
  | '+' :: rest => signed 1 rest
  | rest => signed 1 rest

/-- An integer: a whole number, a truth value, or a text or a fixed byte string that stands for an
integer. A whole number with a point has to fit 64 bits. -/
def integer : Value → Checked Int
  | .float x =>
    match x with
    | .finite .. =>
      match x.toInt? with
      | none => complain .fractional
      | some n =>
        if -(Bytes.wordBound : Int) < n ∧ n < Bytes.wordBound then .ok n
        else complain .longIntegerText
    | _ => complain .notFinite
  | .text s => integerOfText s
  | .buffer .fixed bytes =>
    match Bytes.toText? bytes with
    | some s => integerOfText s
    | none => complain .notIntegerText
  | value =>
    match value.integer? with
    | some n => .ok n
    | none => complain .notInteger

/-- A natural number other than zero. -/
def positive (value : Value) : Checked { n : Nat // 0 < n } :=
  match integer value with
  | .error issues => .error issues
  | .ok n => if h : 0 < n.toNat then .ok ⟨n.toNat, h⟩ else complain .belowOne

/-! ## Truth values -/

/-- The text with the letters of ASCII in lower case. No other character has a letter of ASCII other
than `k` or `i` for its lower case, and the words below hold neither. -/
def lowerCase (s : String) : List Char := s.toList.map Char.toLower

/-- The words for true and for false. -/
def truthWords : List (String × Bool) :=
  [("1", true), ("true", true), ("t", true), ("yes", true), ("y", true), ("on", true),
   ("0", false), ("false", false), ("f", false), ("no", false), ("n", false), ("off", false)]

/-- The truth value that a text stands for, in letters of either case. -/
def truthOfText (s : String) : Checked Bool :=
  match truthWords.find? (fun word => word.1.toList = lowerCase s) with
  | some word => .ok word.2
  | none => complain .notTruthText

/-- The truth value of one or zero; integers beyond 64 bits are not looked at. -/
def truthOfInteger (n : Int) : Checked Bool :=
  if n = 1 then .ok true
  else if n = 0 then .ok false
  else if -(Bytes.wordBound : Int) ≤ n ∧ n < Bytes.wordBound then complain .notTruthText
  else complain .notTruthValue

/-- A truth value, one or zero, or a text or a fixed byte string that stands for a truth value. -/
def truth : Value → Checked Bool
  | .bool b => .ok b
  | .text s => truthOfText s
  | .buffer .fixed bytes =>
    match Bytes.toText? bytes with
    | some s => truthOfText s
    | none => complain .notTruthText
  | value =>
    match value.equalInteger? with
    | some n => truthOfInteger n
    | none => complain .notTruthValue

end Field

end Keyring
