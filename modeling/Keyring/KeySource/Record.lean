import Keyring.Field

/-!
# Key sources as records

A record with a `location` and, optionally, a `credential` stands for a key source. Other fields are
not looked at.
-/

namespace Keyring.KeySource

/-- A location, which may not be blank. Blanks at its ends are not part of it. -/
def readLocation (value : Value) : Checked { s : String // Text.strip s ≠ "" } :=
  match Field.text value with
  | .error issues => .error issues
  | .ok s => if h : Text.strip s ≠ "" then .ok ⟨s, h⟩ else Field.complain .blankLocation

/-- The source of a location that is not blank. -/
def ofLocation (location : { s : String // Text.strip s ≠ "" }) (credential : String) : KeySource :=
  ⟨Text.strip location.val, credential, Text.strip_strip location.val, location.property⟩

/-- The source of a record's fields. -/
def ofFields (fields : List (String × Value)) : Checked KeySource :=
  match Checked.both (Field.required "location" readLocation fields)
      (Field.optional "credential" Field.text "" fields) with
  | .ok (location, credential) => .ok (ofLocation location credential)
  | .error issues => .error issues

/-- The source that a value stands for. -/
def ofValue : Value → Checked KeySource
  | .source origin => .ok origin
  | .record fields => ofFields fields
  | _ => Field.complain (.notRecord "KeySource")

/-- The source of two texts. -/
def ofTexts (location credential : String) : Checked KeySource :=
  ofFields [("location", .text location), ("credential", .text credential)]

theorem ofTexts_eq (location credential : String) :
    ofTexts location credential =
      match ofStrings? location credential with
      | some source => .ok source
      | none => .error [⟨[.field "location"], .blankLocation⟩] := by
  by_cases h : Text.strip location = "" <;>
    simp [ofTexts, ofFields, ofStrings?, Field.required, Field.optional, readLocation, Field.text,
      Checked.both, Checked.atStep, Field.complain, List.lookup_cons, ofLocation, h]

end Keyring.KeySource
