import Keyring.Text.Blank
import Keyring.Text.Quoted

/-!
# Key sources

Where a private key is configured to come from: the path of a key file, or a reference to a key on a
token, with the credential that opens it.
-/

namespace Keyring

/-- A key source. Its location has no blanks at its ends and is not empty. -/
structure KeySource where
  location : String
  credential : String
  strip_location : Text.strip location = location
  location_ne_empty : location ≠ ""
  deriving DecidableEq

namespace KeySource

/-- The source of a location and a credential; none where the location is blank. -/
def ofStrings? (location credential : String) : Option KeySource :=
  if h : Text.strip location ≠ "" then
    some ⟨Text.strip location, credential, Text.strip_strip location, h⟩
  else none

/-- What a reference to a token starts with, unless it is configured otherwise. -/
def tokenMark : String := "pkcs11:"

/-- Whether the location starts with the mark of token references. -/
def isToken (source : KeySource) (mark : String) : Bool :=
  mark.toList.isPrefixOf source.location.toList

/-- The location as it is shown; the credential is never shown. -/
def shownLocation (source : KeySource) : String := "location=" ++ Text.quote source.location

/-- A source as it is shown where its kind matters. -/
def quoted (source : KeySource) : String := "KeySource(" ++ source.shownLocation ++ ")"

end KeySource

end Keyring
