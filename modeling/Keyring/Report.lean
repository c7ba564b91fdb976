import Keyring.Field

/-!
# Reports

What a reload came to: how many keys were loaded, how many sources were skipped, and a line for each
source that failed.
-/

namespace Keyring

/-- A source that could not be loaded. -/
structure ReportLine where
  location : String
  message : String
  deriving DecidableEq

/-- A report. -/
structure Report where
  loaded : Int := 0
  skipped : Int := 0
  errors : List ReportLine := []
  deriving DecidableEq

namespace ReportLine

/-- The line of a record's fields. -/
def ofFields (fields : List (String × Value)) : Checked ReportLine :=
  match Checked.both (Field.required "location" Field.text fields)
      (Field.required "message" Field.text fields) with
  | .ok (location, message) => .ok ⟨location, message⟩
  | .error issues => .error issues

/-- The line that a value stands for. -/
def ofValue : Value → Checked ReportLine
  | .record fields => ofFields fields
  | _ => Field.complain (.notRecord "ReloadError")

/-- The line as it is written. -/
def text (line : ReportLine) : String := s!"{line.location}: {line.message}"

end ReportLine

namespace Report

/-- The report of a record's fields. -/
def ofFields (fields : List (String × Value)) : Checked Report :=
  match Checked.both
      (Checked.both (Field.optional "loaded" Field.integer 0 fields)
        (Field.optional "skipped" Field.integer 0 fields))
      (Field.optional "errors" (Field.list ReportLine.ofValue) [] fields) with
  | .ok ((loaded, skipped), errors) => .ok ⟨loaded, skipped, errors⟩
  | .error issues => .error issues

/-- Whether a source failed. -/
def failed (report : Report) : Bool := !report.errors.isEmpty

/-- The report with one more line. -/
def addError (report : Report) (location message : String) : Report :=
  { report with errors := report.errors ++ [⟨location, message⟩] }

/-- The report with one more line, from values that have to be texts. -/
def addChecked (report : Report) (location message : Value) : Checked Report :=
  match ReportLine.ofFields [("location", location), ("message", message)] with
  | .ok line => .ok (report.addError line.location line.message)
  | .error issues => .error issues

/-- What stands above the lines. -/
def header : String := "Error processing private keys:"

/-- The report as it is written. -/
def format (report : Report) : String :=
  String.intercalate "\n" (header :: report.errors.map ReportLine.text)

end Report

end Keyring
