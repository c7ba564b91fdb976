import Keyring.KeyFile
import Keyring.KeySource.Record

/-!
# Settings

What a key store is configured with.
-/

namespace Keyring

/-- The settings of a key store: where its keys come from, the mark of token references, the largest
key file, and whether token references are reported as failures. -/
structure Settings where
  keySources : List KeySource := []
  tokenMark : String := KeySource.tokenMark
  maxFileSize : Nat := KeyFile.defaultLimit
  reportTokens : Bool := false
  tokenMark_ne_empty : tokenMark ≠ "" := by decide
  maxFileSize_pos : 0 < maxFileSize := by decide

namespace Settings

/-- The settings of a store that is given none. -/
def standard : Settings := {}

/-- The settings of a record's fields. -/
def ofFields (fields : List (String × Value)) : Checked Settings :=
  let sources := Field.optional "key_sources" (Field.list KeySource.ofValue) [] fields
  let mark :=
    Field.optional "token_prefix" Field.nonemptyText ⟨KeySource.tokenMark, by decide⟩ fields
  let size :=
    Field.optional "max_key_file_size" Field.positive ⟨KeyFile.defaultLimit, by decide⟩ fields
  let reportTokens := Field.optional "report_unsupported_tokens" Field.truth false fields
  match Checked.both (Checked.both (Checked.both sources mark) size) reportTokens with
  | .ok (((keySources, mark), size), reportTokens) =>
    .ok ⟨keySources, mark.val, size.val, reportTokens, mark.property, size.property⟩
  | .error issues => .error issues

/-- The limit on key files as a value. -/
def limit (settings : Settings) : Value := .int settings.maxFileSize

end Settings

end Keyring
