import Keyring.KeyHandle
import Keyring.Log
import Keyring.Report
import Keyring.Settings

/-!
# Batches

Every source of a list is imported on its own. A source that is no valid record, refers to a token
or has no usable key file costs a line in the report at most, and the sources after it are still
imported. Of two sources with the same key the later one counts.
-/

namespace Keyring

/-- What a source comes to on its own. -/
inductive SourceOutcome where
  | invalid (location : String) (issues : List Issue)
  | token (source : KeySource)
  | refused (source : KeySource) (fault : KeyFile.Fault)
  | loaded (source : KeySource) (id : KeyId) (key : Rsa.PrivateKey)

namespace SourceOutcome

/-- What stands for a location that is not there. -/
def missingLocation : String := "<missing location>"

/-- What a record that is no valid source has for its location; any other value stands for itself. -/
def locationValue : Value → Value
  | .record fields => (fields.lookup "location").getD .null
  | value => value

/-- The location of a record that is no valid source, as far as there is one: a value that counts as
not given has none. -/
def locationText (raw : Value) : Except ValueFault String :=
  let location := locationValue raw
  let text := if location.isGiven then location.toText else .ok ""
  text.map (fun text => if Text.strip text = "" then missingLocation else Text.strip text)

/-- What a valid source comes to. A location or a limit with which no file can be opened or read at
all is no outcome. -/
def ofSource (reader : KeyReader) (files : FileSystem) (settings : Settings) (source : KeySource) :
    Except ValueFault SourceOutcome :=
  if source.isToken settings.tokenMark then .ok (.token source)
  else
    match KeyFile.load reader files source.location source.credential settings.limit with
    | .ok (id, key) => .ok (.loaded source id key)
    | .error (.refused fault) => .ok (.refused source fault)
    | .error (.unusable fault) => .error fault

/-- What a value comes to where a source is expected. -/
def ofValue (reader : KeyReader) (files : FileSystem) (settings : Settings) (raw : Value) :
    Except ValueFault SourceOutcome :=
  match KeySource.ofValue raw with
  | .error issues => (locationText raw).map (.invalid · issues)
  | .ok source => ofSource reader files settings source

end SourceOutcome

/-- A batch under way: the pool with the handles that it made, the handle of each key, the report
and the log. -/
structure Batch where
  pool : KeyPool
  keys : KeyId.Table Nat := []
  report : Report := {}
  log : List LogEntry := []

namespace Batch

/-- What is said of a source that is no valid record. -/
def invalidMessage (issues : List Issue) : String := s!"Invalid key source: {Issue.summary issues}"

/-- What is said of a token reference. -/
def tokenMessage : String := "PKCS #11 token keys are not supported"

/-- The batch with a new handle for a key. A handle that it already has for the same key is
released. -/
def addKey (batch : Batch) (source : KeySource) (id : KeyId) (key : Rsa.PrivateKey) : Batch :=
  let pool := batch.pool.add id key
  match batch.keys.find? id with
  | none =>
    { batch with
      pool := pool
      keys := batch.keys.insert id batch.pool.next
      log := batch.log ++ [.keyAdded id] }
  | some previous =>
    { batch with
      pool := pool.release previous
      keys := batch.keys.insert id batch.pool.next
      log := batch.log ++ [.keyLoadedAgain id source.location, .keyAdded id] }

/-- The batch after one more outcome. -/
def add (settings : Settings) (batch : Batch) : SourceOutcome → Batch
  | .invalid location issues =>
    { batch with report := batch.report.addError location (invalidMessage issues) }
  | .token source =>
    let report := { batch.report with skipped := batch.report.skipped + 1 }
    { batch with
      report :=
        if settings.reportTokens then report.addError source.location tokenMessage else report
      log := batch.log ++ [.tokenSkipped source.location] }
  | .refused source fault =>
    { batch with
      report := batch.report.addError source.location fault.message
      log := batch.log ++ [.sourceFailed source.location fault] }
  | .loaded source id key => batch.addKey source id key

/-- The batch after a list of sources, up to the first one with no outcome. -/
def addAll (reader : KeyReader) (files : FileSystem) (settings : Settings) (batch : Batch) :
    List Value → Batch × Option ValueFault
  | [] => (batch, none)
  | raw :: rest =>
    match SourceOutcome.ofValue reader files settings raw with
    | .error fault => (batch, some fault)
    | .ok outcome => addAll reader files settings (batch.add settings outcome) rest

/-- The batch at its end, when the loaded keys are counted. -/
def finish (batch : Batch) : Batch :=
  { batch with report := { batch.report with loaded := batch.keys.length } }

/-- The batch of a list of sources, with the fault that ended it early, if one did. -/
def ofSources (reader : KeyReader) (files : FileSystem) (settings : Settings) (pool : KeyPool)
    (sources : List Value) : Batch × Option ValueFault :=
  match addAll reader files settings { pool := pool } sources with
  | (batch, some fault) => (batch, some fault)
  | (batch, none) => (batch.finish, none)

end Batch

end Keyring
