import Keyring.KeyFile

/-!
# The log

What is worth a line in the log. Lines name key identifiers, locations and counts, never credentials
or key material.
-/

namespace Keyring

/-- How much a line matters. -/
inductive LogLevel where
  | debug
  | info
  | warning
  | error
  deriving DecidableEq

/-- The part of the library that a line comes from. -/
inductive LogChannel where
  | context
  | registry
  | keyStore
  deriving DecidableEq

/-- An entry of the log. -/
inductive LogEntry where
  | sourcesLoaded (count : Nat) (path : String)
  | sourcesConfigured (count : Nat)
  | tokenSkipped (location : String)
  | sourceFailed (location : String) (fault : KeyFile.Fault)
  | keyLoadedAgain (id : KeyId) (location : String)
  | keyAdded (id : KeyId)
  | reloaded (loaded skipped failed : Nat)
  | failuresReported (text : String)
  | storeTornDown (released : Nat)
  | handlerReplaced (type : Int)
  | noHandler (type : Int)
  | contextInitialized
  | contextCleanedUp
  deriving DecidableEq

namespace LogLevel

/-- The level as it is written. -/
def text : LogLevel → String
  | .debug => "DEBUG"
  | .info => "INFO"
  | .warning => "WARNING"
  | .error => "ERROR"

end LogLevel

namespace LogChannel

/-- The channel as it is written. -/
def text : LogChannel → String
  | .context => "capture_secrets"
  | .registry => "capture_secrets.registry"
  | .keyStore => "capture_secrets.keystore"

end LogChannel

namespace LogEntry

/-- A block type in hexadecimal digits, filled up with zeros to eight characters, of which the sign
of a negative number is one. -/
def typeText (type : Int) : String :=
  let digits := Nat.toDigits 16 type.natAbs
  let fill (width : Nat) : List Char := List.replicate (width - digits.length) '0' ++ digits
  String.ofList ('0' :: 'x' :: (if type < 0 then '-' :: fill 7 else fill 8))

/-- The level of an entry. -/
def level : LogEntry → LogLevel
  | .tokenSkipped _ => .warning
  | .reloaded .. => .info
  | .failuresReported _ => .error
  | _ => .debug

/-- The channel of an entry. -/
def channel : LogEntry → LogChannel
  | .handlerReplaced _ | .noHandler _ => .registry
  | .contextInitialized | .contextCleanedUp => .context
  | _ => .keyStore

/-- The text of an entry. -/
def text : LogEntry → String
  | .sourcesLoaded count path => s!"Loaded {count} key source(s) from {path}"
  | .sourcesConfigured count => s!"Configured {count} key source(s) from environment"
  | .tokenSkipped location => s!"Skipping token key source {location}: token keys are not supported"
  | .sourceFailed location fault => s!"Failed to load key source {location}: {fault.message}"
  | .keyLoadedAgain id location => s!"Key {id.hex} loaded again from {location}"
  | .keyAdded id => s!"Adding key {id.hex}"
  | .reloaded loaded skipped failed =>
    s!"Private keys reloaded: {loaded} loaded, {skipped} skipped, {failed} failed"
  | .failuresReported text => text
  | .storeTornDown released => s!"Private key store torn down ({released} key(s) released)"
  | .handlerReplaced type => s!"Replacing handler for secrets type {typeText type}"
  | .noHandler type => s!"No handler for secrets type {typeText type}, ignoring"
  | .contextInitialized => "Secrets context initialized"
  | .contextCleanedUp => "Secrets context cleaned up"

/-- The line of an entry: level, channel and text. -/
def line (entry : LogEntry) : String :=
  entry.level.text ++ " " ++ entry.channel.text ++ " " ++ entry.text

end LogEntry

/-- What an operation does to the outside: it writes to the log, hands a report to the one who asked
for reports, who may reject it, or calls a handler with a block. -/
inductive Effect where
  | log (entry : LogEntry)
  | report (text : String) (rejection : Option String)
  | call (handler : String) (type : Int) (data : Bytes)
  deriving DecidableEq

end Keyring
