import Keyring.KeySource.File
import Keyring.Settings

/-!
# Settings from the environment

Sources may be listed in a variable or in a file that a variable names; those of the first come
first. A variable that is empty counts as not set, except for the limit on the size of key files.
-/

namespace Keyring

/-- The variables of an environment, with their values. -/
abbrev Environment := List (String × String)

namespace Environment

/-- The variable that lists sources. -/
def sourcesName : String := "SECRETS_KEY_SOURCES"

/-- The variable that names a file of sources. -/
def sourcesFileName : String := "SECRETS_KEY_SOURCES_FILE"

/-- The variable that limits the size of key files. -/
def limitName : String := "SECRETS_MAX_KEY_FILE_SIZE"

/-- The variable that says whether token references are reported. -/
def reportTokensName : String := "SECRETS_REPORT_UNSUPPORTED_TOKENS"

/-- The value of a variable that is set and not empty. -/
def nonempty? (environment : Environment) (name : String) : Option String :=
  match environment.lookup name with
  | some "" => none
  | value => value

/-- The sources that are listed in the environment itself. -/
def inlineSources (environment : Environment) : Except Failure (List KeySource) :=
  match environment.nonempty? sourcesName with
  | none => .ok []
  | some text => (KeySource.readArray text.toList).mapError .invalidList

/-- The sources in the file that the environment names. -/
def fileSources (environment : Environment) (files : FileSystem) :
    Except Failure (List KeySource) :=
  match environment.nonempty? sourcesFileName with
  | none => .ok []
  | some path => KeySource.load files path

/-- The limit on the size of key files, before it is checked. -/
def limit (environment : Environment) : Except Failure Int :=
  match environment.lookup limitName with
  | none => .ok KeyFile.defaultLimit
  | some text => (Value.text text).toInteger.mapError .unusable

/-- The words for true. -/
def trueWords : List String := ["1", "true", "yes", "on"]

/-- Whether token references are reported: if the variable holds a word for true, in letters of
either case and with blanks around it. -/
def reportTokens (environment : Environment) : Bool :=
  match environment.lookup reportTokensName with
  | none => false
  | some text => trueWords.any (fun word => word.toList = Field.lowerCase (Text.strip text))

end Environment

namespace Settings

/-- The settings with these sources, limit and choice about token references. -/
def ofParts (sources : List KeySource) (limit : Int) (reportTokens : Bool) : Checked Settings :=
  ofFields [("key_sources", .list (sources.map .source)), ("max_key_file_size", .int limit),
    ("report_unsupported_tokens", .bool reportTokens)]

/-- The settings that an environment stands for, with what is logged on the way. The first of its
parts that is wrong is what it fails with; the limit's range is looked at last. -/
def ofEnvironment (environment : Environment) (files : FileSystem) :
    Except Failure Settings × List LogEntry :=
  match environment.inlineSources with
  | .error failure => (.error failure, [])
  | .ok inline =>
    match environment.fileSources files with
    | .error failure => (.error failure, [])
    | .ok found =>
      let loaded :=
        match environment.nonempty? Environment.sourcesFileName with
        | none => []
        | some path => [KeySource.loadedEntry path found]
      match environment.limit with
      | .error failure => (.error failure, loaded)
      | .ok limit =>
        let sources := inline ++ found
        ((ofParts sources limit environment.reportTokens).mapError .invalidFields,
          loaded ++ [.sourcesConfigured sources.length])

end Settings

end Keyring
