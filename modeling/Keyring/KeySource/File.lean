import Keyring.Failure
import Keyring.Log

/-!
# Files of key sources

A file of key sources is a JSON array if its name ends in `.json`, in letters of either case, and a
table otherwise.
-/

namespace Keyring.KeySource

/-- A path in its shortest spelling: without names that are one dot, without superfluous slashes,
and with one dot for the working directory. Two slashes in front, and no more, are kept. -/
def tidyPath (path : String) : String :=
  let text := path.toList
  let names := (FileSystem.splitSlashes text).filter (fun name => name ≠ [] ∧ name ≠ ['.'])
  let root : List Char :=
    match text with
    | '/' :: '/' :: '/' :: _ => ['/']
    | '/' :: '/' :: _ => ['/', '/']
    | '/' :: _ => ['/']
    | _ => []
  match root ++ List.intercalate ['/'] names with
  | [] => "."
  | tidy => String.ofList tidy

/-- The end of a name from its last dot on, unless the dot is at its start or its end. -/
def extension (name : List Char) : List Char :=
  let tail := (name.reverse.takeWhile (· ≠ '.')).reverse
  if tail.isEmpty ∨ tail.length + 1 ≥ name.length then [] else '.' :: tail

/-- The last name of a path. -/
def lastName (path : String) : List Char :=
  ((FileSystem.splitSlashes path.toList).getLast?).getD []

/-- Whether the file at a path holds a JSON array. -/
def isArrayFile (path : String) : Bool :=
  (extension (lastName path)).map Char.toLower = ['.', 'j', 's', 'o', 'n']

/-- The sources in the content of the file at a path. -/
def readContent (path : String) (content : Bytes) : Except Failure (List KeySource) :=
  if isArrayFile path then (readArrayBytes content).mapError .invalidList
  else
    match Bytes.toText? content with
    | none => .error .notUnicode
    | some text => (Table.read (Text.unifyNewlines text.toList)).mapError .invalidList

/-- The sources in the file at a path. -/
def load (files : FileSystem) (path : String) : Except Failure (List KeySource) :=
  let path := tidyPath path
  match files.read path with
  | .error fault => .error (.unreadableList path fault)
  | .ok content => readContent path content

/-- What is logged when the sources of a file are read. -/
def loadedEntry (path : String) (sources : List KeySource) : LogEntry :=
  .sourcesLoaded sources.length (tidyPath path)

end Keyring.KeySource
