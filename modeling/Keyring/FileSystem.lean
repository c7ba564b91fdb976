import Keyring.Bytes

/-!
# File systems

Directories and files by their absolute paths, and what a path given as a text leads to. Names are
looked up one after the other from the working directory or from the root, so that a path through
something that is no directory leads nowhere even if it turns back later.
-/

namespace Keyring

/-- What is found at a path. -/
inductive Node where
  | directory
  | file (content : Bytes)

/-- A file system: what is at each path, and the working directory. A path is a list of names from
the root, which is always a directory. -/
structure FileSystem where
  nodes : List (List String × Node)
  workingDirectory : List String

namespace FileSystem

/-- Why a path leads to no file. -/
inductive Fault where
  | nulCharacter
  | nameTooLong
  | missing
  | notDirectory
  | isDirectory
  deriving DecidableEq

/-- What the system says about it. -/
def Fault.reason : Fault → String
  | .nulCharacter => "embedded null byte"
  | .nameTooLong => "File name too long"
  | .missing => "No such file or directory"
  | .notDirectory => "Not a directory"
  | .isDirectory => "Is a directory"

/-- The system's number for it. -/
def Fault.code : Fault → Nat
  | .nulCharacter => 22
  | .nameTooLong => 36
  | .missing => 2
  | .notDirectory => 20
  | .isDirectory => 21

/-- The size in bytes from which on a path is too long. -/
def pathLimit : Nat := 4096

/-- The size in bytes that a name may have. -/
def nameLimit : Nat := 255

/-- An empty working directory, and the empty file that is everywhere. -/
def initial : FileSystem where
  nodes := [(["dev"], .directory), (["dev", "null"], .file []), (["tmp"], .directory),
    (["tmp", "work"], .directory)]
  workingDirectory := ["tmp", "work"]

/-- What is at a path. -/
def node? (files : FileSystem) (path : List String) : Option Node :=
  if path = [] then some .directory else files.nodes.lookup path

/-- The path that names lead to from a path. One dot stays where it is and two dots lead to the
directory above. -/
def walk (files : FileSystem) (path : List String) : List String → Except Fault (List String)
  | [] => .ok path
  | name :: rest =>
    match files.node? path with
    | some .directory =>
      if name = "." then walk files path rest
      else if name = ".." then walk files path.dropLast rest
      else if name.utf8ByteSize > nameLimit then .error .nameTooLong
      else if (files.node? (path ++ [name])).isNone then .error .missing
      else walk files (path ++ [name]) rest
    | _ => .error .notDirectory

/-- The parts of a text between slashes. -/
def splitSlashes (text : List Char) : List (List Char) :=
  text.foldr (fun c parts =>
    match parts with
    | [] => []
    | part :: rest => if c = '/' then [] :: part :: rest else (c :: part) :: rest) [[]]

/-- The names of a path given as a text. What ends in a slash has to be a directory, as if a dot
followed. -/
def names (text : List Char) : List String :=
  let parts := (splitSlashes text).filter (· ≠ [])
  let parts := if text.getLast? = some '/' then parts ++ [['.']] else parts
  parts.map String.ofList

/-- Where the names of a path are looked up first: the root or the working directory. -/
def start (files : FileSystem) (text : List Char) : List String :=
  if text.head? = some '/' then [] else files.workingDirectory

/-- The content of the file that a path leads to. -/
def read (files : FileSystem) (path : String) : Except Fault Bytes :=
  let text := path.toList
  if text.contains '\x00' then .error .nulCharacter
  else if path = "" then .error .missing
  else if path.utf8ByteSize ≥ pathLimit then .error .nameTooLong
  else
    match files.walk (files.start text) (names text) with
    | .error fault => .error fault
    | .ok found =>
      match files.node? found with
      | some (.file content) => .ok content
      | _ => .error .isDirectory

/-! ## Changes -/

/-- The path of a text, whether or not something is there. -/
def resolve (files : FileSystem) (path : String) : List String :=
  (names path.toList).foldl (fun path name =>
    if name = "." then path else if name = ".." then path.dropLast else path ++ [name])
    (files.start path.toList)

/-- Without what is at a path and below it. -/
def remove (files : FileSystem) (path : List String) : FileSystem :=
  { files with nodes := files.nodes.filter (fun entry => !path.isPrefixOf entry.1) }

/-- With a directory at each start of a path, unless something is there. -/
def makeParents (files : FileSystem) (path : List String) : FileSystem :=
  (List.range path.length).foldl (fun files size =>
    match files.node? (path.take size) with
    | some _ => files
    | none => { files with nodes := (path.take size, .directory) :: files.nodes }) files

/-- With a node at a path, in place of a file or nothing. -/
def put (files : FileSystem) (path : List String) (node : Node) : FileSystem :=
  let files := files.makeParents path
  { files with nodes := (path, node) :: files.nodes.filter (·.1 ≠ path) }

end FileSystem

end Keyring
