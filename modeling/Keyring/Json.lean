import Keyring.Json.Token

/-!
# JSON

Values of JSON and the reader that puts them together from tokens. Of two members of an object with
one name the later counts.
-/

namespace Keyring

/-- A value of JSON. The members of an object have different names. -/
inductive Json where
  | null
  | bool (b : Bool)
  | number (n : Json.Number)
  | text (s : String)
  | array (items : List Json)
  | object (members : List (String × Json))

namespace Json

/-- An array or an object that is open, with what it holds so far. -/
inductive Frame where
  /-- The items, last item first. -/
  | array (items : List Json)
  /-- The members, and the name of the one that is being read. -/
  | object (members : List (String × Json)) (name : String)

/-- What may come next. -/
inductive Expected where
  | value
  | firstItem
  | firstName
  | name
  | colon
  | separator
  | nothing
  deriving DecidableEq

/-- The reader: the open arrays and objects, innermost first, what may come next, and the value once
it is whole. -/
structure Reader where
  frames : List Frame
  expected : Expected
  result : Json

/-- Puts a member into an object, in place of one of the same name. -/
def putMember (name : String) (value : Json) : List (String × Json) → List (String × Json)
  | [] => [(name, value)]
  | (other, old) :: rest =>
    if other = name then (name, value) :: rest else (other, old) :: putMember name value rest

/-- The reader after a whole value. -/
def Reader.give (frames : List Frame) (value : Json) : Reader :=
  match frames with
  | [] => ⟨[], .nothing, value⟩
  | .array items :: rest => ⟨.array (value :: items) :: rest, .separator, .null⟩
  | .object members name :: rest =>
    ⟨.object (putMember name value members) name :: rest, .separator, .null⟩

/-- The reader after a token that starts a value; `limit` is how many may be open. -/
def Reader.startValue (limit : Nat) (frames : List Frame) : Token → Option Reader
  | .openArray =>
    if frames.length < limit then some ⟨.array [] :: frames, .firstItem, .null⟩ else none
  | .openObject =>
    if frames.length < limit then some ⟨.object [] "" :: frames, .firstName, .null⟩ else none
  | .null => some (.give frames .null)
  | .bool b => some (.give frames (.bool b))
  | .number n => some (.give frames (.number n))
  | .text s => some (.give frames (.text s))
  | _ => none

/-- The reader after a token that closes the innermost array or object. -/
def Reader.close : List Frame → Token → Option Reader
  | .array items :: rest, .closeArray => some (.give rest (.array items.reverse))
  | .object members _ :: rest, .closeObject => some (.give rest (.object members))
  | _, _ => none

/-- The reader after the name of a member. -/
def Reader.takeName : List Frame → Token → Option Reader
  | .object members _ :: rest, .text name => some ⟨.object members name :: rest, .colon, .null⟩
  | _, _ => none

/-- The reader after one more token; none where the token cannot stand there. -/
def Reader.step (limit : Nat) (reader : Reader) (token : Token) : Option Reader :=
  let frames := reader.frames
  match reader.expected with
  | .value => Reader.startValue limit frames token
  | .firstItem =>
    if token = .closeArray then Reader.close frames token
    else Reader.startValue limit frames token
  | .firstName =>
    if token = .closeObject then Reader.close frames token else Reader.takeName frames token
  | .name => Reader.takeName frames token
  | .colon => if token = .colon then some ⟨frames, .value, .null⟩ else none
  | .separator =>
    if token = .comma then
      match frames with
      | .array _ :: _ => some ⟨frames, .value, .null⟩
      | .object .. :: _ => some ⟨frames, .name, .null⟩
      | [] => none
    else Reader.close frames token
  | .nothing => none

/-- The value of a list of tokens, in which no more than `limit` arrays and objects are open at a
time. -/
def ofTokens (limit : Nat) (tokens : List Token) : Option Json :=
  match tokens.foldlM (Reader.step limit) ⟨[], .value, .null⟩ with
  | some ⟨[], .nothing, value⟩ => some value
  | _ => none

end Json

end Keyring
