import Keyring.Failure

/-!
# Kinds of failures

The failures that callers tell apart by kind. Each kind but the first is a special case of another
one, and two of them also count as failures of a more general sort: a look-up that found nothing,
and a value that is wrong.
-/

namespace Keyring

/-- A kind of failure. -/
inductive FailureKind where
  | secrets
  | context
  | keyImport
  | keyInput
  | keyParsing
  | fingerprint
  | keyNotFound
  | decryption
  | storeClosed
  | invalidKeyId
  deriving DecidableEq

namespace FailureKind

/-- All kinds. -/
def all : List FailureKind :=
  [.secrets, .context, .keyImport, .keyInput, .keyParsing, .fingerprint, .keyNotFound, .decryption,
    .storeClosed, .invalidKeyId]

/-- The kind that a kind is a special case of. -/
def parent? : FailureKind → Option FailureKind
  | .secrets => none
  | .keyInput | .keyParsing | .fingerprint => some .keyImport
  | _ => some .secrets

/-- Whether a kind is another one or, in one step or two, a special case of it. -/
def isA (kind other : FailureKind) : Bool :=
  kind = other || kind.parent? = some other || kind.parent?.bind parent? = some other

/-- Whether the kind is a look-up that found nothing. -/
def isLookup (kind : FailureKind) : Bool := kind = .keyNotFound

/-- Whether the kind is a wrong value. -/
def isWrongValue (kind : FailureKind) : Bool := kind = .invalidKeyId

/-- What a failure of a kind says when it is made from values. A failed import has a location and a
text, a key that was not found has its identifier, and the other kinds have what they are given. -/
def describe (kind : FailureKind) (values : List Value) : Except ValueFault String :=
  if kind.isA .keyImport then
    match values with
    | [location, text] => do return Failure.importMessage (← location.toText) (← text.toText)
    | _ => .error .wrongType
  else if kind = .keyNotFound then
    match values with
    | [] => Value.null.toText.map Failure.notFoundMessage
    | [id] => id.toText.map Failure.notFoundMessage
    | _ => .error .wrongType
  else
    match values with
    | [] => .ok ""
    | [value] => value.toText
    | _ => (Value.tuple values).toText

end FailureKind

/-- The kind of a failure to import a key file. -/
def KeyFile.Fault.kind : KeyFile.Fault → FailureKind
  | .unreadable _ | .tooLarge _ => .keyInput
  | .digestSize _ => .fingerprint
  | _ => .keyParsing

/-- The kind of a failure, if it has one. -/
def Failure.kind? : Failure → Option FailureKind
  | .invalidKeyId _ => some .invalidKeyId
  | .keyFile _ fault => some fault.kind
  | .noFingerprint _ => some .fingerprint
  | .keyNotFound _ => some .keyNotFound
  | .decryption .. => some .decryption
  | .storeClosed => some .storeClosed
  | .contextInstalled | .noContext => some .context
  | _ => none

/-- The result is a failure of a kind. -/
def Raises {α : Type} (result : Except Failure α) (kind : FailureKind) : Prop :=
  ∃ failure, result = .error failure ∧ failure.kind? = some kind

@[simp] theorem raises_error_iff {α : Type} (failure : Failure) (kind : FailureKind) :
    Raises (.error failure : Except Failure α) kind ↔ failure.kind? = some kind := by
  simp [Raises]

@[simp] theorem not_raises_ok {α : Type} (a : α) (kind : FailureKind) :
    ¬ Raises (.ok a : Except Failure α) kind := by
  simp [Raises]

end Keyring
