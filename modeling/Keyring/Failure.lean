import Keyring.KeyFile
import Keyring.KeySource.Array
import Keyring.Rsa.Decrypt

/-!
# Failures

What can go wrong, by cause, and what is said about it.
-/

namespace Keyring

/-- Why a decryption fails. -/
inductive DecryptFault where
  | released
  | unusable (fault : ValueFault)
  | refused (refusal : Rsa.Refusal)
  | wrongSize (length : Nat) (expected : String)
  deriving DecidableEq

/-- What is said about it, with the key's identifier. -/
def DecryptFault.message (id : KeyId) : DecryptFault → String
  | .released => s!"Private key {id.hex} was released"
  | .unusable fault => s!"Decryption with key {id.hex} failed: {fault.message}"
  | .refused refusal => s!"Decryption with key {id.hex} failed: {refusal.message}"
  | .wrongSize length expected =>
    s!"Decryption with key {id.hex} produced {length} bytes, expected {expected}"

/-- A failure of an operation. -/
inductive Failure where
  /-- A value cannot be used for what it was given for. -/
  | unusable (fault : ValueFault)
  | invalidKeyId (fault : KeyId.Invalid)
  | invalidFields (issues : List Issue)
  | invalidList (fault : KeySource.ListFault)
  /-- A list of sources cannot be read from its file. -/
  | unreadableList (path : String) (fault : FileSystem.Fault)
  /-- A file is no text in UTF-8. -/
  | notUnicode
  | keyFile (location : String) (fault : KeyFile.Fault)
  /-- A public key has no identifier. -/
  | noFingerprint (size : Nat)
  | keyNotFound (id : KeyId)
  | decryption (id : KeyId) (fault : DecryptFault)
  | storeClosed
  | contextInstalled
  | noContext
  | handlerFailed (name : String)
  /-- Handlers called one another for too long. -/
  | tooDeep
  | reportRejected (reason : String)
  deriving DecidableEq

namespace Failure

/-- What a missing key is said to be. -/
def notFoundMessage (id : String) : String := s!"No private key loaded for key ID {id}"

/-- What is said of an import that failed at a location. -/
def importMessage (location text : String) : String := s!"{location}: {text}"

/-- The location that stands for a key that comes from no file. -/
def publicKeyLocation : String := "<public key>"

/-- What is said about a failure. -/
def message : Failure → String
  | .unusable fault => fault.message
  | .invalidKeyId fault => fault.message
  | .invalidFields issues => Issue.summary issues
  | .invalidList fault => fault.message
  | .unreadableList path fault =>
    if fault = .nulCharacter then fault.reason
    else s!"[Errno {fault.code}] {fault.reason}: {Text.quote path}"
  | .notUnicode => ""
  | .keyFile location fault => importMessage location fault.message
  | .noFingerprint size => importMessage publicKeyLocation (KeyFile.digestSizeMessage size)
  | .keyNotFound id => notFoundMessage id.hex
  | .decryption id fault => fault.message id
  | .storeClosed => "Private key store was torn down"
  | .contextInstalled => "Secrets context is already initialized"
  | .noContext => "Secrets context is not initialized"
  | .handlerFailed name => s!"handler {name} failed"
  | .tooDeep => "maximum recursion depth exceeded"
  | .reportRejected reason => reason

/-- The location that a failed import is about. -/
def location? : Failure → Option String
  | .keyFile location _ => some location
  | .noFingerprint _ => some publicKeyLocation
  | _ => none

end Failure

/-- How the import of the file at a location fails. -/
def KeyFile.Failure.atLocation (location : String) : KeyFile.Failure → Keyring.Failure
  | .refused fault => .keyFile location fault
  | .unusable fault => .unusable fault

end Keyring
