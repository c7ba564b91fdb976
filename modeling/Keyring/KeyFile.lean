import Keyring.Digest.Sha1
import Keyring.FileSystem
import Keyring.Pkcs12
import Keyring.Value

/-!
# Key files

A key file is read up to a limit, parsed by the one parser that its credential selects, and named by
the digest of its public half.
-/

namespace Keyring

/-- The digest and the parsers that an import relies on. -/
structure KeyReader where
  digest : Bytes → Bytes
  pem : Bytes → Option PrivateKey
  container : String → Bytes → Option (Option PrivateKey)

/-- SHA-1, PEM and PKCS #12. -/
def KeyReader.standard : KeyReader where
  digest := Digest.Sha1.hash
  pem := PrivateKey.ofPem
  container := Pkcs12.read

namespace KeyFile

/-- The largest key file, unless another limit is configured. -/
def defaultLimit : Nat := 1024 * 1024

/-- Why a key file is refused. -/
inductive Fault where
  | unreadable (fault : FileSystem.Fault)
  | tooLarge (limit : String)
  | notPem
  | notContainer
  | noPrivateKey
  | otherAlgorithm (algorithm : KeyAlgorithm)
  | digestSize (size : Nat)
  deriving DecidableEq

/-- The length of a digest that is none of an identifier. -/
def digestSizeMessage (size : Nat) : String :=
  s!"key ID digest has {size} bytes, expected {KeyId.size}"

/-- What is said about it. -/
def Fault.message : Fault → String
  | .unreadable fault => s!"Error loading RSA key file: {fault.reason}"
  | .tooLarge limit => s!"Error loading RSA key file: larger than {limit} bytes"
  | .notPem => "Can't import PEM"
  | .notContainer => "Can't import PKCS #12"
  | .noPrivateKey => "PKCS #12 container holds no private key"
  | .otherAlgorithm algorithm => s!"Private key algorithm isn't RSA ({algorithm.keyName})"
  | .digestSize size => s!"Error calculating Key ID: {digestSizeMessage size}"

/-- How an import fails: with a refusal of the file, or because the location or the limit can be
used with no file at all. -/
inductive Failure where
  | refused (fault : Fault)
  | unusable (fault : ValueFault)
  deriving DecidableEq

/-! ## Reading -/

/-- What is read of a content when `count` bytes are asked for; minus one asks for all of it. Room for
all bytes that are asked for is made first. -/
def readUpTo (count : Int) (content : Bytes) : Except ValueFault Bytes :=
  if count < -(Bytes.wordBound : Int) ∨ Bytes.maxSize < count then .error .tooLarge
  else if count < -1 then .error .negativeLength
  else if count = -1 then .ok content
  else .ok (content.take count.toNat)

/-- The content of a file, which one byte more than the limit tells from a larger one. The file is
opened before the limit is looked at. -/
def read (files : FileSystem) (location : String) (limit : Value) : Except Failure Bytes :=
  match files.read location with
  | .error .nulCharacter => .error (.unusable .nulCharacter)
  | .error fault => .error (.refused (.unreadable fault))
  | .ok content =>
    match limit.integer? with
    | none => .error (.unusable .wrongType)
    | some most =>
      match readUpTo (most + 1) content with
      | .error fault => .error (.unusable fault)
      | .ok found =>
        if (found.length : Int) > most then .error (.refused (.tooLarge limit.shown))
        else .ok found

/-! ## Parsing -/

/-- The RSA key, if the key is one. -/
def requireRsa : PrivateKey → Except Fault Rsa.PrivateKey
  | .rsa key => .ok key
  | .other algorithm => .error (.otherAlgorithm algorithm)

/-- The RSA key of a PEM file. -/
def parsePem (reader : KeyReader) (content : Bytes) : Except Fault Rsa.PrivateKey :=
  match reader.pem content with
  | none => .error .notPem
  | some key => requireRsa key

/-- The RSA key of a PKCS #12 container. -/
def parseContainer (reader : KeyReader) (password : String) (content : Bytes) :
    Except Fault Rsa.PrivateKey :=
  match reader.container password content with
  | none => .error .notContainer
  | some none => .error .noPrivateKey
  | some (some key) => requireRsa key

/-- The RSA key of a file: of a container if there is a credential, of a PEM file if there is none.
-/
def parse (reader : KeyReader) (credential : String) (content : Bytes) :
    Except Fault Rsa.PrivateKey :=
  if credential = "" then parsePem reader content else parseContainer reader credential content

/-! ## Naming -/

/-- The identifier of a public key, or the size of a digest that is none. -/
def fingerprint (reader : KeyReader) (key : Rsa.PublicKey) : Except Nat KeyId :=
  let digest := reader.digest key.info
  if h : digest.length = 20 then .ok ⟨digest, h⟩ else .error digest.length

/-! ## Import -/

/-- The key in a file, with the identifier of its public half. -/
def load (reader : KeyReader) (files : FileSystem) (location credential : String) (limit : Value) :
    Except Failure (KeyId × Rsa.PrivateKey) :=
  match read files location limit with
  | .error failure => .error failure
  | .ok content =>
    match parse reader credential content with
    | .error fault => .error (.refused fault)
    | .ok key =>
      match fingerprint reader key.publicKey with
      | .error size => .error (.refused (.digestSize size))
      | .ok id => .ok (id, key)

end KeyFile

end Keyring
