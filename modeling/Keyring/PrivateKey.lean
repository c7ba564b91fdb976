import Keyring.Pem
import Keyring.Rsa.Key

/-!
# Private keys

The written forms of private keys. Only RSA keys can decrypt; keys of other algorithms are
recognised by their structure, so that they can be named when they are refused.
-/

namespace Keyring

/-- An algorithm whose keys are recognised but not used. -/
inductive KeyAlgorithm where
  | ellipticCurve
  | digitalSignature
  | ed25519
  | ed448
  | x25519
  | x448
  deriving DecidableEq

/-- The name that a refusal gives to a key of the algorithm. -/
def KeyAlgorithm.keyName : KeyAlgorithm → String
  | .ellipticCurve => "ECPrivateKey"
  | .digitalSignature => "DSAPrivateKey"
  | .ed25519 => "Ed25519PrivateKey"
  | .ed448 => "Ed448PrivateKey"
  | .x25519 => "X25519PrivateKey"
  | .x448 => "X448PrivateKey"

/-- A private key: an RSA key, or a key of an algorithm that cannot decrypt. -/
inductive PrivateKey where
  | rsa (key : Rsa.PrivateKey)
  | other (algorithm : KeyAlgorithm)
  deriving DecidableEq

namespace PrivateKey

/-- The RSA key of nine numbers, the first of which is the version zero (PKCS #1). -/
def ofRsaNumbers (bytes : Bytes) : Option PrivateKey :=
  match (Der.readSequence bytes).bind (·.mapM Der.natural?) with
  | some [0, n, e, d, p, q, dp, dq, qinv] =>
    let key : Rsa.PrivateKey := ⟨n, e, d, p, q, dp, dq, qinv⟩
    if key.isConsistent then some (.rsa key) else none
  | _ => none

/-- Whether the optional items of an elliptic-curve key are in order, with the curve named in front
of the key or in it; a curve named twice is the same one. -/
def curveItemsFit (curve : Option Bytes) : List Der → Bool
  | [] => curve.isSome
  | [item] =>
    if item.tag = Der.contextTag 1 then
      curve.isSome && ((item.context? 1).any (·.tag = Der.bitStringTag))
    else
      match (item.context? 0).bind Der.objectId? with
      | none => false
      | some inner => ObjectId.namedCurves.contains inner && curve.all (· = inner)
  | [first, second] =>
    ((second.context? 1).any (·.tag = Der.bitStringTag))
      && match (first.context? 0).bind Der.objectId? with
         | none => false
         | some inner => ObjectId.namedCurves.contains inner && curve.all (· = inner)
  | _ => false

/-- An elliptic-curve key: the version one, the secret and the optional items (SEC 1). -/
def ofCurveSecret (curve : Option Bytes) (bytes : Bytes) : Option PrivateKey :=
  match Der.readSequence bytes with
  | some (version :: secret :: items) =>
    if version.natural? = some 1 ∧ secret.octets?.isSome ∧ curveItemsFit curve items then
      some (.other .ellipticCurve)
    else none
  | _ => none

/-- A signature key of six numbers, the first of which is the version zero. -/
def ofSignatureNumbers (bytes : Bytes) : Option PrivateKey :=
  match (Der.readSequence bytes).bind (·.mapM Der.natural?) with
  | some [0, _, _, _, _, _] => some (.other .digitalSignature)
  | _ => none

/-- A key that is a string of `size` bytes. -/
def ofRawSecret (algorithm : KeyAlgorithm) (size : Nat) (parameters : List Der) (bytes : Bytes) :
    Option PrivateKey :=
  match (Der.readWhole bytes).bind Der.octets? with
  | some secret =>
    if secret.length = size ∧ parameters = [] then some (.other algorithm) else none
  | none => none

/-- The key that an algorithm identifier and a string of bytes stand for. -/
def ofAlgorithm (algorithm : Bytes) (parameters : List Der) (bytes : Bytes) : Option PrivateKey :=
  if algorithm = ObjectId.rsaEncryption then
    if parameters = [] ∨ parameters = [⟨Der.nullTag, []⟩] then ofRsaNumbers bytes else none
  else if algorithm = ObjectId.rsaProbabilistic then ofRsaNumbers bytes
  else if algorithm = ObjectId.ellipticCurve then
    match parameters.mapM Der.objectId? with
    | some [curve] =>
      if ObjectId.namedCurves.contains curve then ofCurveSecret (some curve) bytes else none
    | _ => none
  else if algorithm = ObjectId.digitalSignature then
    match parameters, (Der.readWhole bytes).bind Der.natural? with
    | [domain], some _ =>
      match domain.sequence?.bind (·.mapM Der.natural?) with
      | some [_, _, _] => some (.other .digitalSignature)
      | _ => none
    | _, _ => none
  else if algorithm = ObjectId.ed25519 then ofRawSecret .ed25519 32 parameters bytes
  else if algorithm = ObjectId.ed448 then ofRawSecret .ed448 57 parameters bytes
  else if algorithm = ObjectId.x25519 then ofRawSecret .x25519 32 parameters bytes
  else if algorithm = ObjectId.x448 then ofRawSecret .x448 56 parameters bytes
  else none

/-- A key with its algorithm in front: the version zero, the algorithm, the key as a string, and
attributes, which are not looked at (PKCS #8). -/
def ofInfo (bytes : Bytes) : Option PrivateKey :=
  match Der.readSequence bytes with
  | some (version :: algorithm :: secret :: attributes) =>
    let tags := attributes.map Der.tag
    if version.natural? = some 0 ∧ (tags = [] ∨ tags = [0xa0]) then
      match algorithm.sequence?, secret.octets? with
      | some (name :: parameters), some content =>
        (name.objectId?).bind (fun algorithm => ofAlgorithm algorithm parameters content)
      | _, _ => none
    else none
  | _ => none

/-! ## Keys in PEM blocks -/

/-- What a block may hold, by its label. -/
inductive Label where
  | info
  | encryptedInfo
  | rsaNumbers
  | curveSecret
  | signatureNumbers
  deriving DecidableEq

/-- The label's text. -/
def Label.text : Label → String
  | .info => "PRIVATE KEY"
  | .encryptedInfo => "ENCRYPTED PRIVATE KEY"
  | .rsaNumbers => "RSA PRIVATE KEY"
  | .curveSecret => "EC PRIVATE KEY"
  | .signatureNumbers => "DSA PRIVATE KEY"

/-- All labels that announce a private key. -/
def Label.all : List Label :=
  [.info, .encryptedInfo, .rsaNumbers, .curveSecret, .signatureNumbers]

/-- The label of a block, if it announces a private key. -/
def Label.ofBlock (block : Pem) : Option Label :=
  Label.all.find? (fun label => block.label = Bytes.ofText label.text)

/-- The key of a block that is not encrypted. -/
def ofBlock (label : Label) (block : Pem) : Option PrivateKey :=
  if block.processed then none
  else
    match label with
    | .info => ofInfo block.content
    | .encryptedInfo => none
    | .rsaNumbers => ofRsaNumbers block.content
    | .curveSecret => ofCurveSecret none block.content
    | .signatureNumbers => ofSignatureNumbers block.content

/-- The key of the first block that announces one. -/
def ofPem (text : Bytes) : Option PrivateKey :=
  match Pem.read text with
  | none => none
  | some blocks =>
    blocks.findSome? (fun block => (Label.ofBlock block).map (fun label => ofBlock label block))
      |>.join

end PrivateKey

end Keyring
