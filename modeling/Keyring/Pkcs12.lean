import Keyring.Cipher.Aes
import Keyring.Cipher.Chaining
import Keyring.Cipher.Des
import Keyring.Derivation.Pbkdf2
import Keyring.Derivation.Pkcs12
import Keyring.Digest.Sha1
import Keyring.Digest.Sha256
import Keyring.PrivateKey

/-!
# PKCS #12 containers

A container holds bags of keys and certificates under a password. Its integrity is checked first;
then the first key in it is taken. Certificates are passed over.
-/

namespace Keyring.Pkcs12

/-! ## Algorithms -/

/-- The hash function of an identifier. -/
def digestOf (id : Bytes) : Option Digest.Algorithm :=
  if id = ObjectId.sha1 then some Digest.Sha1.algorithm
  else if id = ObjectId.sha256 then some Digest.Sha256.algorithm
  else none

/-- The hash function of a keyed hash's identifier. -/
def keyedDigestOf (id : Bytes) : Option Digest.Algorithm :=
  if id = ObjectId.hmacSha1 then some Digest.Sha1.algorithm
  else if id = ObjectId.hmacSha256 then some Digest.Sha256.algorithm
  else none

/-- The key size in bytes of a block cipher's identifier. -/
def cipherKeySize (id : Bytes) : Option Nat :=
  if id = ObjectId.aes128Cbc then some 16
  else if id = ObjectId.aes192Cbc then some 24
  else if id = ObjectId.aes256Cbc then some 32
  else none

/-- An algorithm identifier: its name and its parameters. -/
def algorithm? (item : Der) : Option (Bytes × List Der) :=
  match item.sequence? with
  | some (name :: parameters) => name.objectId?.map (·, parameters)
  | _ => none

/-! ## Password-based decryption -/

/-- The optional items of a derivation: the key size, which is given by the cipher, and the keyed
hash, which is that of SHA-1 unless named. -/
def derivationDigest (items : List Der) : Option Digest.Algorithm :=
  match items.filter (·.tag ≠ Der.integerTag) with
  | [] => some Digest.Sha1.algorithm
  | [item] => (algorithm? item).bind (fun named => keyedDigestOf named.1)
  | _ => none

/-- Decryption under a key derived with PBKDF2 from the password in UTF-8. -/
def decryptScheme2 (password : String) (derivation cipher : Der) (ciphertext : Bytes) :
    Option Bytes :=
  match algorithm? derivation, algorithm? cipher with
  | some (derivationId, [settings]), some (cipherId, [vector]) =>
    if derivationId ≠ ObjectId.passwordDerivation2 then none
    else
      match settings.sequence?, cipherKeySize cipherId, vector.octets? with
      | some (salt :: iterations :: items), some size, some vector =>
        match salt.octets?, iterations.natural?, derivationDigest items with
        | some salt, some iterations, some digest =>
          let key := Derivation.pbkdf2 digest (Bytes.ofText password) salt iterations size
          Cipher.chainedPlaintext? 16 (Cipher.Aes.decrypt key) vector ciphertext
        | _, _, _ => none
      | _, _, _ => none
  | _, _ => none

/-- Decryption with triple DES under a key and a vector derived from the password in UTF-16. -/
def decryptTripleDes (password : String) (salt : Bytes) (iterations : Nat) (ciphertext : Bytes) :
    Option Bytes :=
  let derive := fun purpose size =>
    Derivation.pkcs12 Digest.Sha1.algorithm purpose (Derivation.passwordUnits password) salt
      iterations size
  Cipher.chainedPlaintext? 8 (Cipher.Des.decryptTriple (derive .cipherKey 24))
    (derive .initialVector 8) ciphertext

/-- Decryption with an algorithm that takes its key from a password. -/
def decrypt (password : String) (algorithm : Der) (ciphertext : Bytes) : Option Bytes :=
  match algorithm? algorithm with
  | some (id, [parameters]) =>
    match parameters.sequence? with
    | some [first, second] =>
      if id = ObjectId.passwordScheme2 then decryptScheme2 password first second ciphertext
      else if id = ObjectId.sha1TripleDes then
        match first.octets?, second.natural? with
        | some salt, some iterations => decryptTripleDes password salt iterations ciphertext
        | _, _ => none
      else none
    | _ => none
  | _ => none

/-! ## Contents -/

/-- The bytes of one part of the container, decrypted where it is encrypted. -/
def partContent (password : String) (part : Der) : Option Bytes :=
  match part.sequence? with
  | some [kind, content] =>
    if kind.objectId? = some ObjectId.data then (content.context? 0).bind Der.octets?
    else if kind.objectId? = some ObjectId.encryptedData then
      match (content.context? 0).bind Der.sequence? with
      | some (_ :: encrypted :: _) =>
        match encrypted.sequence? with
        | some [_, algorithm, ciphertext] =>
          if ciphertext.tag = 0x80 then decrypt password algorithm ciphertext.content else none
        | _ => none
      | _ => none
    else none
  | _ => none

/-- The bags of one part of the container. -/
def partBags (password : String) (part : Der) : Option (List Der) :=
  (partContent password part).bind Der.readSequence

/-- The key of an encrypted key bag. -/
def shroudedKey (password : String) (value : Der) : Option PrivateKey :=
  match value.sequence? with
  | some [algorithm, ciphertext] =>
    match ciphertext.octets? with
    | some ciphertext => (decrypt password algorithm ciphertext).bind PrivateKey.ofInfo
    | none => none
  | _ => none

/-- The key of a bag: none for a bag of another kind, and a failure for a key that is damaged. -/
def bagKey (password : String) (bag : Der) : Option (Option PrivateKey) :=
  match bag.sequence? with
  | some (kind :: value :: _) =>
    match kind.objectId?, value.context? 0 with
    | some kind, some value =>
      if kind = ObjectId.plainKeyBag then (PrivateKey.ofInfo value.encode).map some
      else if kind = ObjectId.shroudedKeyBag then (shroudedKey password value).map some
      else some none
    | _, _ => none
  | _ => none

/-- The first key of the bags; bags after it are not looked at. -/
def firstKey (password : String) : List Der → Option (Option PrivateKey)
  | [] => some none
  | bag :: rest =>
    match bagKey password bag with
    | none => none
    | some none => firstKey password rest
    | some (some key) => some (some key)

/-! ## Integrity -/

/-- The integrity data: the hash function, the expected value, the salt and the count of
iterations, which is one unless given. -/
def integrity? (item : Der) : Option (Digest.Algorithm × Bytes × Bytes × Nat) :=
  match item.sequence? with
  | some (info :: salt :: iterations) =>
    match info.sequence?, salt.octets?, iterations.mapM Der.natural? with
    | some [algorithm, expected], some salt, some counts =>
      if counts.length > 1 then none
      else
        match (algorithm? algorithm).bind (fun named => digestOf named.1), expected.octets? with
        | some digest, some expected => some (digest, expected, salt, counts.headD 1)
        | _, _ => none
    | _, _, _ => none
  | _ => none

/-- Whether the keyed hash of the contents is the expected one. -/
def integrityHolds (password : String) (content : Bytes) (item : Der) : Bool :=
  match integrity? item with
  | none => false
  | some (digest, expected, salt, iterations) =>
    let key := Derivation.pkcs12 digest .integrityKey (Derivation.passwordUnits password) salt
      iterations digest.digestSize
    digest.hmac key content = expected

/-- The key of a container: `none` when the container is damaged or the password is wrong, and
`some none` when it holds no key. Any version will do, and what follows the container is not looked
at. -/
def read (password : String) (bytes : Bytes) : Option (Option PrivateKey) :=
  match Der.leadingSequence bytes with
  | some (version :: safe :: checks) =>
    match safe.sequence? with
    | some [kind, content] =>
      match (content.context? 0).bind Der.octets? with
      | some content =>
        if version.tag = Der.integerTag ∧ kind.objectId? = some ObjectId.data
            ∧ checks.length ≤ 1 ∧ checks.all (integrityHolds password content) then
          match (Der.readSequence content).bind (·.mapM (partBags password)) with
          | some bags => firstKey password bags.flatten
          | none => none
        else none
      | none => none
    | _ => none
  | _ => none

end Keyring.Pkcs12
