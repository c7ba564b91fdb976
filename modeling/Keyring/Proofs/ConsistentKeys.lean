import Keyring.KeyFile
import Keyring.Proofs.Encryption

/-!
# Consistent keys

The numbers of an RSA key are checked in one place, and every way in which the parsers come to such
a key leads through it. So the keys of all files are consistent, and they get back what is encrypted
for them unless a number only passed for a prime.
-/

namespace Keyring

namespace PrivateKey

/-- The numbers of the key belong together, if it is an RSA key. -/
def Consistent : PrivateKey → Prop
  | .rsa key => key.isConsistent = true
  | .other _ => True

variable {key : PrivateKey} {bytes : Bytes}

/-! ## Written forms -/

theorem consistent_of_ofRsaNumbers (h : ofRsaNumbers bytes = some key) : key.Consistent := by
  unfold ofRsaNumbers at h
  split at h
  · dsimp only at h
    split at h
    · rename_i hc
      cases h
      exact hc
    · cases h
  · cases h

theorem consistent_of_ofCurveSecret {curve : Option Bytes}
    (h : ofCurveSecret curve bytes = some key) : key.Consistent := by
  unfold ofCurveSecret at h
  split at h
  · split at h <;> cases h
    trivial
  · cases h

theorem consistent_of_ofSignatureNumbers (h : ofSignatureNumbers bytes = some key) :
    key.Consistent := by
  unfold ofSignatureNumbers at h
  split at h <;> cases h
  trivial

theorem consistent_of_ofRawSecret {algorithm : KeyAlgorithm} {size : Nat} {parameters : List Der}
    (h : ofRawSecret algorithm size parameters bytes = some key) : key.Consistent := by
  unfold ofRawSecret at h
  split at h
  · split at h <;> cases h
    trivial
  · cases h

theorem consistent_of_ofAlgorithm {algorithm : Bytes} {parameters : List Der}
    (h : ofAlgorithm algorithm parameters bytes = some key) : key.Consistent := by
  unfold ofAlgorithm at h
  split at h
  · split at h
    · exact consistent_of_ofRsaNumbers h
    · cases h
  split at h
  · exact consistent_of_ofRsaNumbers h
  split at h
  · split at h
    · split at h
      · exact consistent_of_ofCurveSecret h
      · cases h
    · cases h
  split at h
  · split at h
    · split at h <;> cases h
      trivial
    · cases h
  repeat
    split at h
    · exact consistent_of_ofRawSecret h
  cases h

theorem consistent_of_ofInfo (h : ofInfo bytes = some key) : key.Consistent := by
  unfold ofInfo at h
  split at h
  · dsimp only at h
    split at h
    · split at h
      · obtain ⟨algorithm, _, ha⟩ := Option.bind_eq_some_iff.1 h
        exact consistent_of_ofAlgorithm ha
      · cases h
    · cases h
  · cases h

theorem consistent_of_ofBlock {label : Label} {block : Pem} (h : ofBlock label block = some key) :
    key.Consistent := by
  unfold ofBlock at h
  split at h
  · cases h
  · cases label with
    | info => exact consistent_of_ofInfo h
    | encryptedInfo => cases h
    | rsaNumbers => exact consistent_of_ofRsaNumbers h
    | curveSecret => exact consistent_of_ofCurveSecret h
    | signatureNumbers => exact consistent_of_ofSignatureNumbers h

theorem consistent_of_ofPem (h : ofPem bytes = some key) : key.Consistent := by
  unfold ofPem at h
  split at h
  · cases h
  · obtain ⟨block, _, hb⟩ := List.exists_of_findSome?_eq_some (Option.join_eq_some_iff.1 h)
    obtain ⟨label, _, hl⟩ := Option.map_eq_some_iff.1 hb
    exact consistent_of_ofBlock hl

end PrivateKey

/-! ## Containers -/

namespace Pkcs12

variable {key : PrivateKey} {password : String}

theorem consistent_of_shroudedKey {value : Der} (h : shroudedKey password value = some key) :
    key.Consistent := by
  unfold shroudedKey at h
  split at h
  · split at h
    · obtain ⟨bytes, _, hb⟩ := Option.bind_eq_some_iff.1 h
      exact PrivateKey.consistent_of_ofInfo hb
    · cases h
  · cases h

theorem consistent_of_bagKey {bag : Der} (h : bagKey password bag = some (some key)) :
    key.Consistent := by
  unfold bagKey at h
  split at h
  · split at h
    · split at h
      · obtain ⟨found, hf, he⟩ := Option.map_eq_some_iff.1 h
        cases he
        exact PrivateKey.consistent_of_ofInfo hf
      · split at h
        · obtain ⟨found, hf, he⟩ := Option.map_eq_some_iff.1 h
          cases he
          exact consistent_of_shroudedKey hf
        · cases h
    · cases h
  · cases h

theorem consistent_of_firstKey {bags : List Der} (h : firstKey password bags = some (some key)) :
    key.Consistent := by
  induction bags with
  | nil => cases h
  | cons bag rest ih =>
    rw [firstKey] at h
    split at h
    · cases h
    · exact ih h
    · rename_i found hbag
      cases h
      exact consistent_of_bagKey hbag

theorem consistent_of_read {bytes : Bytes} (h : read password bytes = some (some key)) :
    key.Consistent := by
  unfold read at h
  split at h
  · split at h
    · split at h
      · split at h
        · split at h
          · exact consistent_of_firstKey h
          · cases h
        · cases h
      · cases h
    · cases h
  · cases h

end Pkcs12

/-! ## Files -/

namespace KeyFile

theorem isConsistent_of_requireRsa {key : PrivateKey} {found : Rsa.PrivateKey}
    (h : requireRsa key = .ok found) (hc : key.Consistent) : found.isConsistent = true := by
  cases key with
  | rsa key =>
    cases h
    exact hc
  | other algorithm => cases h

theorem isConsistent_of_parse {credential : String} {content : Bytes} {key : Rsa.PrivateKey}
    (h : parse .standard credential content = .ok key) : key.isConsistent = true := by
  unfold parse at h
  split at h
  · unfold parsePem at h
    split at h
    · cases h
    · rename_i found hp
      exact isConsistent_of_requireRsa h (PrivateKey.consistent_of_ofPem hp)
  · unfold parseContainer at h
    split at h
    · cases h
    · cases h
    · rename_i found hc
      exact isConsistent_of_requireRsa h (Pkcs12.consistent_of_read hc)

/-- The key of every file that is loaded is consistent. -/
theorem isConsistent_of_load {files : FileSystem} {location credential : String} {limit : Value}
    {id : KeyId} {key : Rsa.PrivateKey}
    (h : load .standard files location credential limit = .ok (id, key)) :
    key.isConsistent = true := by
  unfold load at h
  split at h
  · cases h
  · split at h
    · cases h
    · rename_i hparse
      split at h <;> cases h
      exact isConsistent_of_parse hparse

/-- A key that is loaded gets back what is encrypted for it, provided that the two numbers which
passed for primes are. -/
theorem inverts_of_load {files : FileSystem} {location credential : String} {limit : Value}
    {id : KeyId} {key : Rsa.PrivateKey}
    (h : load .standard files location credential limit = .ok (id, key))
    (hp : key.prime1.Prime) (hq : key.prime2.Prime) : key.Inverts :=
  Rsa.PrivateKey.inverts_of_isConsistent (isConsistent_of_load h) hp hq

end KeyFile

end Keyring
