import Keyring.Failure.Kind
import Keyring.KeyHandle

/-!
# Handles and their release

Releasing handles leaves all others in the pool as they are, and a handle that is released twice is
released. One that holds a key does not fail for want of it; what else a decryption can come to is
said once, by `KeyHandle.DecryptEnds`. A handle is live as long as it is not released. That is all
that becomes of a handle over time, for its identifier and its index stay.
-/

namespace Keyring

theorem KeyHandle.release_release (handle : KeyHandle) :
    handle.release.release = handle.release := rfl

/-- A handle that is released has no size and decrypts nothing. -/
theorem KeyHandle.of_released {handle : KeyHandle} (h : handle.released = true) :
    handle.bits = 0 ∧ ∀ ciphertext expected,
      handle.decrypt ciphertext expected = .error (.decryption handle.id .released) := by
  obtain ⟨id, key⟩ := handle
  cases key with
  | none => exact ⟨rfl, fun _ _ => rfl⟩
  | some key => cases h

/-! ## Decryption with a handle -/

/-- The ways in which a handle decrypts: it is released; the value stands for no bytes, which counts
as a failure of the key's or not; the key refuses the bytes; the message is of the expected size; or
it is not, and the expected size is told unless it cannot be shown. -/
inductive KeyHandle.DecryptEnds (handle : KeyHandle) (ciphertext expected : Value) :
    Except Failure Bytes → Prop where
  | released (hk : handle.key = none) :
    DecryptEnds handle ciphertext expected (.error (.decryption handle.id .released))
  | wrongValue {fault : ValueFault} (hb : ciphertext.toBytes = .error fault)
    (hw : fault.isWrongValue = true) :
    DecryptEnds handle ciphertext expected (.error (.decryption handle.id (.unusable fault)))
  | unfit {fault : ValueFault} (hb : ciphertext.toBytes = .error fault)
    (hw : fault.isWrongValue = false) :
    DecryptEnds handle ciphertext expected (.error (.unusable fault))
  | refused {key : Rsa.PrivateKey} {bytes : Bytes} {refusal : Rsa.Refusal}
    (hk : handle.key = some key) (hb : ciphertext.toBytes = .ok bytes)
    (hd : key.decrypt bytes = .error refusal) :
    DecryptEnds handle ciphertext expected (.error (.decryption handle.id (.refused refusal)))
  | sized {key : Rsa.PrivateKey} {bytes message : Bytes} (hk : handle.key = some key)
    (hb : ciphertext.toBytes = .ok bytes) (hd : key.decrypt bytes = .ok message)
    (hs : hasExpectedSize expected message = true) :
    DecryptEnds handle ciphertext expected (.ok message)
  | wrongSize {key : Rsa.PrivateKey} {bytes message : Bytes} {text : String}
    (hk : handle.key = some key) (hb : ciphertext.toBytes = .ok bytes)
    (hd : key.decrypt bytes = .ok message) (hs : hasExpectedSize expected message = false)
    (ht : expected.toText = .ok text) :
    DecryptEnds handle ciphertext expected
      (.error (.decryption handle.id (.wrongSize message.length text)))
  | unshown {key : Rsa.PrivateKey} {bytes message : Bytes} {fault : ValueFault}
    (hk : handle.key = some key) (hb : ciphertext.toBytes = .ok bytes)
    (hd : key.decrypt bytes = .ok message) (hs : hasExpectedSize expected message = false)
    (ht : expected.toText = .error fault) :
    DecryptEnds handle ciphertext expected (.error (.unusable fault))

/-- Every decryption with a handle ends in one of these ways. -/
theorem KeyHandle.decrypt_ends (handle : KeyHandle) (ciphertext expected : Value) :
    DecryptEnds handle ciphertext expected (handle.decrypt ciphertext expected) := by
  unfold decrypt
  cases hk : handle.key with
  | none => exact .released hk
  | some key =>
    cases hb : ciphertext.toBytes with
    | error fault =>
      cases hw : fault.isWrongValue with
      | true =>
        simp only [hw, if_true]
        exact .wrongValue hb hw
      | false =>
        simp only [hw, Bool.false_eq_true, if_false]
        exact .unfit hb hw
    | ok bytes =>
      cases hd : key.decrypt bytes with
      | error refusal =>
        simp only [hd]
        exact .refused hk hb hd
      | ok message =>
        cases hs : hasExpectedSize expected message with
        | true =>
          simp only [hd, hs, if_true]
          exact .sized hk hb hd hs
        | false =>
          simp only [hd, hs, Bool.false_eq_true, if_false]
          cases ht : expected.toText with
          | error fault => exact .unshown hk hb hd hs ht
          | ok text => exact .wrongSize hk hb hd hs ht

/-- A handle that holds a key does not fail for want of one. -/
theorem KeyHandle.decrypt_ne_released (id other : KeyId) (key : Rsa.PrivateKey)
    (ciphertext expected : Value) :
    decrypt ⟨id, some key⟩ ciphertext expected ≠ .error (.decryption other .released) := by
  have hends := decrypt_ends ⟨id, some key⟩ ciphertext expected
  intro h
  rw [h] at hends
  cases hends with
  | released hk => cases hk

/-- A handle fails a decryption as such, or for a value that cannot be used. -/
theorem KeyHandle.kind_of_decrypt {handle : KeyHandle} {ciphertext expected : Value}
    {failure : Failure} (h : handle.decrypt ciphertext expected = .error failure) :
    failure.kind? = some .decryption ∨ failure.kind? = none := by
  have hends := handle.decrypt_ends ciphertext expected
  rw [h] at hends
  cases hends with
  | released => exact .inl rfl
  | wrongValue => exact .inl rfl
  | unfit => exact .inr rfl
  | refused => exact .inl rfl
  | wrongSize => exact .inl rfl
  | unshown => exact .inr rfl

theorem KeyHandle.not_raises_of_decrypt {kind : FailureKind} (hk : kind ≠ .decryption)
    (handle : KeyHandle) (ciphertext expected : Value) :
    ¬ Raises (handle.decrypt ciphertext expected) kind := by
  rintro ⟨failure, hf, hkind⟩
  rcases kind_of_decrypt hf with h | h
  · exact hk (Option.some.inj (hkind.symm.trans h))
  · cases hkind.symm.trans h

namespace KeyPool

theorem length_add (pool : KeyPool) (id : KeyId) (key : Rsa.PrivateKey) :
    (pool.add id key).length = pool.length + 1 := by
  simp [add]

theorem length_releaseAll (pool : KeyPool) (indices : List Nat) :
    (pool.releaseAll indices).length = pool.length := by
  induction indices generalizing pool with
  | nil => rfl
  | cons first rest ih =>
    rw [releaseAll, List.foldl_cons, ← releaseAll, ih, length_release]

theorem getElem?_releaseAll (pool : KeyPool) (indices : List Nat) (index : Nat) :
    (pool.releaseAll indices)[index]? =
      if index ∈ indices then pool[index]?.map KeyHandle.release else pool[index]? := by
  induction indices generalizing pool with
  | nil => simp [releaseAll]
  | cons first rest ih =>
    rw [releaseAll, List.foldl_cons, ← releaseAll, ih, getElem?_release]
    by_cases hf : first = index
    · subst hf
      by_cases hr : first ∈ rest
      · simp [hr, Option.map_map, Function.comp_def, KeyHandle.release_release]
      · simp [hr]
    · have hi : index ≠ first := fun e => hf e.symm
      simp [hf, hi]

theorem getElem?_releaseAll_of_notMem {indices : List Nat} {index : Nat} (pool : KeyPool)
    (h : index ∉ indices) : (pool.releaseAll indices)[index]? = pool[index]? := by
  rw [getElem?_releaseAll, if_neg h]

theorem released_of_mem {pool : KeyPool} {indices : List Nat} {index : Nat} (h : index ∈ indices)
    (hi : index < pool.length) :
    ∃ handle, (pool.releaseAll indices)[index]? = some handle ∧ handle.released = true := by
  refine ⟨pool[index].release, ?_, rfl⟩
  rw [getElem?_releaseAll, if_pos h, List.getElem?_eq_getElem hi]
  rfl

/-! ## Handles over time -/

/-- What can become of the handles of a pool: they stay as they are or are released, while new ones
are made. -/
def Evolves (pool later : KeyPool) : Prop :=
  ∀ (index : Nat) (handle : KeyHandle), pool[index]? = some handle →
    later[index]? = some handle ∨ later[index]? = some handle.release

theorem evolves_releaseAll (pool : KeyPool) (indices : List Nat) :
    pool.Evolves (pool.releaseAll indices) := by
  intro index handle hp
  rw [getElem?_releaseAll, hp]
  split
  · exact .inr rfl
  · exact .inl rfl

/-! ## Live handles -/

/-- The handle at an index is there and not released. -/
def Live (pool : KeyPool) (index : Nat) : Prop :=
  ∃ handle, pool[index]? = some handle ∧ handle.released = false

theorem Live.lt_length {pool : KeyPool} {index : Nat} (h : pool.Live index) :
    index < pool.length := by
  obtain ⟨handle, hp, _⟩ := h
  exact (List.getElem?_eq_some_iff.1 hp).1

theorem live_congr {pool other : KeyPool} {index : Nat} (h : other[index]? = pool[index]?) :
    other.Live index ↔ pool.Live index := by
  rw [Live, Live, h]

theorem live_releaseAll_iff (pool : KeyPool) (indices : List Nat) (index : Nat) :
    (pool.releaseAll indices).Live index ↔ pool.Live index ∧ index ∉ indices := by
  by_cases hm : index ∈ indices
  · simp only [hm, not_true_eq_false, and_false, iff_false]
    rintro ⟨handle, hp, hr⟩
    rw [getElem?_releaseAll, if_pos hm, Option.map_eq_some_iff] at hp
    obtain ⟨old, _, rfl⟩ := hp
    cases hr
  · simp only [hm, not_false_eq_true, and_true]
    exact live_congr (pool.getElem?_releaseAll_of_notMem hm)

end KeyPool

end Keyring
