import Keyring.Proofs.ConsistentKeys
import Keyring.Proofs.HexText
import Keyring.Proofs.SpelledKeys
import Keyring.Proofs.StoreChanges
import Keyring.Proofs.StoreEntries
import Mathlib.NumberTheory.LucasLehmer

/-!
# Decryption with a store

What a decryption comes to is decided by the key under the identifier that a value spells and by the
expected size, in every state that a store can come to by itself. Neither the other keys nor the
calls before matter. A key that gets back what its public half encrypts does so through the store.

A message of another size than expected fails the decryption, and the failure says which size was
expected. That cannot be said of a number with more than 4300 digits, and then it is not the
decryption that fails but the wording of its failure.
-/

namespace Keyring

/-! ## Expected sizes -/

namespace Value

/-- What a size is given as: null, or an integer. -/
def IsSize (value : Value) : Prop := value = .null ∨ value.integer?.isSome = true

/-- Null fits every message, and an integer those of that length. -/
def Fits (expected : Value) (message : Bytes) : Prop :=
  expected = .null ∨ expected.integer? = some (message.length : Int)

/-- A number with more digits than are written. -/
def IsLong (value : Value) : Prop :=
  ∃ n : Int, value = .int n ∧ 10 ^ Decimal.literalLimit ≤ n.natAbs

theorem hasExpectedSize_iff {expected : Value} (h : expected.IsSize) (message : Bytes) :
    KeyHandle.hasExpectedSize expected message = true ↔ expected.Fits message := by
  rcases h with rfl | hi
  · exact iff_of_true rfl (.inl rfl)
  · have hnull : expected ≠ .null := by
      rintro rfl
      cases hi
    have hsize : KeyHandle.hasExpectedSize expected message =
        decide (expected.integer? = some (message.length : Int)) := by
      cases expected with
      | null => exact absurd rfl hnull
      | float x => cases hi
      | _ => rfl
    rw [hsize, decide_eq_true_iff]
    exact (or_iff_right hnull).symm

theorem not_fits_of_hasExpectedSize {expected : Value} (h : expected.IsSize) {message : Bytes}
    (hs : KeyHandle.hasExpectedSize expected message = false) : ¬ expected.Fits message := by
  rw [← hasExpectedSize_iff h, hs]
  exact Bool.false_ne_true

/-- The sizes that cannot be shown are the long numbers. -/
theorem isShowable_eq_false_iff {expected : Value} (h : expected.IsSize) :
    expected.isShowable = false ↔ expected.IsLong := by
  have hdigits : ∀ n : Int, (Nat.toDigits 10 n.natAbs).length ≤ Decimal.literalLimit ↔
      n.natAbs < 10 ^ Decimal.literalLimit :=
    fun _ => Nat.length_toDigits_le_iff (by decide) (by decide)
  cases expected with
  | int n => simp [isShowable, IsLong, hdigits]
  | null => simp [isShowable, IsLong]
  | bool b => simp [isShowable, IsLong]
  | blockType type => simp [isShowable, IsLong]
  | _ => simp [IsSize, integer?] at h

theorem toText_eq_ok_iff {expected : Value} (h : expected.IsSize) {text : String} :
    expected.toText = .ok text ↔ ¬ expected.IsLong ∧ text = expected.shown := by
  rw [← isShowable_eq_false_iff h]
  cases hs : expected.isShowable <;> simp [toText, hs, eq_comm]

theorem toText_eq_error_iff {expected : Value} (h : expected.IsSize) {fault : ValueFault} :
    expected.toText = .error fault ↔ expected.IsLong ∧ fault = .longNumber := by
  rw [← isShowable_eq_false_iff h]
  cases hs : expected.isShowable <;> simp [toText, hs, eq_comm]

/-- A long number fits no message, short of one with as many bytes. -/
theorem IsLong.not_fits {expected : Value} (h : expected.IsLong) {message : Bytes}
    (hm : message.length < 10 ^ Decimal.literalLimit) : ¬ expected.Fits message := by
  obtain ⟨n, rfl, hn⟩ := h
  rintro (h | h)
  · cases h
  · cases h
    exact absurd hm (Nat.not_lt.2 hn)

end Value

/-! ## Decryption with a key -/

/-- What is said about a failed decryption names the key. -/
theorem DecryptFault.message_names (id : KeyId) (fault : DecryptFault) :
    ∃ before after, fault.message id = before ++ id.hex ++ after := by
  cases fault with
  | released => exact ⟨"Private key ", " was released", rfl⟩
  | unusable fault =>
    refine ⟨"Decryption with key ", " failed: " ++ fault.message, ?_⟩
    rw [← String.append_assoc]
    rfl
  | refused refusal =>
    refine ⟨"Decryption with key ", " failed: " ++ refusal.message, ?_⟩
    rw [← String.append_assoc]
    rfl
  | wrongSize length expected =>
    refine ⟨"Decryption with key ",
      " produced " ++ toString length ++ " bytes, expected " ++ expected, ?_⟩
    simp only [← String.append_assoc]
    rfl

namespace KeyHandle

section

variable (key : Rsa.PrivateKey) (id : KeyId) (ciphertext : Bytes) (expected : Value)

/-- A key refuses a ciphertext, or the message in it is not of the expected size. -/
def Rejects : Prop :=
  (∃ refusal, key.decrypt ciphertext = .error refusal) ∨
    ∃ message, key.decrypt ciphertext = .ok message ∧ ¬ expected.Fits message

/-- The message in a ciphertext is not of the expected size, and that size is too long to be said.
-/
def RejectsUnsaid : Prop :=
  ∃ message, key.decrypt ciphertext = .ok message ∧ ¬ expected.Fits message ∧ expected.IsLong

/-- A result is that of decrypting bytes with a key: the message if it fits, and if the key rejects
the bytes, a failed decryption that names the key. Nothing else comes out. -/
structure DecryptsBy (result : Except Failure Bytes) : Prop where
  returns : ∀ message, result = .ok message ↔
    key.decrypt ciphertext = .ok message ∧ expected.Fits message
  raises : Raises result .decryption ↔ Rejects key ciphertext expected
  names : ∀ failure, result = .error failure → ∃ fault, failure = .decryption id fault ∧
    ∃ before after, failure.message = before ++ id.hex ++ after

/-- The ways in which the decryption of bytes with a key ends. -/
inductive BytesEnd : Except Failure Bytes → Prop where
  | refused {refusal : Rsa.Refusal} (hd : key.decrypt ciphertext = .error refusal) :
    BytesEnd (.error (.decryption id (.refused refusal)))
  | fitting {message : Bytes} (hd : key.decrypt ciphertext = .ok message)
    (hf : expected.Fits message) : BytesEnd (.ok message)
  | unfitting {message : Bytes} (hd : key.decrypt ciphertext = .ok message)
    (hf : ¬ expected.Fits message) (hl : ¬ expected.IsLong) :
    BytesEnd (.error (.decryption id (.wrongSize message.length expected.shown)))
  | unsaid {message : Bytes} (hd : key.decrypt ciphertext = .ok message)
    (hf : ¬ expected.Fits message) (hl : expected.IsLong) :
    BytesEnd (.error (.unusable .longNumber))

variable {expected}

theorem bytesEnd (kind : BufferKind) (hx : expected.IsSize) :
    BytesEnd key id ciphertext expected
      (decrypt ⟨id, some key⟩ (.buffer kind ciphertext) expected) := by
  have hends := decrypt_ends ⟨id, some key⟩ (.buffer kind ciphertext) expected
  generalize decrypt ⟨id, some key⟩ (.buffer kind ciphertext) expected = result at hends
  cases hends with
  | released hk => cases hk
  | wrongValue hb _ => cases hb
  | unfit hb _ => cases hb
  | refused hk hb hd =>
    cases hk
    cases hb
    exact .refused hd
  | sized hk hb hd hs =>
    cases hk
    cases hb
    exact .fitting hd ((Value.hasExpectedSize_iff hx _).1 hs)
  | wrongSize hk hb hd hs ht =>
    cases hk
    cases hb
    obtain ⟨hl, rfl⟩ := (Value.toText_eq_ok_iff hx).1 ht
    exact .unfitting hd (Value.not_fits_of_hasExpectedSize hx hs) hl
  | unshown hk hb hd hs ht =>
    cases hk
    cases hb
    obtain ⟨hl, rfl⟩ := (Value.toText_eq_error_iff hx).1 ht
    exact .unsaid hd (Value.not_fits_of_hasExpectedSize hx hs) hl

end

namespace BytesEnd

variable {key : Rsa.PrivateKey} {id : KeyId} {ciphertext : Bytes} {expected : Value}
  {result : Except Failure Bytes}

theorem eq_ok_iff (h : BytesEnd key id ciphertext expected result) (message : Bytes) :
    result = .ok message ↔ key.decrypt ciphertext = .ok message ∧ expected.Fits message := by
  have hnot : ∀ {found}, key.decrypt ciphertext = .ok found → ¬ expected.Fits found →
      ¬ (key.decrypt ciphertext = .ok message ∧ expected.Fits message) := by
    rintro found hd hf ⟨hm, hfits⟩
    cases hd.symm.trans hm
    exact hf hfits
  cases h with
  | refused hd => simp [hd]
  | fitting hd hf =>
    simp only [hd, Except.ok.injEq, iff_self_and]
    rintro rfl
    exact hf
  | unfitting hd hf _ => exact iff_of_false nofun (hnot hd hf)
  | unsaid hd hf _ => exact iff_of_false nofun (hnot hd hf)

theorem eq_error_iff (h : BytesEnd key id ciphertext expected result) :
    (∃ failure, result = .error failure) ↔ Rejects key ciphertext expected := by
  cases h with
  | refused hd => simp [Rejects, hd]
  | fitting hd hf => simp [Rejects, hd, hf]
  | unfitting hd hf _ => simp [Rejects, hd, hf]
  | unsaid hd hf _ => simp [Rejects, hd, hf]

/-- What is too long to be said is what the failure is about. -/
theorem eq_of_rejectsUnsaid (h : BytesEnd key id ciphertext expected result)
    (hu : RejectsUnsaid key ciphertext expected) : result = .error (.unusable .longNumber) := by
  obtain ⟨message, hm, hf, hl⟩ := hu
  cases h with
  | refused hd => cases hm.symm.trans hd
  | fitting hd hfits =>
    cases hm.symm.trans hd
    exact absurd hfits hf
  | unfitting _ _ hshort => exact absurd hl hshort
  | unsaid => rfl

theorem decryptsBy_iff (h : BytesEnd key id ciphertext expected result) :
    DecryptsBy key id ciphertext expected result ↔ ¬ RejectsUnsaid key ciphertext expected := by
  constructor
  · intro hby hu
    obtain ⟨fault, hfault, _⟩ := hby.names _ (h.eq_of_rejectsUnsaid hu)
    cases hfault
  · intro hsaid
    have hnamed : ∀ failure, result = .error failure → ∃ fault, failure = .decryption id fault := by
      intro failure hfailure
      cases h with
      | refused => exact ⟨_, (Except.error.inj hfailure).symm⟩
      | fitting => cases hfailure
      | unfitting => exact ⟨_, (Except.error.inj hfailure).symm⟩
      | unsaid hd hf hl => exact absurd ⟨_, hd, hf, hl⟩ hsaid
    constructor
    case returns => exact h.eq_ok_iff
    case raises =>
      rw [← h.eq_error_iff]
      constructor
      · rintro ⟨failure, hfailure, _⟩
        exact ⟨failure, hfailure⟩
      · rintro ⟨failure, hfailure⟩
        obtain ⟨fault, rfl⟩ := hnamed failure hfailure
        exact ⟨_, hfailure, rfl⟩
    case names =>
      intro failure hfailure
      obtain ⟨fault, rfl⟩ := hnamed failure hfailure
      exact ⟨fault, rfl, DecryptFault.message_names id fault⟩

/-- What is encrypted for a key that gets messages back comes out, and only with an expected size
that fits it. -/
theorem eq_ok_iff_of_encrypts (h : BytesEnd key id ciphertext expected result) (hi : key.Inverts)
    {message : Bytes} (he : key.publicKey.Encrypts message ciphertext) (found : Bytes) :
    result = .ok found ↔ found = message ∧ expected.Fits message := by
  have hd : key.decrypt ciphertext = .ok message := hi message ciphertext he
  rw [h.eq_ok_iff, hd, Except.ok.injEq]
  constructor
  · rintro ⟨rfl, hf⟩
    exact ⟨rfl, hf⟩
  · rintro ⟨rfl, hf⟩
    exact ⟨rfl, hf⟩

end BytesEnd

end KeyHandle

/-! ## Reachable states -/

namespace Store

namespace State

/-- The states that a store can come to while nobody else releases its handles: it is made without
keys, its operations are called, and meanwhile anything becomes of the handles that are not its own.
-/
inductive Undisturbed (reader : KeyReader) : State → Prop where
  | start (settings : Settings) (reporter : Reporter) (pool : KeyPool) :
    Undisturbed reader ⟨.empty settings reporter, pool⟩
  | called {state : State} (h : Undisturbed reader state) (call : Call) :
    Undisturbed reader (state.next reader call)
  | elsewhere {state : State} {later : KeyPool} (h : Undisturbed reader state)
    (he : ∀ keys, state.store.keys = some keys →
      ∀ index ∈ keys.values, later[index]? = state.pool[index]?) :
    Undisturbed reader ⟨state.store, later⟩

namespace Undisturbed

variable {reader : KeyReader} {state : State}

/-- In every such state, each entry leads to the key that its identifier names. -/
theorem sound (h : state.Undisturbed reader) : state.Sound reader := by
  induction h with
  | start settings reporter pool => exact .empty _ settings reporter pool
  | called _ call ih => exact ih.next call
  | elsewhere _ he ih =>
    intro keys hk
    refine ⟨?_, (ih keys hk).nodup⟩
    intro id index hm
    exact ((ih keys hk).live id index hm).congr (he keys hk index (List.mem_map.2 ⟨_, hm, rfl⟩))

/-- An entry leads to a key from a file, and that key does the decryption. -/
theorem decrypt_eq (h : state.Undisturbed reader) {keys : KeyId.Table Nat}
    (hk : state.store.keys = some keys) {value : Value} {id : KeyId} (hv : value.Spells id)
    {index : Nat} (hi : (id, index) ∈ keys) :
    ∃ key, state.pool[index]? = some ⟨id, some key⟩ ∧ KeyFile.Gives reader id key ∧
      ∀ ciphertext expected, state.store.decrypt state.pool value ciphertext expected =
        KeyHandle.decrypt ⟨id, some key⟩ ciphertext expected := by
  obtain ⟨key, hp, hg⟩ := (h.sound keys hk).live id index hi
  have hfound : keys.find? id = some index := KeyId.Table.find?_of_mem (h.sound keys hk).nodup hi
  refine ⟨key, hp, hg, ?_⟩
  intro ciphertext expected
  simp only [Store.decrypt, readKeyId_of_spells hv, current, hk, hfound, Option.bind_some, hp]

/-- Only the name of a key that the store does not have is not found. -/
theorem raises_keyNotFound_iff (h : state.Undisturbed reader) {keys : KeyId.Table Nat}
    (hk : state.store.keys = some keys) {value : Value} {id : KeyId} (hv : value.Spells id)
    (ciphertext expected : Value) :
    Raises (state.store.decrypt state.pool value ciphertext expected) .keyNotFound ↔
      id ∉ keys.keys := by
  by_cases hm : id ∈ keys.keys
  · obtain ⟨⟨_, index⟩, hi, rfl⟩ := List.mem_map.1 hm
    obtain ⟨key, _, _, hresult⟩ := h.decrypt_eq hk hv hi
    rw [hresult]
    exact iff_of_false (KeyHandle.not_raises_of_decrypt (by decide) _ _ _) (not_not.2 hm)
  · have hnone : keys.find? id = none := KeyId.Table.find?_eq_none_iff.2 hm
    simp [Store.decrypt, readKeyId_of_spells hv, current, hk, hnone, hm, Failure.kind?]

end Undisturbed

end State

section

variable {reader : KeyReader} {state : State} {keys : KeyId.Table Nat} {value : Value} {id : KeyId}

/-- In every open state that a store comes to while nobody else releases its handles, let bytes be
decrypted for a value that spells an identifier, with or without an expected size. This fails for
want of a key exactly if the store has none of that name. If it has one, which is then the key that
the identifier names, that key alone decides: a message is returned exactly if the key finds it and
its size is as expected, and the call fails exactly if the key rejects the bytes. The failure is a
failed decryption that names the key if and only if it is not an expected size of more than 4300
digits that the message does not have; such a size fails the call as a number that is too long. A
key that gets back what its public half encrypts does so here, with no expected size or that of the
message. -/
theorem decrypt_by_stored_key (h : state.Undisturbed reader) (hk : state.store.keys = some keys)
    (hv : value.Spells id) (kind : BufferKind) (ciphertext : Bytes) {expected : Value}
    (hx : expected.IsSize) :
    let result := state.store.decrypt state.pool value (.buffer kind ciphertext) expected
    (Raises result .keyNotFound ↔ id ∉ keys.keys) ∧
    ∀ index, (id, index) ∈ keys → ∃ key, state.pool[index]? = some ⟨id, some key⟩ ∧
      KeyFile.fingerprint reader key.publicKey = .ok id ∧
      (KeyHandle.DecryptsBy key id ciphertext expected result ↔
        ¬ KeyHandle.RejectsUnsaid key ciphertext expected) ∧
      (KeyHandle.RejectsUnsaid key ciphertext expected →
        result = .error (.unusable .longNumber)) ∧
      (∀ message, result = .ok message ↔
        key.decrypt ciphertext = .ok message ∧ expected.Fits message) ∧
      ((∃ failure, result = .error failure) ↔ KeyHandle.Rejects key ciphertext expected) ∧
      (key.Inverts → ∀ message, key.publicKey.Encrypts message ciphertext →
        ∀ found, result = .ok found ↔ found = message ∧ expected.Fits message) := by
  intro result
  refine ⟨h.raises_keyNotFound_iff hk hv _ _, ?_⟩
  intro index hi
  obtain ⟨key, hp, hg, hresult⟩ := h.decrypt_eq hk hv hi
  have hends : KeyHandle.BytesEnd key id ciphertext expected result := by
    rw [show result = _ from hresult _ _]
    exact KeyHandle.bytesEnd key id ciphertext kind hx
  exact ⟨key, hp, hg.fingerprint, hends.decryptsBy_iff, hends.eq_of_rejectsUnsaid,
    hends.eq_ok_iff, hends.eq_error_iff,
    fun hinverts _ he found => hends.eq_ok_iff_of_encrypts hinverts he found⟩

/-- What comes back through a store whose keys are read as key files are. Provided that the two
numbers which passed for primes are, the key of an entry encrypts every message that leaves eleven
bytes of a block free, and each ciphertext of it that is decrypted for the identifier gives the
message, with an expected size that fits it and with no other. -/
theorem decrypt_of_encrypts (h : state.Undisturbed .standard) (hk : state.store.keys = some keys)
    (hv : value.Spells id) {index : Nat} (hi : (id, index) ∈ keys) :
    ∃ key, state.pool[index]? = some ⟨id, some key⟩ ∧ key.isConsistent = true ∧
      (key.prime1.Prime → key.prime2.Prime → ∀ message : Bytes,
        ((∃ ciphertext, key.publicKey.Encrypts message ciphertext) ↔
          message.length + 11 ≤ key.publicKey.width) ∧
        ∀ ciphertext, key.publicKey.Encrypts message ciphertext →
          ∀ kind (expected : Value), expected.IsSize → ∀ found,
            state.store.decrypt state.pool value (.buffer kind ciphertext) expected = .ok found ↔
              found = message ∧ expected.Fits message) := by
  obtain ⟨key, hp, ⟨_, _, _, _, hload⟩, hresult⟩ := h.decrypt_eq hk hv hi
  refine ⟨key, hp, KeyFile.isConsistent_of_load hload, ?_⟩
  intro hp1 hp2 message
  have hinverts : key.Inverts := KeyFile.inverts_of_load hload hp1 hp2
  refine ⟨key.publicKey.exists_encrypts_iff message, ?_⟩
  intro ciphertext he kind expected hx found
  rw [hresult]
  exact (KeyHandle.bytesEnd key id ciphertext kind hx).eq_ok_iff_of_encrypts hinverts he found

end

/-! ## A small key -/

/-- A key whose primes are one less than the sixty-first and the eighty-ninth power of two. -/
def mersenneKey : Rsa.PrivateKey where
  modulus := 1427247692705959880439315947500961989719490561
  publicExponent := 19
  privateExponent := 20031546564294173751864504218279703060438379
  prime1 := mersenne 61
  prime2 := mersenne 89
  exponent1 := 1334961742176349129
  exponent2 := 228041586184148998007733409
  coefficient := 669438292720429385

/-- The identifier of twenty sevens. -/
def sevensId : KeyId := ⟨List.replicate 20 7, rfl⟩

/-- A reader to whom every file is that key, under that identifier. -/
def mersenneReader : KeyReader where
  digest _ := sevensId.digest
  pem _ := some (.rsa mersenneKey)
  container _ _ := none

/-- A store that has loaded the key. -/
def mersenneState : State :=
  smallStart.next mersenneReader (.reload Batch.smallFiles (smallSource "a"))

/-- Five letters. -/
def horse : Bytes := Bytes.ofText "horse"

/-- The five letters, encrypted for the key. -/
def sealedHorse : Bytes := mersenneKey.publicKey.encrypt (List.replicate 11 1) horse

theorem inverts_mersenneKey : mersenneKey.Inverts := by
  apply Rsa.PrivateKey.inverts_of_prime
  · exact lucas_lehmer_sufficiency 61 (by norm_num) (by norm_num)
  · exact lucas_lehmer_sufficiency 89 (by norm_num) (by norm_num)
  · decide
  · decide
  · decide

theorem encrypts_horse : mersenneKey.publicKey.Encrypts horse sealedHorse := by
  refine ⟨List.replicate 11 1, by decide, ?_, by decide, rfl⟩
  intro byte hb
  rw [List.eq_of_mem_replicate hb]
  decide

theorem undisturbed_mersenneState : mersenneState.Undisturbed mersenneReader :=
  .called (.start .standard .log []) _

theorem keys_mersenneState : mersenneState.store.keys = some [(sevensId, 0)] := rfl

theorem spells_sevensId : (Value.text sevensId.hex).Spells sevensId :=
  (Value.toKeyId_eq_ok_iff _ _).1 (KeyId.ofHex_hex sevensId)

/-- The five letters come out with the expected sizes null and five, and the decryption fails with
the expected size six. -/
theorem decrypt_by_stored_key_mersenne :
    let result (kind : BufferKind) (expected : Value) :=
      mersenneState.store.decrypt mersenneState.pool (.text sevensId.hex)
        (.buffer kind sealedHorse) expected
    mersenneState.Undisturbed mersenneReader ∧
      mersenneState.store.keys = some [(sevensId, 0)] ∧
      (Value.text sevensId.hex).Spells sevensId ∧
      mersenneKey.publicKey.Encrypts horse sealedHorse ∧ mersenneKey.Inverts ∧
      result .view .null = .ok horse ∧ result .fixed (.int 5) = .ok horse ∧
      KeyHandle.DecryptsBy mersenneKey sevensId sealedHorse (.int 6) (result .fixed (.int 6)) ∧
      Raises (result .fixed (.int 6)) .decryption := by
  intro result
  have hstored : ∀ (kind : BufferKind) (expected : Value), expected.IsSize →
      (KeyHandle.DecryptsBy mersenneKey sevensId sealedHorse expected (result kind expected) ↔
        ¬ KeyHandle.RejectsUnsaid mersenneKey sealedHorse expected) ∧
      ∀ found, result kind expected = .ok found ↔ found = horse ∧ expected.Fits horse := by
    intro kind expected hx
    obtain ⟨_, hentry⟩ := decrypt_by_stored_key undisturbed_mersenneState keys_mersenneState
      spells_sevensId kind sealedHorse hx
    obtain ⟨key, hp, _, hby, _, _, _, hback⟩ := hentry 0 (List.mem_singleton_self _)
    cases hp
    exact ⟨hby, hback inverts_mersenneKey horse encrypts_horse⟩
  have hshort : ¬ (Value.int 6).IsLong := by
    rw [← Value.isShowable_eq_false_iff (.inr rfl)]
    exact Bool.true_eq_false.mp
  have hsix : KeyHandle.DecryptsBy mersenneKey sevensId sealedHorse (.int 6)
      (result .fixed (.int 6)) := by
    rw [(hstored .fixed (.int 6) (.inr rfl)).1]
    rintro ⟨_, _, _, hlong⟩
    exact hshort hlong
  refine ⟨undisturbed_mersenneState, keys_mersenneState, spells_sevensId, encrypts_horse,
    inverts_mersenneKey, ?_, ?_, hsix, ?_⟩
  · exact ((hstored .view .null (.inl rfl)).2 horse).2 ⟨rfl, .inl rfl⟩
  · exact ((hstored .fixed (.int 5) (.inr rfl)).2 horse).2 ⟨rfl, .inr (by decide)⟩
  · refine hsix.raises.2 (.inr ⟨horse, inverts_mersenneKey _ _ encrypts_horse, ?_⟩)
    rintro (h | h)
    · cases h
    · exact absurd h (by decide)

/-- With an expected size of 4301 digits, it is not as a decryption that the call fails. -/
theorem decrypt_unsaid_size :
    let expected : Value := .int (10 ^ 4300)
    let result := mersenneState.store.decrypt mersenneState.pool (.text sevensId.hex)
      (.buffer .fixed sealedHorse) expected
    mersenneState.Undisturbed mersenneReader ∧
      mersenneState.store.keys = some [(sevensId, 0)] ∧
      (Value.text sevensId.hex).Spells sevensId ∧ expected.IsSize ∧
      mersenneState.pool[0]? = some ⟨sevensId, some mersenneKey⟩ ∧
      mersenneKey.decrypt sealedHorse = .ok horse ∧
      result = .error (.unusable .longNumber) ∧ ¬ Raises result .decryption ∧
      ¬ KeyHandle.DecryptsBy mersenneKey sevensId sealedHorse expected result := by
  intro expected result
  have hdecrypt : mersenneKey.decrypt sealedHorse = .ok horse :=
    inverts_mersenneKey _ _ encrypts_horse
  have hsize : expected.IsSize := .inr rfl
  have hlong : expected.IsLong := by
    refine ⟨10 ^ 4300, rfl, ?_⟩
    rw [Decimal.literalLimit, Int.natAbs_pow, show Int.natAbs 10 = 10 from rfl]
  have hlength : horse.length < 10 ^ Decimal.literalLimit :=
    Nat.lt_of_lt_of_le (by decide) (Nat.pow_le_pow_right (by decide) (by decide : 1 ≤ 4300))
  have hfits : ¬ expected.Fits horse := hlong.not_fits hlength
  have hunsaid : KeyHandle.RejectsUnsaid mersenneKey sealedHorse expected :=
    ⟨horse, hdecrypt, hfits, hlong⟩
  obtain ⟨key, hp, _, hresult⟩ := undisturbed_mersenneState.decrypt_eq keys_mersenneState
    spells_sevensId (List.mem_singleton_self _)
  cases hp
  have hends : KeyHandle.BytesEnd mersenneKey sevensId sealedHorse expected result := by
    rw [show result = _ from hresult _ _]
    exact KeyHandle.bytesEnd mersenneKey sevensId sealedHorse .fixed hsize
  have hfailed := hends.eq_of_rejectsUnsaid hunsaid
  refine ⟨undisturbed_mersenneState, keys_mersenneState, spells_sevensId, hsize, rfl, hdecrypt,
    hfailed, ?_, ?_⟩
  · rw [hfailed, raises_error_iff]
    exact nofun
  · rw [hends.decryptsBy_iff]
    exact not_not.2 hunsaid

end Store

end Keyring
