import Keyring.Proofs.BatchResult
import Keyring.Proofs.StoreCalls
import Mathlib.Data.List.Nodup

/-!
# Entries of a store

Every entry of a store leads to a handle of its own that holds the key which the identifier names.
Handles are released in three places: by a batch that loads a key again, by a reload that puts new
keys in the place of the old ones, and by a teardown. The entries of a reload are new handles, which
is why none of these ever reaches an entry that stays.
-/

namespace Keyring.Store

/-! ## Tables and pools -/

/-- The handle at an index holds a key, under the identifier that it was loaded with. -/
def LiveAt (reader : KeyReader) (pool : KeyPool) (id : KeyId) (index : Nat) : Prop :=
  ∃ key, pool[index]? = some ⟨id, some key⟩ ∧ KeyFile.Gives reader id key

/-- The entries of a table lead to live handles, and no identifier has two of them. -/
structure Entries (reader : KeyReader) (pool : KeyPool) (keys : KeyId.Table Nat) : Prop where
  live : ∀ id index, (id, index) ∈ keys → LiveAt reader pool id index
  nodup : keys.keys.Nodup

variable {reader : KeyReader} {pool : KeyPool} {keys : KeyId.Table Nat}

theorem LiveAt.lt_length {id : KeyId} {index : Nat} (h : LiveAt reader pool id index) :
    index < pool.length := by
  obtain ⟨key, hk, _⟩ := h
  exact (List.getElem?_eq_some_iff.1 hk).1

/-- A handle is live under one identifier only. -/
theorem LiveAt.unique {id other : KeyId} {index : Nat} (h : LiveAt reader pool id index)
    (h' : LiveAt reader pool other index) : id = other := by
  obtain ⟨key, hk, _⟩ := h
  obtain ⟨key', hk', _⟩ := h'
  rw [hk] at hk'
  cases hk'
  rfl

theorem LiveAt.congr {pool' : KeyPool} {id : KeyId} {index : Nat}
    (h : LiveAt reader pool id index) (hp : pool'[index]? = pool[index]?) :
    LiveAt reader pool' id index := by
  obtain ⟨key, hk, hg⟩ := h
  exact ⟨key, hp.trans hk, hg⟩

namespace Entries

theorem empty (reader : KeyReader) (pool : KeyPool) : Entries reader pool [] where
  live _ _ h := by cases h
  nodup := List.nodup_nil

theorem lt_length (h : Entries reader pool keys) {index : Nat} (hm : index ∈ keys.values) :
    index < pool.length := by
  obtain ⟨⟨id, found⟩, he, rfl⟩ := List.mem_map.1 hm
  exact (h.live id found he).lt_length

/-- No two entries share a handle. -/
theorem nodup_values (h : Entries reader pool keys) : keys.values.Nodup := by
  have hkeys : List.Nodup keys := List.Nodup.of_map _ h.nodup
  refine List.Nodup.map_on ?_ hkeys
  rintro ⟨id, index⟩ hx ⟨other, found⟩ hy rfl
  have he : id = other := (h.live id index hx).unique (h.live other index hy)
  rw [he]

/-- Handles that are made later do not matter. -/
theorem of_old {pool' : KeyPool} (h : Entries reader pool keys)
    (hp : ∀ index < pool.length, pool'[index]? = pool[index]?) : Entries reader pool' keys where
  live id index hm := (h.live id index hm).congr (hp index (h.live id index hm).lt_length)
  nodup := h.nodup

/-- The table of a batch, once the handles are released that another table had before the batch
began. -/
theorem of_batch {loads : List Load} {batch : Batch} (h : Batch.Holds pool loads batch)
    (hg : ∀ id key, (id, key) ∈ loads → KeyFile.Gives reader id key)
    {released : List Nat} (hr : ∀ index ∈ released, index < pool.length) :
    Entries reader (batch.pool.releaseAll released) batch.keys where
  live id index hm := by
    obtain ⟨hge, key, hload, hhandle⟩ := h.of_mem hm
    -- The handles that are released are older than all handles of the batch.
    have hout : index ∉ released := fun hi => absurd (hr index hi) (Nat.not_lt.2 hge)
    exact ⟨key, (batch.pool.getElem?_releaseAll_of_notMem hout).trans hhandle, hg id key hload⟩
  nodup := h.nodup_keys

end Entries

/-! ## Runs -/

namespace State

/-- All entries of the store are sound, unless it was torn down. -/
def Sound (reader : KeyReader) (state : State) : Prop :=
  ∀ keys, state.store.keys = some keys → Entries reader state.pool keys

namespace Sound

theorem empty (reader : KeyReader) (settings : Settings) (reporter : Reporter) (pool : KeyPool) :
    Sound reader ⟨.empty settings reporter, pool⟩ := by
  intro keys hk
  cases hk
  exact .empty reader pool

theorem of_closed {store : Store} (h : store.keys = none) (pool : KeyPool) :
    Sound reader ⟨store, pool⟩ := by
  intro keys hk
  rw [h] at hk
  cases hk

/-- A listing keeps the entries, or tears the store down. -/
theorem list {store : Store} (h : Sound reader ⟨store, pool⟩) (arrivals : List Arrival) :
    Sound reader ⟨(store.list pool arrivals).store, (store.list pool arrivals).pool⟩ := by
  rcases list_cases store pool arrivals with ⟨result, hl⟩ | ⟨result, hl⟩
  · rw [hl]
    exact h
  · rw [hl]
    exact of_closed (keys_teardown store pool) _

/-- A reload keeps the entries sound, however it ends. -/
theorem reload {store : Store} (h : Sound reader ⟨store, pool⟩) (files : FileSystem)
    (sources : Sources) :
    Sound reader ⟨(store.reload reader files pool sources).store,
      (store.reload reader files pool sources).pool⟩ := by
  have hends := reload_ends reader files store pool sources
  generalize store.reload reader files pool sources = outcome at hends
  cases hends with
  | closed _ => exact h
  | unlistable _ _ => exact h
  | unlisted _ _ hl _ =>
    subst hl
    exact h.list _
  | @stopped _ arrivals _ values _ _ _ _ hl _ hb =>
    subst hl
    have hholds := Batch.holds_of_ofSources hb
    -- The table is the old one, and the batch only made handles after those it leads to.
    intro keys hk
    exact (h.list arrivals keys hk).of_old hholds.old
  | tornDown _ _ _ _ hc _ => exact of_closed hc _
  | @swapped previous _ values _ hk _ _ hb =>
    have hholds := Batch.holds_of_ofSources hb
    intro keys hkeys
    cases hkeys
    exact .of_batch hholds (fun _ _ => Batch.gives_of_mem_loads)
      (fun _ => (h previous hk).lt_length)

/-- Every call keeps the entries sound, whether it returns or fails. -/
theorem next {state : State} (h : state.Sound reader) (call : Call) :
    (state.next reader call).Sound reader := by
  cases call with
  | reload files sources => exact h.reload files sources
  | teardown => exact of_closed (keys_teardown state.store state.pool) _
  | decrypt => exact h
  | get => exact h
  | contains => exact h
  | keyIds => exact h
  | size => exact h

theorem after {state : State} (h : state.Sound reader) (calls : List Call) :
    (state.after reader calls).Sound reader :=
  after_induction (fun _ call hs => hs.next call) h calls

end Sound

end State

/-! ## Decryptions -/

/-- The ways in which a decryption with an identifier ends: the store is torn down, it has no key of
that name, or the key that the identifier names does what it does. -/
inductive DecryptEnds (reader : KeyReader) (store : Store) (pool : KeyPool) (id : KeyId)
    (ciphertext expected : Value) : Except Failure Bytes → Prop where
  | closed (h : store.keys = none) :
    DecryptEnds reader store pool id ciphertext expected (.error .storeClosed)
  | notFound {keys : KeyId.Table Nat} (h : store.keys = some keys) (hm : id ∉ keys.keys) :
    DecryptEnds reader store pool id ciphertext expected (.error (.keyNotFound id))
  | live {keys : KeyId.Table Nat} {index : Nat} {key : Rsa.PrivateKey}
    (h : store.keys = some keys) (hm : (id, index) ∈ keys)
    (hp : pool[index]? = some ⟨id, some key⟩)
    (hf : KeyFile.fingerprint reader key.publicKey = .ok id) :
    DecryptEnds reader store pool id ciphertext expected
      (KeyHandle.decrypt ⟨id, some key⟩ ciphertext expected)

namespace State.Sound

variable {state : State}

theorem decrypt_ends (h : state.Sound reader) {value : Value} {id : KeyId}
    (hv : readKeyId value = .ok id) (ciphertext expected : Value) :
    DecryptEnds reader state.store state.pool id ciphertext expected
      (state.store.decrypt state.pool value ciphertext expected) := by
  simp only [decrypt, hv, current]
  cases hk : state.store.keys with
  | none => exact .closed hk
  | some keys =>
    cases hf : keys.find? id with
    | none =>
      simp only [hf, Option.bind_none]
      exact .notFound hk (KeyId.Table.find?_eq_none_iff.1 hf)
    | some index =>
      have hm : (id, index) ∈ keys := KeyId.Table.mem_of_find? hf
      obtain ⟨key, hp, hg⟩ := (h keys hk).live id index hm
      simp only [hf, Option.bind_some, hp]
      exact .live hk hm hp hg.fingerprint

/-- No decryption finds its key released. -/
theorem decrypt_ne_released (h : state.Sound reader) (value ciphertext expected : Value)
    (id : KeyId) :
    state.store.decrypt state.pool value ciphertext expected ≠
      .error (.decryption id .released) := by
  cases hv : readKeyId value with
  | error failure =>
    obtain ⟨invalid, rfl⟩ := readKeyId_error hv
    simp [decrypt, hv]
  | ok found =>
    have hends := h.decrypt_ends hv ciphertext expected
    generalize state.store.decrypt state.pool value ciphertext expected = result at hends
    cases hends with
    | closed _ => simp
    | notFound _ _ => simp
    | live _ _ _ _ => exact KeyHandle.decrypt_ne_released _ id _ ciphertext expected

end State.Sound

/-- In every state of a store after any calls, each entry leads to a handle that is not released,
under the identifier of the key that it holds, and no two entries share an identifier or a handle.
So a decryption uses the key that its identifier names or none, and no handle that it uses is
released. -/
theorem entries_after (reader : KeyReader) (settings : Settings) (reporter : Reporter)
    (pool : KeyPool) (calls : List Call) :
    let state := State.after reader ⟨.empty settings reporter, pool⟩ calls
    (∀ keys, state.store.keys = some keys →
      (∀ id index, (id, index) ∈ keys → ∃ handle key, state.pool[index]? = some handle ∧
        handle.released = false ∧ handle.id = id ∧ handle.key = some key ∧
        KeyFile.fingerprint reader key.publicKey = .ok id) ∧
      keys.keys.Nodup ∧ keys.values.Nodup) ∧
    ∀ value ciphertext expected,
      let result := state.store.decrypt state.pool value ciphertext expected
      (∀ id, readKeyId value = .ok id →
        DecryptEnds reader state.store state.pool id ciphertext expected result) ∧
      ∀ id, result ≠ .error (.decryption id .released) := by
  intro state
  have hsound : state.Sound reader := (State.Sound.empty reader settings reporter pool).after calls
  refine ⟨?_, ?_⟩
  · intro keys hk
    refine ⟨?_, (hsound keys hk).nodup, (hsound keys hk).nodup_values⟩
    intro id index hm
    obtain ⟨key, hp, hg⟩ := (hsound keys hk).live id index hm
    exact ⟨_, key, hp, rfl, rfl, rfl, hg.fingerprint⟩
  · intro value ciphertext expected result
    refine ⟨?_, hsound.decrypt_ne_released value ciphertext expected⟩
    intro id hv
    exact hsound.decrypt_ends hv ciphertext expected

end Keyring.Store
