import Keyring.Proofs.HexSpelling
import Keyring.Proofs.StoreChanges

/-!
# Look-ups of a store

Whether a store has a key, which handle it gives out, and whether a decryption finds a key, are
asked in three operations that read their argument each on its own. In an open store they agree,
whatever was called before and whatever others did to its handles: all three go by the identifier
that the value spells, and by nothing else in it.
-/

namespace Keyring

/-! ## Handles under their identifiers -/

namespace KeyPool

/-- Each entry of a table leads to a handle with its identifier, which may be released, and no
identifier has two entries. -/
structure Named (pool : KeyPool) (keys : KeyId.Table Nat) : Prop where
  handle : ∀ id index, (id, index) ∈ keys → ∃ key, pool[index]? = some ⟨id, key⟩
  nodup : keys.keys.Nodup

theorem Named.evolves {pool later : KeyPool} {keys : KeyId.Table Nat} (h : pool.Named keys)
    (he : pool.Evolves later) : later.Named keys where
  handle id index hm := by
    obtain ⟨key, hp⟩ := h.handle id index hm
    rcases he index _ hp with hl | hl
    · exact ⟨key, hl⟩
    · exact ⟨none, hl⟩
  nodup := h.nodup

end KeyPool

theorem Batch.Holds.named {pool : KeyPool} {loads : List Load} {batch : Batch}
    (h : Holds pool loads batch) : batch.pool.Named batch.keys where
  handle id index hm := by
    obtain ⟨_, key, _, hp⟩ := h.of_mem hm
    exact ⟨some key, hp⟩
  nodup := h.nodup_keys

namespace Store

namespace State

/-- The states that a store can come to: it is made without keys, its operations are called, and
meanwhile others make handles and release them, those of the store among them. -/
inductive Reachable (reader : KeyReader) : State → Prop where
  | start (settings : Settings) (reporter : Reporter) (pool : KeyPool) :
    Reachable reader ⟨.empty settings reporter, pool⟩
  | called {state : State} (h : Reachable reader state) (call : Call) :
    Reachable reader (state.next reader call)
  | elsewhere {state : State} {later : KeyPool} (h : Reachable reader state)
    (he : state.pool.Evolves later) : Reachable reader ⟨state.store, later⟩

variable {reader : KeyReader} {state : State}

theorem Change.evolves {call : Call} {next : State} (h : Change reader state call next) :
    state.pool.Evolves next.pool :=
  fun _ _ hp => h.handle_cases hp

/-- One call keeps the entries under their identifiers. -/
theorem Change.named {call : Call} {next : State} (h : Change reader state call next)
    (hn : ∀ keys, state.store.keys = some keys → state.pool.Named keys)
    {keys : KeyId.Table Nat} (hk : next.store.keys = some keys) : next.pool.Named keys := by
  have he := h.evolves
  cases h with
  | swapped _ _ hb =>
    -- The table is that of the batch, and nothing since has done more than to release handles.
    cases hk
    exact (Batch.holds_of_ofSources hb).named.evolves (KeyPool.evolves_releaseAll _ _)
  | tornDown _ _ _ => cases hk
  | kept _ _ => exact (hn keys hk).evolves he

/-- In every state, each entry leads to a handle with its identifier. -/
theorem Reachable.named (h : state.Reachable reader) {keys : KeyId.Table Nat}
    (hk : state.store.keys = some keys) : state.pool.Named keys := by
  induction h generalizing keys with
  | start settings reporter pool =>
    cases hk
    exact ⟨fun _ _ hm => (by cases hm), List.nodup_nil⟩
  | called _ call ih => exact (next_changes reader _ call).named (fun _ => ih) hk
  | elsewhere _ he ih => exact (ih hk).evolves he

/-! ## How a look-up ends -/

/-- The ways in which an open store looks up a value: the value spells no identifier, one that has
no entry, or one whose entry leads to a handle. -/
inductive LookupEnds (state : State) (ids : List KeyId) (value : Value) : Prop where
  | misspelt {invalid : KeyId.Invalid} (hv : value.toKeyId = .error invalid)
    (hc : state.store.contains value = .ok false)
    (hg : state.store.get value = .error (.invalidKeyId invalid))
    (hd : ∀ ciphertext expected, state.store.decrypt state.pool value ciphertext expected =
      .error (.invalidKeyId invalid))
  | missing {id : KeyId} (hv : value.toKeyId = .ok id) (hm : id ∉ ids)
    (hc : state.store.contains value = .ok false) (hg : state.store.get value = .ok none)
    (hd : ∀ ciphertext expected, state.store.decrypt state.pool value ciphertext expected =
      .error (.keyNotFound id))
  | found {id : KeyId} {index : Nat} {key : Option Rsa.PrivateKey} (hv : value.toKeyId = .ok id)
    (hm : id ∈ ids) (hc : state.store.contains value = .ok true)
    (hg : state.store.get value = .ok (some index)) (hp : state.pool[index]? = some ⟨id, key⟩)
    (hd : ∀ ciphertext expected, state.store.decrypt state.pool value ciphertext expected =
      KeyHandle.decrypt ⟨id, key⟩ ciphertext expected)

/-- Every look-up ends in one of these ways. -/
theorem lookup_ends {keys : KeyId.Table Nat} (hk : state.store.keys = some keys)
    (hn : state.pool.Named keys) (value : Value) : LookupEnds state keys.keys value := by
  have hc : state.store.current = .ok keys := by simp [current, hk]
  cases hv : value.toKeyId with
  | error invalid =>
    have hr : readKeyId value = .error (.invalidKeyId invalid) := by
      simp [readKeyId, hv, Except.mapError]
    exact .misspelt hv (by simp [Store.contains, hc, hr]) (by simp [Store.get, hc, hr, Except.map])
      (fun _ _ => by simp [Store.decrypt, hr])
  | ok id =>
    have hr : readKeyId value = .ok id := by simp [readKeyId, hv, Except.mapError]
    cases hf : keys.find? id with
    | none =>
      exact .missing hv (KeyId.Table.find?_eq_none_iff.1 hf) (by simp [Store.contains, hc, hr, hf])
        (by simp [Store.get, hc, hr, hf, Except.map])
        (fun _ _ => by simp [Store.decrypt, hc, hr, hf])
    | some index =>
      have hm : (id, index) ∈ keys := KeyId.Table.mem_of_find? hf
      obtain ⟨key, hp⟩ := hn.handle id index hm
      exact .found hv (KeyId.Table.mem_keys_of_mem hm) (by simp [Store.contains, hc, hr, hf])
        (by simp [Store.get, hc, hr, hf, Except.map]) hp
        (fun _ _ => by simp [Store.decrypt, hc, hr, hf, hp])

/-! ## What the look-ups say -/

/-- What the look-ups of an open store with some identifiers say to a value. A value counts as one
of them, or not, for all operations; one that spells no identifier is refused where a handle or a
message is asked for. -/
structure Answers (state : State) (ids : List KeyId) (value : Value) : Prop where
  contains : ∃ found, state.store.contains value = .ok found ∧
    (found = true ↔ ∃ id, value.toKeyId = .ok id ∧ id ∈ ids)
  get_invalid : Raises (state.store.get value) .invalidKeyId ↔ ∀ id, value.toKeyId ≠ .ok id
  get : ∀ id, value.toKeyId = .ok id →
    state.store.contains value = .ok false ∧ state.store.get value = .ok none ∨
    state.store.contains value = .ok true ∧ ∃ index key,
      state.store.get value = .ok (some index) ∧ state.pool[index]? = some ⟨id, key⟩
  decrypt_invalid : ∀ ciphertext expected,
    Raises (state.store.decrypt state.pool value ciphertext expected) .invalidKeyId ↔
      ∀ id, value.toKeyId ≠ .ok id
  decrypt_notFound : ∀ ciphertext expected,
    Raises (state.store.decrypt state.pool value ciphertext expected) .keyNotFound ↔
      (∃ id, value.toKeyId = .ok id) ∧ state.store.contains value = .ok false

/-- The answers are read off the way in which a look-up ends. -/
theorem LookupEnds.answers {ids : List KeyId} {value : Value} (h : LookupEnds state ids value) :
    Answers state ids value := by
  cases h with
  | misspelt hv hc hg hd =>
    constructor <;> simp [hv, hc, hg, hd, Failure.kind?]
  | missing hv hm hc hg hd =>
    constructor <;> simp [hv, hc, hg, hd, Failure.kind?, hm]
  | found hv hm hc hg hp hd =>
    constructor <;> simp [hv, hc, hg, hd, hp, hm, KeyHandle.not_raises_of_decrypt]

/-- No look-up of the store tells two values apart. -/
structure Interchangeable (state : State) (value other : Value) : Prop where
  contains : state.store.contains value = state.store.contains other
  get : state.store.get value = state.store.get other
  decrypt : ∀ ciphertext expected,
    state.store.decrypt state.pool value ciphertext expected =
      state.store.decrypt state.pool other ciphertext expected

/-- Values that spell the same identifier are interchangeable. -/
theorem interchangeable_of_spells (state : State) {id : KeyId} {value other : Value}
    (h : value.Spells id) (h' : other.Spells id) : state.Interchangeable value other := by
  have hr : readKeyId value = readKeyId other := by
    rw [readKeyId, readKeyId, (value.toKeyId_eq_ok_iff id).2 h, (other.toKeyId_eq_ok_iff id).2 h']
  constructor
  case contains => simp only [Store.contains, hr]
  case get => simp only [Store.get, hr]
  case decrypt =>
    intro ciphertext expected
    simp only [Store.decrypt, hr]

/-- All look-ups of an open store agree on what it has, which is a list of identifiers, and on what
a value names. -/
structure LookupsAgree (state : State) (ids : List KeyId) : Prop where
  keyIds : state.store.keyIds = .ok ids
  nodup : ids.Nodup
  size : state.store.size = .ok ids.length
  spells : ∀ (value : Value) (id : KeyId), value.toKeyId = .ok id ↔ value.Spells id
  answers : ∀ value, state.Answers ids value
  interchangeable : ∀ id value other, value.Spells id → other.Spells id →
    state.Interchangeable value other

end State

/-- In every open state that a store can come to, whether a key is there, which handle it has, and
whether a decryption finds it, is decided by the identifier that a value spells. -/
theorem lookups_agree {reader : KeyReader} {state : State} (h : state.Reachable reader)
    (ho : state.store.closed = false) : ∃ ids, state.LookupsAgree ids := by
  cases hk : state.store.keys with
  | none => simp [closed, hk] at ho
  | some keys =>
    have hn := h.named hk
    refine ⟨keys.keys, ?_⟩
    constructor
    case keyIds => simp [keyIds, current, hk, Except.map]
    case nodup => exact hn.nodup
    case size => simp [size, current, hk, Except.map, KeyId.Table.keys]
    case spells => exact Value.toKeyId_eq_ok_iff
    case answers => exact fun value => (State.lookup_ends hk hn value).answers
    case interchangeable => exact fun _ _ _ => state.interchangeable_of_spells

/-- They agree on a key that is loaded and whose handle a caller has released since. -/
theorem lookups_agree_once_released :
    let loaded := smallStart.next Batch.smallReader (.reload Batch.smallFiles (smallSource "a"))
    let state : State := ⟨loaded.store, loaded.pool.releaseAll [0]⟩
    state.Reachable Batch.smallReader ∧ state.store.closed = false ∧
      state.store.size = .ok 1 ∧ ∃ ids, state.LookupsAgree ids := by
  intro loaded state
  have hreachable : state.Reachable Batch.smallReader :=
    .elsewhere (.called (.start .standard .log []) _) (KeyPool.evolves_releaseAll _ _)
  exact ⟨hreachable, rfl, rfl, lookups_agree hreachable rfl⟩

end Store

end Keyring
