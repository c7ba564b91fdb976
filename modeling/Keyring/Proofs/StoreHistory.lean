import Keyring.Proofs.StoreChanges

/-!
# Stores with different histories

What an open store answers is decided by the sources that it was last loaded from, and by their
files at that time. What was loaded before, reloads that failed, look-ups and decryptions do not
matter. The answers are read off a table of the handles themselves, in which their places in the
pool no longer occur; so two stores with the same such table cannot be told apart.
-/

namespace Keyring

/-! ## Tables with handles -/

namespace KeyId.Table

variable {α β : Type}

theorem find?_map (f : α → β) (table : Table α) (id : KeyId) :
    find? (table.map fun entry => (entry.1, f entry.2)) id = (table.find? id).map f := by
  induction table with
  | nil => rfl
  | cons entry rest ih =>
    obtain ⟨key, value⟩ := entry
    by_cases h : key = id
    · simp [find?, sameAs_eq_decide, h]
    · simpa [find?, sameAs_eq_decide, h] using ih

end KeyId.Table

namespace KeyPool

/-- A table with the handles that its entries lead to. -/
def table (pool : KeyPool) (keys : KeyId.Table Nat) : KeyId.Table (Option KeyHandle) :=
  keys.map fun entry => (entry.1, pool[entry.2]?)

theorem keys_table (pool : KeyPool) (keys : KeyId.Table Nat) :
    (pool.table keys).keys = keys.keys := by
  simp [table, KeyId.Table.keys]

theorem length_table (pool : KeyPool) (keys : KeyId.Table Nat) :
    (pool.table keys).length = keys.length := by
  simp [table]

theorem find?_table (pool : KeyPool) (keys : KeyId.Table Nat) (id : KeyId) :
    (pool.table keys).find? id = (keys.find? id).map (pool[·]?) :=
  KeyId.Table.find?_map _ keys id

/-- Handles that the table does not lead to do not matter. -/
theorem table_congr {pool other : KeyPool} {keys : KeyId.Table Nat}
    (h : ∀ index ∈ keys.values, pool[index]? = other[index]?) :
    pool.table keys = other.table keys := by
  refine List.map_congr_left fun entry he => ?_
  rw [h entry.2 (List.mem_map.2 ⟨entry, he, rfl⟩)]

/-- In a table without repetitions, each identifier stands with what a look-up gives for it. -/
theorem table_eq_map {pool : KeyPool} {keys : KeyId.Table Nat} (hn : keys.keys.Nodup) :
    pool.table keys = keys.keys.map fun id => (id, (keys.find? id).bind (pool[·]?)) := by
  rw [KeyId.Table.keys, List.map_map]
  refine List.map_congr_left fun entry he => ?_
  have hf : keys.find? entry.1 = some entry.2 := KeyId.Table.find?_of_mem hn he
  simp [hf]

end KeyPool

/-- Batches with the same loads have the same table, whatever handles there were before. -/
theorem Batch.Holds.table_eq {pool other : KeyPool} {loads : List Load} {batch same : Batch}
    (h : Holds pool loads batch) (h' : Holds other loads same) :
    batch.pool.table batch.keys = same.pool.table same.keys := by
  rw [KeyPool.table_eq_map h.nodup_keys, KeyPool.table_eq_map h'.nodup_keys, h'.ids, ← h.ids]
  refine List.map_congr_left fun id hm => ?_
  rw [h.ids, List.mem_eraseDups] at hm
  obtain ⟨j, key, hlast⟩ := LastAt.exists_of_mem hm
  obtain ⟨hfind, hhandle⟩ := h.last j id key hlast
  obtain ⟨hfind', hhandle'⟩ := h'.last j id key hlast
  simp [hfind, hhandle, hfind', hhandle']

/-! ## Files with the same contents -/

section SameFiles

variable {files other : FileSystem}

theorem KeyFile.load_congr (hf : ∀ location, files.read location = other.read location)
    (reader : KeyReader) (location credential : String) (limit : Value) :
    load reader files location credential limit = load reader other location credential limit := by
  simp [load, read, hf]

theorem SourceOutcome.ofValue_congr (hf : ∀ location, files.read location = other.read location)
    (reader : KeyReader) (settings : Settings) (raw : Value) :
    ofValue reader files settings raw = ofValue reader other settings raw := by
  simp [ofValue, ofSource, KeyFile.load_congr hf]

theorem Batch.outcomes_congr (hf : ∀ location, files.read location = other.read location)
    (reader : KeyReader) (settings : Settings) (sources : List Value) :
    outcomes reader files settings sources = outcomes reader other settings sources := by
  induction sources with
  | nil => rfl
  | cons raw rest ih => simp [outcomes, SourceOutcome.ofValue_congr hf, ih]

end SameFiles

namespace Store

/-! ## What a store answers -/

/-- Decryptions depend on nothing but the handles that identifiers lead to. -/
theorem decrypt_congr {store other : Store} {pool pool' : KeyPool} {keys keys' : KeyId.Table Nat}
    (hk : store.keys = some keys) (hk' : other.keys = some keys')
    (hfind : ∀ id, (keys.find? id).map (pool[·]?) = (keys'.find? id).map (pool'[·]?))
    (value ciphertext expected : Value) :
    store.decrypt pool value ciphertext expected =
      other.decrypt pool' value ciphertext expected := by
  simp only [Store.decrypt, current, hk, hk']
  cases readKeyId value with
  | error failure => rfl
  | ok id =>
    have hbind : (keys.find? id).bind (pool[·]?) = (keys'.find? id).bind (pool'[·]?) := by
      simpa only [Option.bind_map, Function.comp_def] using
        congrArg (Option.bind · fun handle => handle) (hfind id)
    simp only [hbind]

namespace State

/-- The table of an open store with its handles. -/
def table? (state : State) : Option (KeyId.Table (Option KeyHandle)) :=
  state.store.keys.map state.pool.table

/-- The handle that a look-up gives, as it is at the time. -/
def look (state : State) (value : Value) : Except Failure (Option (Option KeyHandle)) :=
  (state.store.get value).map (·.map (state.pool[·]?))

/-- Two stores that cannot be told apart: all look-ups and decryptions have the same result, and a
handle that one of them gives out has identifier, size and key in common with that of the other. -/
structure SameAnswers (state other : State) : Prop where
  keyIds : state.store.keyIds = other.store.keyIds
  size : state.store.size = other.store.size
  contains : ∀ value, state.store.contains value = other.store.contains value
  look : ∀ value, state.look value = other.look value
  decrypt : ∀ value ciphertext expected,
    state.store.decrypt state.pool value ciphertext expected =
      other.store.decrypt other.pool value ciphertext expected

/-- Nothing but the table matters for the answers. -/
theorem sameAnswers_of_table {state other : State} {table : KeyId.Table (Option KeyHandle)}
    (h : state.table? = some table) (h' : other.table? = some table) :
    SameAnswers state other := by
  obtain ⟨keys, hk, ht⟩ := Option.map_eq_some_iff.1 h
  obtain ⟨keys', hk', ht'⟩ := Option.map_eq_some_iff.1 h'
  have hfind : ∀ id,
      (keys.find? id).map (state.pool[·]?) = (keys'.find? id).map (other.pool[·]?) := by
    intro id
    rw [← KeyPool.find?_table, ← KeyPool.find?_table, ht, ht']
  constructor
  case keyIds =>
    have hkeys : keys.keys = keys'.keys := by
      rw [← state.pool.keys_table, ← other.pool.keys_table, ht, ht']
    simp [Store.keyIds, current, hk, hk', Except.map, hkeys]
  case size =>
    have hlength : keys.length = keys'.length := by
      rw [← state.pool.length_table, ← other.pool.length_table, ht, ht']
    simp [Store.size, current, hk, hk', Except.map, hlength]
  case contains =>
    intro value
    simp only [Store.contains, current, hk, hk']
    cases readKeyId value with
    | error failure => rfl
    | ok id =>
      have hsome := congrArg Option.isSome (hfind id)
      simpa using hsome
  case look =>
    intro value
    simp only [State.look, Store.get, current, hk, hk']
    cases readKeyId value with
    | error failure => rfl
    | ok id => simp [Except.map, hfind id]
  case decrypt => exact decrypt_congr hk hk' hfind

/-! ## Runs -/

variable {reader : KeyReader} {state : State}

theorem Change.settings {call : Call} {next : State} (h : Change reader state call next) :
    next.store.settings = state.store.settings := by
  cases h <;> rfl

/-- Calls that swap nothing leave the table of a store that stays open as it is. -/
theorem table?_of_lastSwap?_eq_none (hsound : state.Sound reader) {calls : List Call}
    (hs : state.lastSwap? reader calls = none)
    (ho : (state.after reader calls).store.closed = false) :
    (state.after reader calls).table? = state.table? := by
  induction calls generalizing state with
  | nil => rfl
  | cons call rest ih =>
    have hchange := next_changes reader state call
    have hnext := hsound.next call
    rw [after_cons] at ho ⊢
    obtain ⟨hrest, hcall⟩ := Option.or_eq_none_iff.1 hs
    rw [ih hnext hrest ho]
    generalize state.next reader call = next at hchange ho
    cases hchange with
    | swapped _ hswap _ => simp [hswap] at hcall
    | tornDown _ _ _ =>
      rw [after_of_closed rfl] at ho
      cases ho
    | @kept _ pool _ hp =>
      cases hk : state.store.keys with
      | none => simp [table?, hk]
      | some keys =>
        have hold : ∀ index ∈ keys.values, pool[index]? = state.pool[index]? :=
          fun index hm => hp index ((hsound keys hk).lt_length hm)
        simp only [table?, hk, Option.map_some, KeyPool.table_congr hold]

/-- After a swap, a store that stays open and swaps nothing any more has the table of the batch, as
it was when the batch came to its end. -/
theorem table?_of_lastSwap?_eq_some (hsound : state.Sound reader) {calls : List Call}
    {files : FileSystem} {values : List Value}
    (hs : state.lastSwap? reader calls = some (files, values))
    (ho : (state.after reader calls).store.closed = false) :
    ∃ pool batch, Batch.ofSources reader files state.store.settings pool values = (batch, none) ∧
      (state.after reader calls).table? = some (batch.pool.table batch.keys) := by
  induction calls generalizing state with
  | nil => cases hs
  | cons call rest ih =>
    have hchange := next_changes reader state call
    have hnext := hsound.next call
    rw [after_cons] at ho ⊢
    rw [lastSwap?] at hs
    cases hrest : (state.next reader call).lastSwap? reader rest with
    | some found =>
      rw [hrest, Option.some_or] at hs
      obtain ⟨pool, batch, hb, ht⟩ := ih hnext (hrest.trans hs) ho
      exact ⟨pool, batch, hchange.settings ▸ hb, ht⟩
    | none =>
      rw [hrest, Option.none_or] at hs
      rw [table?_of_lastSwap?_eq_none hnext hrest ho]
      generalize state.next reader call = next at hchange
      cases hchange with
      | @swapped _ _ previous _ batch hk hswap hb =>
        cases hswap.symm.trans hs
        refine ⟨state.pool, batch, hb, ?_⟩
        have hholds := Batch.holds_of_ofSources hb
        -- The handles that the swap releases are older than those of the batch.
        have hkeep : ∀ index ∈ batch.keys.values,
            (batch.pool.releaseAll previous.values)[index]? = batch.pool[index]? := by
          intro index hm
          refine batch.pool.getElem?_releaseAll_of_notMem fun hold => ?_
          exact hholds.notMem_values ((hsound previous hk).lt_length hold) hm
        simp only [table?, Option.map_some, KeyPool.table_congr hkeep]
      | tornDown _ hswap _ => simp [hswap] at hs
      | kept hswap _ => simp [hswap] at hs

end State

/-- Two open stores with the same settings, whose last swaps were for the same sources and the same
contents of all files, cannot be told apart, whatever else was called before and since. -/
theorem sameAnswers_of_lastSwap (reader : KeyReader) (settings : Settings)
    (reporter reporter' : Reporter) (pool pool' : KeyPool) {calls calls' : List Call}
    {files files' : FileSystem} {values : List Value}
    (hs : State.lastSwap? reader ⟨.empty settings reporter, pool⟩ calls = some (files, values))
    (hs' : State.lastSwap? reader ⟨.empty settings reporter', pool'⟩ calls' = some (files', values))
    (hf : ∀ location, files.read location = files'.read location)
    (ho : (State.after reader ⟨.empty settings reporter, pool⟩ calls).store.closed = false)
    (ho' : (State.after reader ⟨.empty settings reporter', pool'⟩ calls').store.closed = false) :
    State.SameAnswers (State.after reader ⟨.empty settings reporter, pool⟩ calls)
      (State.after reader ⟨.empty settings reporter', pool'⟩ calls') := by
  obtain ⟨start, batch, hb, ht⟩ :=
    State.table?_of_lastSwap?_eq_some (State.Sound.empty reader settings reporter pool) hs ho
  obtain ⟨start', batch', hb', ht'⟩ :=
    State.table?_of_lastSwap?_eq_some (State.Sound.empty reader settings reporter' pool') hs' ho'
  change Batch.ofSources reader files settings start values = (batch, none) at hb
  change Batch.ofSources reader files' settings start' values = (batch', none) at hb'
  have hholds := Batch.holds_of_ofSources hb
  have hholds' := Batch.holds_of_ofSources hb'
  rw [Batch.outcomes_congr hf] at hholds
  exact State.sameAnswers_of_table ht (ht'.trans (congrArg some (hholds'.table_eq hholds)))

/-- Another key and a failed look-up come before the last reload of the first store, and one more
look-up after that of the other store, whose sources come one by one. -/
theorem sameAnswers_after_other_key :
    smallStart.lastSwap? Batch.smallReader [.reload Batch.smallFiles (smallSource "b"), .get .null,
        .reload Batch.smallFiles (smallSource "a")] =
      some (Batch.smallFiles, [.record [("location", .text "a")]]) ∧
    smallStart.lastSwap? Batch.smallReader [.reload Batch.smallFiles (.stream
        [.source (.record [("location", .text "a")])]), .get .null] =
      some (Batch.smallFiles, [.record [("location", .text "a")]]) ∧
    State.SameAnswers
      (smallStart.after Batch.smallReader [.reload Batch.smallFiles (smallSource "b"), .get .null,
        .reload Batch.smallFiles (smallSource "a")])
      (smallStart.after Batch.smallReader [.reload Batch.smallFiles (.stream
        [.source (.record [("location", .text "a")])]), .get .null]) := by
  refine ⟨rfl, rfl, ?_⟩
  exact sameAnswers_of_lastSwap Batch.smallReader .standard .log .log [] [] rfl rfl
    (fun _ => rfl) rfl rfl

end Store

end Keyring
