import Keyring.Proofs.StoreChanges

/-!
# Live handles of a store

What one call does to the live handles of the whole pool is said by `Store.State.Turnover`: those of
the store's old entries give way to those of its new ones, all others stay, and some may be left
over that no entry leads to. They are left over exactly if a source stops the batch of a reload: the
keys that the batch has loaded by then are not released.
-/

namespace Keyring

namespace Batch

/-- A batch has no handle exactly if no source before the first that stops it is loaded. -/
theorem values_eq_nil_iff (reader : KeyReader) (files : FileSystem) (settings : Settings)
    (pool : KeyPool) (values : List Value) :
    (ofSources reader files settings pool values).1.keys.values = [] ↔
      loads (outcomes reader files settings values).1 = [] := by
  have hids := (ofSources_holds reader files settings pool values).ids
  generalize loads (outcomes reader files settings values).1 = done at hids ⊢
  have hkeys : ∀ keys : KeyId.Table Nat, keys.values = [] ↔ keys.keys = [] := by
    intro keys
    simp [KeyId.Table.values, KeyId.Table.keys]
  rw [hkeys, hids]
  cases done with
  | nil => simp
  | cons load rest => simp [List.eraseDups_cons]

end Batch

namespace Store

/-! ## What a store has and what it leaves -/

/-- The handles that the entries of a store lead to. -/
def handles (store : Store) : List Nat :=
  match store.keys with
  | none => []
  | some keys => keys.values

/-- The sources that a reload imports and the pool that it imports them into, unless it fails before
that. -/
def imported? (store : Store) (pool : KeyPool) (sources : Sources) :
    Option (KeyPool × List Value) :=
  match store.current, store.arrivals sources with
  | .ok _, .ok arrivals =>
    let listed := store.list pool arrivals
    match listed.result with
    | .error _ => none
    | .ok values => some (listed.pool, values)
  | _, _ => none

/-- The handles of the keys that a reload has loaded when a source stops its batch. -/
def stopped (reader : KeyReader) (files : FileSystem) (store : Store) (pool : KeyPool)
    (sources : Sources) : List Nat :=
  match store.imported? pool sources with
  | none => []
  | some (start, values) =>
    match Batch.ofSources reader files store.settings start values with
    | (batch, some _) => batch.keys.values
    | (_, none) => []

@[simp] theorem handles_empty (settings : Settings) (reporter : Reporter) :
    (Store.empty settings reporter).handles = [] := rfl

theorem handles_of_open {store : Store} {keys : KeyId.Table Nat} (h : store.keys = some keys) :
    store.handles = keys.values := by
  simp [handles, h]

theorem handles_of_closed {store : Store} (h : store.keys = none) : store.handles = [] := by
  simp [handles, h]

/-- A reload leaves nothing exactly if no source that it imports stops it, or none is loaded before.
-/
theorem stopped_eq_nil_iff {store : Store} {pool start : KeyPool} {sources : Sources}
    {values : List Value} (hi : store.imported? pool sources = some (start, values))
    (reader : KeyReader) (files : FileSystem) :
    store.stopped reader files pool sources = [] ↔
      (∀ raw ∈ values, ¬ SourceOutcome.Stops files store.settings raw) ∨
        Batch.loads (Batch.outcomes reader files store.settings values).1 = [] := by
  rw [← Batch.values_eq_nil_iff reader files store.settings start values,
    ← Batch.outcomes_complete_iff reader, ← Batch.ofSources_fault start]
  simp only [stopped, hi]
  cases Batch.ofSources reader files store.settings start values with
  | mk batch stop => cases stop <;> simp

namespace State

/-- What a call leaves of the keys that it has loaded. -/
def stopped (reader : KeyReader) (state : State) : Call → List Nat
  | .reload files sources => state.store.stopped reader files state.pool sources
  | _ => []

/-- How the live handles change with a store. -/
structure Turnover (before after : State) (left : List Nat) : Prop where
  live : ∀ index, after.pool.Live index ↔
    (before.pool.Live index ∧ index ∉ before.store.handles) ∨ index ∈ after.store.handles ∨
      index ∈ left
  own : ∀ index ∈ after.store.handles, index ∈ before.store.handles ∨ before.pool.length ≤ index
  left : ∀ index ∈ left, before.pool.length ≤ index ∧ index ∉ after.store.handles

namespace Turnover

variable {reader : KeyReader} {files : FileSystem} {state : State}

/-- A store that keeps its entries, all of them live. -/
theorem refl (h : ∀ index ∈ state.store.handles, state.pool.Live index) :
    Turnover state state [] where
  live index := by
    by_cases hm : index ∈ state.store.handles
    · simp [hm, h index hm]
    · simp [hm]
  own index hm := .inl hm
  left index hm := by cases hm

theorem teardown (store : Store) (pool : KeyPool) :
    Turnover ⟨store, pool⟩ ⟨(store.teardown pool).1, (store.teardown pool).2.1⟩ [] := by
  have hnone := handles_of_closed (keys_teardown store pool)
  constructor
  case live =>
    intro index
    simp only [hnone, List.not_mem_nil, or_false]
    cases hk : store.keys with
    | none => simp [teardown_of_closed hk, handles_of_closed hk]
    | some keys =>
      simp only [Store.teardown, hk, handles_of_open hk]
      exact KeyPool.live_releaseAll_iff pool keys.values index
  case own =>
    intro index hm
    simp [hnone] at hm
  case left =>
    intro index hm
    cases hm

theorem list {store : Store} {pool : KeyPool}
    (h : ∀ index ∈ store.handles, pool.Live index) (arrivals : List Arrival) :
    Turnover ⟨store, pool⟩
      ⟨(store.list pool arrivals).store, (store.list pool arrivals).pool⟩ [] := by
  rcases list_cases store pool arrivals with ⟨result, hl⟩ | ⟨result, hl⟩
  · rw [hl]
    exact .refl h
  · rw [hl]
    exact .teardown store pool

/-- What was live and not the store's own does not become its own. -/
theorem notMem_handles {before after : State} {left : List Nat} {index : Nat}
    (h : Turnover before after left) (hlive : before.pool.Live index)
    (hout : index ∉ before.store.handles) : index ∉ after.store.handles := by
  intro hm
  rcases h.own index hm with hm | hge
  · exact hout hm
  · exact absurd hlive.lt_length (Nat.not_lt.2 hge)

section Batch

variable {before after : State} {loads : List Load} {batch : Batch}

/-- A batch whose handles nobody takes. -/
theorem of_left (h : Turnover before after []) (hl : before.pool.length ≤ after.pool.length)
    (hb : Batch.Holds after.pool loads batch) :
    Turnover before ⟨after.store, batch.pool⟩ batch.keys.values where
  live index := by
    rw [hb.live_iff, h.live]
    simp [or_assoc]
  own := h.own
  left index hm := by
    refine ⟨Nat.le_trans hl (hb.le_of_mem_values hm), ?_⟩
    intro hafter
    have hlive : after.pool.Live index := (h.live index).2 (.inr (.inl hafter))
    exact hb.notMem_values hlive.lt_length hm

/-- A batch whose handles are released at once. -/
theorem of_released (h : Turnover before after []) (hb : Batch.Holds after.pool loads batch) :
    Turnover before ⟨after.store, batch.pool.releaseAll batch.keys.values⟩ [] where
  live index := by
    rw [KeyPool.live_releaseAll_iff, hb.live_iff, ← h.live]
    constructor
    · rintro ⟨hlive | hm, hout⟩
      · exact hlive
      · exact absurd hm hout
    · intro hlive
      exact ⟨.inl hlive, hb.notMem_values hlive.lt_length⟩
  own := h.own
  left index hm := by cases hm

/-- A batch whose handles take the place of the old ones. -/
theorem of_swapped {previous : KeyId.Table Nat}
    (h : ∀ index ∈ before.store.handles, before.pool.Live index)
    (hk : before.store.keys = some previous) (hb : Batch.Holds before.pool loads batch) :
    Turnover before
      ⟨{ before.store with keys := some batch.keys }, batch.pool.releaseAll previous.values⟩
      [] where
  live index := by
    rw [KeyPool.live_releaseAll_iff, hb.live_iff, handles_of_open hk, handles_of_open rfl]
    constructor
    · rintro ⟨hlive | hm, hout⟩
      · exact .inl ⟨hlive, hout⟩
      · exact .inr (.inl hm)
    · rintro (⟨hlive, hout⟩ | hm | hm)
      · exact ⟨.inl hlive, hout⟩
      · -- The old handles were there before the batch, so that none of the new ones is released.
        refine ⟨.inr hm, ?_⟩
        intro hprevious
        rw [handles_of_open hk] at h
        exact hb.notMem_values (h index hprevious).lt_length hm
      · cases hm
  own index hm := by
    rw [handles_of_open rfl] at hm
    exact .inr (hb.le_of_mem_values hm)
  left index hm := by cases hm

end Batch

/-- How the live handles change with a reload, however it ends. -/
theorem reload (h : ∀ index ∈ state.store.handles, state.pool.Live index) (sources : Sources) :
    Turnover state (state.next reader (.reload files sources))
      (state.stopped reader (.reload files sources)) := by
  have hends := reload_ends reader files state.store state.pool sources
  simp only [next, call, State.stopped]
  generalize state.store.reload reader files state.pool sources = outcome at hends ⊢
  -- Only a batch that is stopped leaves handles: else they are released, or taken by the entries.
  cases hends with
  | closed hk =>
    have hleft : state.store.stopped reader files state.pool sources = [] := by
      simp [Store.stopped, imported?, current, hk]
    rw [hleft]
    exact .refl h
  | unlistable hk ha =>
    have hleft : state.store.stopped reader files state.pool sources = [] := by
      simp [Store.stopped, imported?, current, hk, ha]
    rw [hleft]
    exact .refl h
  | unlisted hk ha hl hr =>
    subst hl
    have hleft : state.store.stopped reader files state.pool sources = [] := by
      simp [Store.stopped, imported?, current, hk, ha, hr]
    rw [hleft]
    exact .list h _
  | @stopped _ arrivals _ _ batch _ hk ha hl hr hb =>
    subst hl
    have hleft : state.store.stopped reader files state.pool sources = batch.keys.values := by
      simp [Store.stopped, imported?, current, hk, ha, hr, hb]
    rw [hleft]
    have hlength := length_list state.store state.pool arrivals
    exact (Turnover.list h arrivals).of_left (Nat.le_of_eq hlength.symm)
      (Batch.holds_of_ofSources hb)
  | tornDown hk ha hl hr _ hb =>
    subst hl
    have hleft : state.store.stopped reader files state.pool sources = [] := by
      simp [Store.stopped, imported?, current, hk, ha, hr, hb]
    rw [hleft]
    exact (Turnover.list h _).of_released (Batch.holds_of_ofSources hb)
  | swapped hk ha hl hb =>
    have hleft : state.store.stopped reader files state.pool sources = [] := by
      simp [Store.stopped, imported?, current, hk, ha, hl, hb]
    rw [hleft]
    exact .of_swapped h hk (Batch.holds_of_ofSources hb)

/-- How the live handles change with a call, whether it returns or fails. -/
theorem next (h : ∀ index ∈ state.store.handles, state.pool.Live index) (call : Call) :
    Turnover state (state.next reader call) (state.stopped reader call) := by
  cases call with
  | reload files sources => exact .reload h sources
  | teardown => exact .teardown state.store state.pool
  | decrypt => exact .refl h
  | get => exact .refl h
  | contains => exact .refl h
  | keyIds => exact .refl h
  | size => exact .refl h

end Turnover

end State

end Store

end Keyring
