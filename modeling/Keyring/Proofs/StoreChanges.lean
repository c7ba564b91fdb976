import Keyring.Proofs.StoreEntries

/-!
# What calls do to the keys of a store

A call does one of three things to the keys of a store: it puts new ones in the place of all of
them, it tears the store down, or it leaves them as they are. `State.Change` says so once for all
calls, with what becomes of the handles that were there before. Which of the three a call does is
told by `State.swap?` and by whether the store is closed since.
-/

namespace Keyring.Store

/-! ## Swaps -/

/-- The sources that a listing comes to, unless it fails or tears the store down. -/
def listing? (store : Store) (pool : KeyPool) (sources : Sources) : Option (List Value) :=
  match store.arrivals sources with
  | .error _ => none
  | .ok arrivals =>
    let listed := store.list pool arrivals
    match listed.store.keys, listed.result with
    | some _, .ok values => some values
    | _, _ => none

/-- A listing that leaves the store open does nothing else to it. -/
theorem list_of_open {store : Store} {pool : KeyPool} {arrivals : List Arrival}
    {keys : KeyId.Table Nat} (h : (store.list pool arrivals).store.keys = some keys) :
    store.list pool arrivals = ⟨store, pool, [], (store.list pool arrivals).result⟩ := by
  rcases list_cases store pool arrivals with ⟨result, hl⟩ | ⟨result, hl⟩
  · rw [hl]
  · rw [hl, keys_teardown] at h
    cases h

theorem listing?_eq_some {store : Store} {pool : KeyPool} {sources : Sources}
    {arrivals : List Arrival} {keys : KeyId.Table Nat} {values : List Value}
    (hk : store.keys = some keys) (ha : store.arrivals sources = .ok arrivals)
    (hl : store.list pool arrivals = ⟨store, pool, [], .ok values⟩) :
    store.listing? pool sources = some values := by
  simp [listing?, ha, hl, hk]

namespace State

/-- The files and the sources with which a call puts new keys in the place of the old ones, if it
does: it is a reload, its sources are listed, and none of them stops the batch. -/
def swap? (reader : KeyReader) (state : State) : Call → Option (FileSystem × List Value)
  | .reload files sources =>
    match state.store.listing? state.pool sources with
    | none => none
    | some values =>
      if (Batch.ofSources reader files state.store.settings state.pool values).2 = none then
        some (files, values)
      else none
  | _ => none

/-- The files and the sources of the last call that puts new keys in the place of the old ones, if
there is one. -/
def lastSwap? (reader : KeyReader) (state : State) : List Call → Option (FileSystem × List Value)
  | [] => none
  | call :: rest =>
    ((state.next reader call).lastSwap? reader rest).or (state.swap? reader call)

/-! ## Changes -/

/-- What a call does to a store and to the handles that there are. -/
inductive Change (reader : KeyReader) (state : State) : Call → State → Prop where
  | swapped {files : FileSystem} {sources : Sources} {previous : KeyId.Table Nat}
    {values : List Value} {batch : Batch} (hk : state.store.keys = some previous)
    (hs : state.swap? reader (.reload files sources) = some (files, values))
    (hb : Batch.ofSources reader files state.store.settings state.pool values = (batch, none)) :
    Change reader state (.reload files sources)
      ⟨{ state.store with keys := some batch.keys }, batch.pool.releaseAll previous.values⟩
  | tornDown {call : Call} {keys : KeyId.Table Nat} {pool : KeyPool}
    (hk : state.store.keys = some keys) (hs : state.swap? reader call = none)
    (hp : ∀ index < state.pool.length, pool[index]? = (state.pool.releaseAll keys.values)[index]?) :
    Change reader state call ⟨{ state.store with keys := none }, pool⟩
  | kept {call : Call} {pool : KeyPool} (hs : state.swap? reader call = none)
    (hp : ∀ index < state.pool.length, pool[index]? = state.pool[index]?) :
    Change reader state call ⟨state.store, pool⟩

variable {reader : KeyReader} {files : FileSystem} {state : State}

/-- The handles of the old keys are released by a swap, and all other ones that there were are
left. -/
theorem getElem?_swapped {previous : List Nat} {values : List Value} {batch : Batch}
    (hb : Batch.ofSources reader files state.store.settings state.pool values = (batch, none))
    {index : Nat} (hi : index < state.pool.length) :
    (batch.pool.releaseAll previous)[index]? = (state.pool.releaseAll previous)[index]? := by
  have hholds := Batch.holds_of_ofSources hb
  rw [KeyPool.getElem?_releaseAll, KeyPool.getElem?_releaseAll, hholds.old index hi]

/-- A handle that there is stays as it is, or is released. -/
theorem Change.handle_cases {call : Call} {next : State} (h : Change reader state call next)
    {index : Nat} {handle : KeyHandle} (hh : state.pool[index]? = some handle) :
    next.pool[index]? = some handle ∨ next.pool[index]? = some handle.release := by
  have hi : index < state.pool.length := (List.getElem?_eq_some_iff.1 hh).1
  have hreleased := fun indices => state.pool.evolves_releaseAll indices index handle hh
  cases h with
  | swapped _ _ hb =>
    simp only [getElem?_swapped hb hi]
    exact hreleased _
  | tornDown _ _ hp =>
    simp only [hp index hi]
    exact hreleased _
  | kept _ hp => exact .inl ((hp index hi).trans hh)

/-- What a call that swaps nothing comes to when it lists sources first and then only makes
handles. -/
theorem Change.of_list {call : Call} {arrivals : List Arrival} {pool : KeyPool}
    (hs : state.swap? reader call = none)
    (hp : ∀ index < state.pool.length,
      pool[index]? = (state.store.list state.pool arrivals).pool[index]?) :
    Change reader state call ⟨(state.store.list state.pool arrivals).store, pool⟩ := by
  rcases list_cases state.store state.pool arrivals with ⟨result, hl⟩ | ⟨result, hl⟩
  · rw [hl] at hp ⊢
    exact .kept hs hp
  · rw [hl] at hp ⊢
    cases hk : state.store.keys with
    | none =>
      simp only [teardown_of_closed hk] at hp ⊢
      exact .kept hs hp
    | some keys =>
      simp only [teardown, hk] at hp ⊢
      exact .tornDown hk hs hp

theorem length_list (store : Store) (pool : KeyPool) (arrivals : List Arrival) :
    (store.list pool arrivals).pool.length = pool.length := by
  rcases list_cases store pool arrivals with ⟨result, hl⟩ | ⟨result, hl⟩
  · rw [hl]
  · rw [hl]
    unfold teardown
    split
    · rfl
    · exact KeyPool.length_releaseAll _ _

/-- A reload changes the keys of its store in one of the three ways. -/
theorem Change.reload (reader : KeyReader) (state : State) (files : FileSystem)
    (sources : Sources) :
    Change reader state (.reload files sources) (state.next reader (.reload files sources)) := by
  have hends := reload_ends reader files state.store state.pool sources
  simp only [next, call]
  generalize state.store.reload reader files state.pool sources = outcome at hends ⊢
  cases hends with
  | closed h =>
    refine .kept ?_ fun _ _ => rfl
    cases ha : state.store.arrivals sources with
    | error failure => simp [swap?, listing?, ha]
    | ok arrivals =>
      have hc : (state.store.list state.pool arrivals).store.keys = none := by
        rcases list_cases state.store state.pool arrivals with ⟨result, hl⟩ | ⟨result, hl⟩
        · rw [hl, h]
        · rw [hl, keys_teardown]
      simp [swap?, listing?, ha, hc]
  | unlistable _ ha => exact .kept (by simp [swap?, listing?, ha]) fun _ _ => rfl
  | unlisted _ ha hl hr =>
    subst hl
    exact .of_list (by simp [swap?, listing?, ha, hr]) fun _ _ => rfl
  | @stopped _ arrivals _ values batch fault _ ha hl hr hb =>
    subst hl
    have hholds := Batch.holds_of_ofSources hb
    refine .of_list ?_ fun index hi => hholds.old index (by rwa [length_list])
    cases hk : (state.store.list state.pool arrivals).store.keys with
    | none => simp [swap?, listing?, ha, hk]
    | some keys =>
      rw [list_of_open hk] at hb
      simp [swap?, listing?, ha, hk, hr, hb]
  | @tornDown _ arrivals _ values batch _ ha hl hr hk hb =>
    subst hl
    have hholds := Batch.holds_of_ofSources hb
    refine .of_list (by simp [swap?, listing?, ha, hk]) fun index hi => ?_
    rw [← length_list state.store state.pool arrivals] at hi
    rw [batch.pool.getElem?_releaseAll_of_notMem (hholds.notMem_values hi), hholds.old index hi]
  | swapped hk ha hl hb =>
    exact .swapped hk (by simp [swap?, listing?_eq_some hk ha hl, hb]) hb

/-- Every call changes the keys of its store in one of the three ways. -/
theorem next_changes (reader : KeyReader) (state : State) (call : Call) :
    Change reader state call (state.next reader call) := by
  cases call with
  | reload files sources => exact .reload reader state files sources
  | teardown =>
    cases hk : state.store.keys with
    | none =>
      rw [next_of_closed hk]
      exact .kept rfl fun _ _ => rfl
    | some keys =>
      simp only [next, State.call, Store.teardown, hk]
      exact .tornDown hk rfl fun _ _ => rfl
  | _ => exact .kept rfl fun _ _ => rfl

end State

/-! ## A small store -/

/-- A new store. -/
def smallStart : State := ⟨.empty .standard .log, []⟩

/-- One of the small files as the only source. -/
def smallSource (name : String) : Sources := .value (.list [.record [("location", .text name)]])

end Keyring.Store
