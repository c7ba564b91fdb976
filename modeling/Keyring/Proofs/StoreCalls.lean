import Keyring.Store

/-!
# Calls of a store

Calls of all operations of a store, one after the other, each with the files as they are at its
time. A call leads from one state to the next; what a reload can lead to is said once, by
`Store.ReloadEnds`. A store that was torn down stays as it is.
-/

namespace Keyring.Store

/-! ## States and calls -/

/-- A store at some moment, with the pool of all handles. -/
structure State where
  store : Store
  pool : KeyPool

/-- A call of an operation with its arguments. -/
inductive Call where
  | reload (files : FileSystem) (sources : Sources)
  | decrypt (id ciphertext expected : Value)
  | get (id : Value)
  | contains (id : Value)
  | keyIds
  | size
  | teardown

/-- What a call returns. -/
inductive Reply where
  | report (report : Report)
  | message (message : Bytes)
  | handle (index : Option Nat)
  | contained (loaded : Bool)
  | ids (ids : List KeyId)
  | count (size : Nat)
  | done
  deriving DecidableEq

namespace State

/-- What a call that only looks leads to. -/
def answer (state : State) (result : Except Failure Reply) : Outcome Reply :=
  ⟨state.store, state.pool, [], result⟩

/-- What a call leads to. -/
def call (reader : KeyReader) (state : State) : Call → Outcome Reply
  | .reload files sources =>
    let outcome := state.store.reload reader files state.pool sources
    ⟨outcome.store, outcome.pool, outcome.effects, outcome.result.map .report⟩
  | .decrypt id ciphertext expected =>
    state.answer ((state.store.decrypt state.pool id ciphertext expected).map .message)
  | .get id => state.answer ((state.store.get id).map .handle)
  | .contains id => state.answer ((state.store.contains id).map .contained)
  | .keyIds => state.answer (state.store.keyIds.map .ids)
  | .size => state.answer (state.store.size.map .count)
  | .teardown =>
    let (store, pool, effects) := state.store.teardown state.pool
    ⟨store, pool, effects, .ok .done⟩

/-- The state after a call, whether it returned or failed. -/
def next (reader : KeyReader) (state : State) (call : Call) : State :=
  ⟨(state.call reader call).store, (state.call reader call).pool⟩

/-- The state after calls, one after the other. -/
def after (reader : KeyReader) (state : State) (calls : List Call) : State :=
  calls.foldl (next reader) state

theorem after_cons (reader : KeyReader) (state : State) (call : Call) (rest : List Call) :
    state.after reader (call :: rest) = (state.next reader call).after reader rest := rfl

/-- What each call keeps, all calls keep. -/
theorem after_induction {reader : KeyReader} {Keeps : State → Prop}
    (step : ∀ state call, Keeps state → Keeps (state.next reader call)) {state : State}
    (h : Keeps state) (calls : List Call) : Keeps (state.after reader calls) := by
  induction calls generalizing state with
  | nil => exact h
  | cons call rest ih =>
    rw [after_cons]
    exact ih (step state call h)

end State

/-! ## Identifiers -/

/-- What spells no identifier is refused as such. -/
theorem readKeyId_error {value : Value} {failure : Failure} (h : readKeyId value = .error failure) :
    ∃ invalid, failure = .invalidKeyId invalid := by
  cases hv : value.toKeyId with
  | error invalid =>
    rw [readKeyId, hv] at h
    cases h
    exact ⟨invalid, rfl⟩
  | ok id =>
    rw [readKeyId, hv] at h
    cases h

/-! ## Listings and reloads -/

theorem teardown_of_closed {store : Store} (h : store.keys = none) (pool : KeyPool) :
    store.teardown pool = (store, pool, []) := by
  simp [teardown, h]

theorem keys_teardown (store : Store) (pool : KeyPool) : (store.teardown pool).1.keys = none := by
  unfold teardown
  split
  · assumption
  · rfl

/-- A listing leaves the store as it is, or tears it down. -/
theorem list_cases (store : Store) (pool : KeyPool) (arrivals : List Arrival) :
    (∃ result, store.list pool arrivals = ⟨store, pool, [], result⟩) ∨
      ∃ result, store.list pool arrivals = ⟨(store.teardown pool).1, (store.teardown pool).2.1,
        (store.teardown pool).2.2, result⟩ := by
  induction arrivals generalizing store pool with
  | nil => exact .inl ⟨_, rfl⟩
  | cons arrival rest ih =>
    cases arrival with
    | source value =>
      rcases ih store pool with ⟨result, h⟩ | ⟨result, h⟩
      · exact .inl ⟨_, by rw [list, h]⟩
      · exact .inr ⟨_, by rw [list, h]⟩
    | teardown =>
      have hclosed := keys_teardown store pool
      rcases ih (store.teardown pool).1 (store.teardown pool).2.1 with ⟨result, h⟩ | ⟨result, h⟩
      · exact .inr ⟨result, by simp [list, h]⟩
      · -- The second teardown finds the store torn down.
        rw [teardown_of_closed hclosed] at h
        exact .inr ⟨result, by simp [list, h]⟩
    | failure failure => exact .inl ⟨_, rfl⟩

/-- The ways in which the sources of a reload are gathered: there is nothing to list; the listing
fails; a source stops the batch; or the batch comes to its end. -/
inductive GatherEnds (reader : KeyReader) (files : FileSystem) (store : Store) (pool : KeyPool)
    (sources : Sources) : Outcome Batch → Prop where
  | unlistable {failure : Failure} (ha : store.arrivals sources = .error failure) :
    GatherEnds reader files store pool sources ⟨store, pool, [], .error failure⟩
  | unlisted {arrivals : List Arrival} {listed : Outcome (List Value)} {failure : Failure}
    (ha : store.arrivals sources = .ok arrivals) (hl : store.list pool arrivals = listed)
    (hr : listed.result = .error failure) :
    GatherEnds reader files store pool sources
      ⟨listed.store, listed.pool, listed.effects, .error failure⟩
  | stopped {arrivals : List Arrival} {listed : Outcome (List Value)} {values : List Value}
    {batch : Batch} {fault : ValueFault} (ha : store.arrivals sources = .ok arrivals)
    (hl : store.list pool arrivals = listed) (hr : listed.result = .ok values)
    (hb : Batch.ofSources reader files store.settings listed.pool values = (batch, some fault)) :
    GatherEnds reader files store pool sources
      ⟨listed.store, batch.pool, listed.effects ++ batch.log.map .log, .error (.unusable fault)⟩
  | loaded {arrivals : List Arrival} {listed : Outcome (List Value)} {values : List Value}
    {batch : Batch} (ha : store.arrivals sources = .ok arrivals)
    (hl : store.list pool arrivals = listed) (hr : listed.result = .ok values)
    (hb : Batch.ofSources reader files store.settings listed.pool values = (batch, none)) :
    GatherEnds reader files store pool sources
      ⟨listed.store, batch.pool, listed.effects ++ batch.log.map .log, .ok batch⟩

/-- The sources of every reload are gathered in one of these ways. -/
theorem gather_ends (reader : KeyReader) (files : FileSystem) (store : Store) (pool : KeyPool)
    (sources : Sources) :
    GatherEnds reader files store pool sources (store.gather reader files pool sources) := by
  unfold gather
  cases ha : store.arrivals sources with
  | error failure => exact .unlistable ha
  | ok arrivals =>
    cases hr : (store.list pool arrivals).result with
    | error failure =>
      simp only [hr]
      exact .unlisted ha rfl hr
    | ok values =>
      simp only [hr]
      cases hb : Batch.ofSources reader files store.settings (store.list pool arrivals).pool
          values with
      | mk batch stop =>
        cases stop with
        | some fault => exact .stopped ha rfl hr hb
        | none => exact .loaded ha rfl hr hb

theorem reload_of_open {store : Store} {keys : KeyId.Table Nat} (h : store.keys = some keys)
    (reader : KeyReader) (files : FileSystem) (pool : KeyPool) (sources : Sources) :
    store.reload reader files pool sources =
      tell (replace (store.gather reader files pool sources)) := by
  simp [reload, current, h]

/-- The ways in which a reload ends: the store was torn down before; there is nothing to list; the
listing fails; a source stops the batch; the listing tore the store down; or the keys of the batch
are put in the place of the old ones, which only happens if the listing did nothing else. -/
inductive ReloadEnds (reader : KeyReader) (files : FileSystem) (store : Store) (pool : KeyPool)
    (sources : Sources) : Outcome Report → Prop where
  | closed (h : store.keys = none) :
    ReloadEnds reader files store pool sources ⟨store, pool, [], .error .storeClosed⟩
  | unlistable {keys : KeyId.Table Nat} {failure : Failure} (h : store.keys = some keys)
    (ha : store.arrivals sources = .error failure) :
    ReloadEnds reader files store pool sources ⟨store, pool, [], .error failure⟩
  | unlisted {keys : KeyId.Table Nat} {arrivals : List Arrival} {listed : Outcome (List Value)}
    {failure : Failure} (h : store.keys = some keys) (ha : store.arrivals sources = .ok arrivals)
    (hl : store.list pool arrivals = listed) (hr : listed.result = .error failure) :
    ReloadEnds reader files store pool sources
      ⟨listed.store, listed.pool, listed.effects, .error failure⟩
  | stopped {keys : KeyId.Table Nat} {arrivals : List Arrival} {listed : Outcome (List Value)}
    {values : List Value} {batch : Batch} {fault : ValueFault} (h : store.keys = some keys)
    (ha : store.arrivals sources = .ok arrivals) (hl : store.list pool arrivals = listed)
    (hr : listed.result = .ok values)
    (hb : Batch.ofSources reader files store.settings listed.pool values = (batch, some fault)) :
    ReloadEnds reader files store pool sources
      ⟨listed.store, batch.pool, listed.effects ++ batch.log.map .log, .error (.unusable fault)⟩
  | tornDown {keys : KeyId.Table Nat} {arrivals : List Arrival} {listed : Outcome (List Value)}
    {values : List Value} {batch : Batch} (h : store.keys = some keys)
    (ha : store.arrivals sources = .ok arrivals) (hl : store.list pool arrivals = listed)
    (hr : listed.result = .ok values) (hk : listed.store.keys = none)
    (hb : Batch.ofSources reader files store.settings listed.pool values = (batch, none)) :
    ReloadEnds reader files store pool sources
      ⟨listed.store, batch.pool.releaseAll batch.keys.values,
        listed.effects ++ batch.log.map .log, .error .storeClosed⟩
  | swapped {previous : KeyId.Table Nat} {arrivals : List Arrival} {values : List Value}
    {batch : Batch} (h : store.keys = some previous) (ha : store.arrivals sources = .ok arrivals)
    (hl : store.list pool arrivals = ⟨store, pool, [], .ok values⟩)
    (hb : Batch.ofSources reader files store.settings pool values = (batch, none)) :
    ReloadEnds reader files store pool sources
      ⟨{ store with keys := some batch.keys }, batch.pool.releaseAll previous.values,
        batch.log.map .log ++
          .log (.reloaded batch.report.loaded.toNat batch.report.skipped.toNat
            batch.report.errors.length) :: (notify store.reporter batch.report).1,
        (notify store.reporter batch.report).2⟩

/-- Every reload ends in one of these ways. -/
theorem reload_ends (reader : KeyReader) (files : FileSystem) (store : Store) (pool : KeyPool)
    (sources : Sources) :
    ReloadEnds reader files store pool sources (store.reload reader files pool sources) := by
  cases hk : store.keys with
  | none =>
    have he : store.reload reader files pool sources = ⟨store, pool, [], .error .storeClosed⟩ := by
      simp [reload, current, hk]
    rw [he]
    exact .closed hk
  | some keys =>
    rw [reload_of_open hk]
    have hends := gather_ends reader files store pool sources
    generalize store.gather reader files pool sources = gathered at hends
    cases hends with
    | unlistable ha => exact .unlistable hk ha
    | unlisted ha hl hr => exact .unlisted hk ha hl hr
    | stopped ha hl hr hb => exact .stopped hk ha hl hr hb
    | @loaded arrivals _ _ _ ha hl hr hb =>
      subst hl
      -- The keys can be replaced exactly if the listing left the store as it was.
      rcases list_cases store pool arrivals with ⟨result, hl⟩ | ⟨result, hl⟩
      · rw [hl] at hb hr
        simp only [hl, replace, hk, tell, List.nil_append, List.append_assoc]
        exact .swapped hk ha (hr ▸ hl) hb
      · have hc : (store.list pool arrivals).store.keys = none := by
          rw [hl]
          exact keys_teardown store pool
        simp only [replace, hc, tell]
        exact .tornDown hk ha rfl hr hc hb

/-! ## After a teardown -/

/-- Why a call fails whether or not the store was torn down: the identifier that comes with a
ciphertext is read before the store is looked at. -/
def Call.misspelt? : Call → Option Failure
  | .decrypt id _ _ =>
    match readKeyId id with
    | .error failure => some failure
    | .ok _ => none
  | _ => none

theorem Call.misspelt?_ne_storeClosed {call : Call} {failure : Failure}
    (h : call.misspelt? = some failure) : failure ≠ .storeClosed := by
  cases call with
  | decrypt id ciphertext expected =>
    cases hv : readKeyId id with
    | error found =>
      obtain ⟨invalid, rfl⟩ := readKeyId_error hv
      simp only [misspelt?, hv, Option.some.injEq] at h
      rw [← h]
      exact Failure.noConfusion
    | ok _ => simp [misspelt?, hv] at h
  | _ => cases h

/-- What a call comes to when the store was torn down. -/
def Call.closedResult : Call → Except Failure Reply
  | .teardown => .ok .done
  | call => .error (call.misspelt?.getD .storeClosed)

theorem Call.closedResult_of_ne {call : Call} (h : call ≠ .teardown) :
    call.closedResult = .error (call.misspelt?.getD .storeClosed) := by
  cases call <;> first | rfl | exact absurd rfl h

namespace State

/-- A store that was torn down has one answer to a call, and is left as it is. -/
theorem call_of_closed {state : State} (h : state.store.keys = none) (reader : KeyReader)
    (call : Call) : state.call reader call = state.answer call.closedResult := by
  have hc : state.store.current = .error .storeClosed := by simp [current, h]
  cases call with
  | reload files sources =>
    have he : state.store.reload reader files state.pool sources =
        ⟨state.store, state.pool, [], .error .storeClosed⟩ := by
      simp [reload, hc]
    simp only [State.call, he]
    rfl
  | decrypt id ciphertext expected =>
    -- The one call that looks at its argument before it looks at the store.
    cases hr : readKeyId id <;>
      simp [State.call, decrypt, hc, hr, Except.map, Call.closedResult, Call.misspelt?]
  | get id =>
    simp only [State.call, Store.get, hc]
    rfl
  | contains id =>
    simp only [State.call, Store.contains, hc]
    rfl
  | keyIds =>
    simp only [State.call, Store.keyIds, hc]
    rfl
  | size =>
    simp only [State.call, Store.size, hc]
    rfl
  | teardown =>
    simp only [State.call, teardown_of_closed h]
    rfl

theorem next_of_closed {state : State} (h : state.store.keys = none) (reader : KeyReader)
    (call : Call) : state.next reader call = state := by
  rw [next, call_of_closed h]
  rfl

theorem after_of_closed {state : State} (h : state.store.keys = none) (reader : KeyReader)
    (calls : List Call) : state.after reader calls = state := by
  have step : ∀ s call, s = state → s.next reader call = state := by
    rintro s call rfl
    exact next_of_closed h reader call
  exact after_induction step rfl calls

/-- After a teardown the store is closed for good, whatever it was before and whatever is called
since: store and pool stay as the teardown left them, and no call has an effect. A further teardown
returns. Every other call fails for the store is torn down, except that a decryption with something
that spells no identifier fails for that. -/
theorem closed_after_teardown (reader : KeyReader) (state : State) (calls : List Call)
    (call : Call) :
    let torn := state.next reader .teardown
    torn.after reader calls = torn ∧ torn.store.closed = true ∧
    torn.next reader call = torn ∧ (torn.call reader call).effects = [] ∧
    (call = .teardown → (torn.call reader call).result = .ok .done) ∧
    (call ≠ .teardown →
      ((torn.call reader call).result = .error .storeClosed ↔ call.misspelt? = none) ∧
      ∀ failure, call.misspelt? = some failure →
        (torn.call reader call).result = .error failure) := by
  intro torn
  have h : torn.store.keys = none := keys_teardown state.store state.pool
  have hcall := call_of_closed h reader call
  refine ⟨after_of_closed h reader calls, ?_, next_of_closed h reader call, ?_, ?_, ?_⟩
  · simp [closed, h]
  · rw [hcall]
    rfl
  · rintro rfl
    rw [hcall]
    rfl
  · intro hne
    rw [hcall, Call.closedResult_of_ne hne]
    cases hm : call.misspelt? with
    | none => simp [answer]
    | some failure =>
      have := Call.misspelt?_ne_storeClosed hm
      simp [answer, this]

/-- With a text that is no identifier, a decryption does not say that the store is torn down. -/
theorem decrypt_misspelt_after_teardown :
    let torn := State.next .standard ⟨.empty {} .log, []⟩ .teardown
    torn.store.closed = true ∧
      (torn.call .standard (.decrypt (.text "zz") (.buffer .fixed []) .null)).result =
        .error (.invalidKeyId (.notHex 0)) :=
  ⟨rfl, rfl⟩

end State

end Keyring.Store
