import Keyring.Proofs.StoreChanges

/-!
# The lifetime of a handle

A handle that a store gives out is that of its entry until the keys of the store are replaced or the
store is torn down. From then on it is released for good, also where the same key was loaded again,
for that made another handle.
-/

namespace Keyring.Store

/-- A store that gives out a handle is open, and has it under the identifier that was spelled. -/
theorem get_eq_some {store : Store} {value : Value} {index : Nat}
    (h : store.get value = .ok (some index)) :
    ∃ keys id, store.keys = some keys ∧ readKeyId value = .ok id ∧ keys.find? id = some index := by
  cases hk : store.keys with
  | none => simp [Store.get, current, hk] at h
  | some keys =>
    cases hv : readKeyId value with
    | error failure => simp [Store.get, current, hk, hv, Except.map] at h
    | ok id =>
      refine ⟨keys, id, rfl, rfl, ?_⟩
      simpa [Store.get, current, hk, hv, Except.map] using h

namespace State

variable (reader : KeyReader)

/-- A handle that is released stays so, whatever is called. -/
theorem released_after {state : State} {index : Nat} {id : KeyId}
    (h : state.pool[index]? = some ⟨id, none⟩) (calls : List Call) :
    (state.after reader calls).pool[index]? = some ⟨id, none⟩ := by
  have step : ∀ (s : State) call, s.pool[index]? = some ⟨id, none⟩ →
      (s.next reader call).pool[index]? = some ⟨id, none⟩ := by
    intro s call hs
    -- Releasing it once more changes nothing.
    rcases (next_changes reader s call).handle_cases hs with hn | hn
    · exact hn
    · exact hn
  exact after_induction step h calls

/-- What becomes of the handle of an entry. As long as calls neither swap nor tear down, the store
is as it was and so is the handle; after the first one that does, it is released. -/
theorem entry_after {state : State} {keys : KeyId.Table Nat} {id : KeyId} {index : Nat}
    {key : Rsa.PrivateKey} (hk : state.store.keys = some keys) (hm : (id, index) ∈ keys)
    (hp : state.pool[index]? = some ⟨id, some key⟩) (calls : List Call) :
    (state.lastSwap? reader calls = none ∧ (state.after reader calls).store = state.store ∧
      (state.after reader calls).pool[index]? = some ⟨id, some key⟩) ∨
    (((state.lastSwap? reader calls).isSome = true ∨
        (state.after reader calls).store.keys = none) ∧
      (state.after reader calls).pool[index]? = some ⟨id, none⟩) := by
  induction calls generalizing state with
  | nil => exact .inl ⟨rfl, rfl, hp⟩
  | cons call rest ih =>
    have hi : index < state.pool.length := (List.getElem?_eq_some_iff.1 hp).1
    have hv : index ∈ keys.values := List.mem_map.2 ⟨(id, index), hm, rfl⟩
    have hgone : (state.pool.releaseAll keys.values)[index]? = some ⟨id, none⟩ := by
      rw [KeyPool.getElem?_releaseAll, if_pos hv, hp]
      rfl
    have hchange := next_changes reader state call
    rw [after_cons, lastSwap?]
    generalize state.next reader call = next at hchange ⊢
    cases hchange with
    | swapped hprev hs hb =>
      cases hprev.symm.trans hk
      refine .inr ⟨.inl (by simp [hs]), released_after reader ?_ rest⟩
      exact (getElem?_swapped hb hi).trans hgone
    | tornDown hprev hs hpool =>
      cases hprev.symm.trans hk
      rw [after_of_closed rfl]
      exact .inr ⟨.inr rfl, (hpool index hi).trans hgone⟩
    | kept hs hpool =>
      simp only [hs, Option.or_none]
      exact ih hk ((hpool index hi).trans hp)

end State

/-- The lifetime of a handle that a store gave out after some calls. At any later time it has the
identifier that it was looked up by, and it is released exactly if the keys were replaced or the
store was torn down since. Until then it is what every look-up of that identifier gives; afterwards
it has no size, refuses every ciphertext, and stays as it is whatever is called. -/
theorem handle_lifetime (reader : KeyReader) (settings : Settings) (reporter : Reporter)
    (pool : KeyPool) (before since : List Call) {value : Value} {index : Nat}
    (hget : (State.after reader ⟨.empty settings reporter, pool⟩ before).store.get value =
      .ok (some index)) :
    let given := State.after reader ⟨.empty settings reporter, pool⟩ before
    let later := given.after reader since
    ∃ id handle, readKeyId value = .ok id ∧
      (∃ key, given.pool[index]? = some ⟨id, some key⟩) ∧
      later.pool[index]? = some handle ∧ handle.id = id ∧
      (handle.released = true ↔
        (given.lastSwap? reader since).isSome = true ∨ later.store.closed = true) ∧
      (handle.released = false → ∀ spelling, readKeyId spelling = .ok id →
        later.store.get spelling = .ok (some index)) ∧
      (handle.released = true → handle.bits = 0 ∧
        (∀ ciphertext expected,
          handle.decrypt ciphertext expected = .error (.decryption id .released)) ∧
        ∀ more, (later.after reader more).pool[index]? = some handle) := by
  intro given later
  have hsound : given.Sound reader := (State.Sound.empty reader settings reporter pool).after before
  change given.store.get value = .ok (some index) at hget
  clear_value given
  obtain ⟨keys, id, hk, hv, hf⟩ := get_eq_some hget
  have hm : (id, index) ∈ keys := KeyId.Table.mem_of_find? hf
  obtain ⟨key, hp, _⟩ := (hsound keys hk).live id index hm
  rcases State.entry_after reader hk hm hp since with ⟨hs, hstore, hlater⟩ | ⟨hs, hlater⟩
  · have hopen : later.store.closed = false := by simp [later, closed, hstore, hk]
    refine ⟨id, _, hv, ⟨key, hp⟩, hlater, rfl, ?_, ?_, ?_⟩
    · simp [hs, hopen, KeyHandle.released]
    · intro _ spelling hspelling
      simp [later, Store.get, current, hstore, hk, hspelling, hf, Except.map]
    · intro hr
      cases hr
  · refine ⟨id, _, hv, ⟨key, hp⟩, hlater, rfl, ?_, ?_, ?_⟩
    · simpa [KeyHandle.released, closed] using hs
    · intro hr
      cases hr
    · intro hr
      obtain ⟨hbits, hdecrypt⟩ := KeyHandle.of_released hr
      exact ⟨hbits, hdecrypt, State.released_after reader hlater⟩

/-- A key is loaded, and its file once more: the first handle is released all the same. -/
theorem lifetime_ends_with_same_file :
    let load : Call := .reload Batch.smallFiles (smallSource "a")
    let given := smallStart.after Batch.smallReader [load]
    given.store.get (.buffer .fixed (List.replicate 20 3)) = .ok (some 0) ∧
      ∃ handle, (given.after Batch.smallReader [load]).pool[0]? = some handle ∧
        handle.released = true := by
  intro load given
  have hget : given.store.get (.buffer .fixed (List.replicate 20 3)) = .ok (some 0) := rfl
  obtain ⟨_, handle, _, _, hlater, _, hreleased, _⟩ :=
    handle_lifetime Batch.smallReader .standard .log [] [load] [load] hget
  have hswap : (given.lastSwap? Batch.smallReader [load]).isSome = true := by decide
  exact ⟨hget, handle, hlater, hreleased.2 (.inl hswap)⟩

end Keyring.Store
