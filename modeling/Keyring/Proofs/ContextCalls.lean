import Keyring.Context
import Keyring.Failure.Kind
import Keyring.Proofs.DispatchTrace
import Keyring.Proofs.Replacement

/-!
# Calls of a context

What callers do with the registry and the store of a context that they have, and the helpers that do
the same with whichever context is installed. A call that tears nothing down leaves a store open
that is open; a store that is closed is left as it is by all calls. A helper does what the call does
that it is short for (`World.help_of_current`), and does not fail for want of a context where one is
installed (`World.not_isOfContext_of_use`).
-/

namespace Keyring

/-! ## Calls of one context -/

namespace Context

/-- A call of a context's registry or of its store. -/
inductive Call where
  | registry (call : Registry.Call Handler)
  | store (call : Store.Call)

/-- The context after a call. -/
def next (reader : KeyReader) (pool : KeyPool) (context : Context) : Call → Context
  | .registry call => { context with registry := (Handler.call context.registry call).registry }
  | .store call =>
    { context with store := (Store.State.call reader ⟨context.store, pool⟩ call).store }

end Context

/-- A call of whichever context is installed. -/
inductive Helper where
  | register (type : Value) (handler : Handler)
  | dispatch (type data length : Value)
  | decrypt (id ciphertext expected : Value)

/-- The call of a context that a helper is short for. -/
def Helper.call : Helper → Context.Call
  | .register type handler => .registry (.register type handler)
  | .dispatch type data length => .registry (.dispatch type data length)
  | .decrypt id ciphertext expected => .store (.decrypt id ciphertext expected)

namespace World

/-- An outcome with its result put in other terms. -/
def Outcome.map {First Second : Type} (f : First → Second) (outcome : Outcome First) :
    Outcome Second :=
  ⟨outcome.world, outcome.effects, outcome.result.map f⟩

/-- What a call of a context leads to. -/
def use (reader : KeyReader) (world : World) (index : Nat) (context : Context) :
    Context.Call → Outcome Store.Reply
  | .registry call =>
    (world.afterHandlers index context (Handler.call context.registry call)).map fun _ => .done
  | .store call =>
    world.afterStore index context (Store.State.call reader ⟨context.store, world.pool⟩ call)

/-- What a helper leads to. -/
def help (world : World) : Helper → Outcome Store.Reply
  | .register type handler => (world.register type handler).map fun _ => .done
  | .dispatch type data length => (world.dispatch type data length).map fun _ => .done
  | .decrypt id ciphertext expected =>
    world.unchanged ((world.decrypt id ciphertext expected).map .message)

end World

/-! ## Calls that tear nothing down -/

/-- No word of a teardown comes with the sources. -/
def Sources.Spares : Sources → Prop
  | .stream arrivals => Arrival.teardown ∉ arrivals
  | _ => True

/-- A call of a store that does not tear it down. -/
def Store.Call.Spares : Store.Call → Prop
  | .reload _ sources => sources.Spares
  | .teardown => False
  | _ => True

/-- A call of a context that does not tear its store down. -/
def Context.Call.Spares : Context.Call → Prop
  | .registry _ => True
  | .store call => call.Spares

theorem Helper.spares_call (helper : Helper) : helper.call.Spares := by
  cases helper <;> exact trivial

namespace Store

/-- A listing leaves a store open that is open, unless it brings word of a teardown. -/
theorem closed_list {store : Store} {sources : Sources} {arrivals : List Arrival}
    (h : sources.Spares) (ha : store.arrivals sources = .ok arrivals)
    {keys : KeyId.Table Nat} (hk : store.keys = some keys) (pool : KeyPool) :
    (store.list pool arrivals).store.closed = false := by
  cases hl : (store.list pool arrivals).store.keys with
  | some _ => simp [closed, hl]
  | none =>
    have hm := teardown_mem_of_list hk hl
    rcases arrivals_cases ha with ⟨values, rfl⟩ | rfl
    · obtain ⟨_, _, he⟩ := List.mem_map.1 hm
      cases he
    · exact absurd hm h

theorem closed_reload (reader : KeyReader) (files : FileSystem) (store : Store) (pool : KeyPool)
    {sources : Sources} (h : sources.Spares) :
    (store.reload reader files pool sources).store.closed = store.closed := by
  have hends := reload_ends reader files store pool sources
  have hopen : ∀ keys, store.keys = some keys → store.closed = false := by
    intro keys hk
    simp [closed, hk]
  generalize store.reload reader files pool sources = outcome at hends ⊢
  cases hends with
  | closed _ => rfl
  | unlistable _ _ => rfl
  | unlisted hk ha hl _ =>
    subst hl
    rw [closed_list h ha hk, hopen _ hk]
  | stopped hk ha hl _ _ =>
    subst hl
    rw [closed_list h ha hk, hopen _ hk]
  | tornDown hk ha hl _ hc _ =>
    subst hl
    have hlisted := closed_list h ha hk pool
    simp [closed, hc] at hlisted
  | swapped hk _ _ _ =>
    rw [hopen _ hk]
    rfl

/-- A call that tears nothing down leaves a store open that is open, and closed one that is closed.
-/
theorem closed_call (reader : KeyReader) (state : State) {call : Call} (h : call.Spares) :
    (state.call reader call).store.closed = state.store.closed := by
  cases call with
  | reload files sources => exact closed_reload reader files state.store state.pool h
  | teardown => exact absurd h id
  | _ => rfl

end Store

namespace Context

variable (reader : KeyReader) (pool : KeyPool) (context : Context)

theorem closed_next {call : Call} (h : call.Spares) :
    (context.next reader pool call).store.closed = context.store.closed := by
  cases call with
  | registry call => rfl
  | store call => exact Store.closed_call reader ⟨context.store, pool⟩ h

/-- A store that is closed is left as it is by all calls. -/
theorem store_next_of_closed {context : Context} (h : context.store.closed = true) (call : Call) :
    (context.next reader pool call).store = context.store := by
  cases call with
  | registry call => rfl
  | store call =>
    have hk : context.store.keys = none := Option.isNone_iff_eq_none.1 h
    have hcall := @Store.State.call_of_closed ⟨context.store, pool⟩ hk reader call
    simp only [next, hcall]
    rfl

end Context

/-! ## The installed context -/

namespace World

variable {world : World} {index : Nat} {context : Context}

theorem current_eq_ok_iff :
    world.current = .ok (index, context) ↔
      world.installed = some index ∧ world.contexts[index]? = some context := by
  constructor
  · intro h
    unfold current at h
    split at h
    · cases h
    · rename_i hi
      split at h
      · cases h
      · rename_i hc
        cases h
        exact ⟨hi, hc⟩
  · rintro ⟨hi, hc⟩
    simp [current, hi, hc]

theorem current_of_none (h : world.installed = none) : world.current = .error .noContext := by
  simp [current, h]

theorem setContext_self (h : world.contexts[index]? = some context) :
    world.setContext index context = world := by
  have hset : world.contexts.set index context = world.contexts := by
    obtain ⟨_, he⟩ := List.getElem?_eq_some_iff.1 h
    rw [← he, List.set_getElem_self]
  rw [setContext, hset]

/-! ### Calls and helpers -/

variable (reader : KeyReader)

theorem contexts_use (world : World) (index : Nat) (context : Context) (call : Context.Call) :
    (world.use reader index context call).world.contexts =
      world.contexts.set index (context.next reader world.pool call) := by
  cases call <;> rfl

theorem installed_use (world : World) (index : Nat) (context : Context) (call : Context.Call) :
    (world.use reader index context call).world.installed = world.installed := by
  cases call <;> rfl

/-- A helper does what the call does that it is short for. -/
theorem help_of_current (h : world.current = .ok (index, context)) (helper : Helper) :
    world.help helper = world.use reader index context helper.call := by
  cases helper with
  | register type handler =>
    simp only [help, World.register, h]
    rfl
  | dispatch type data length =>
    simp only [help, World.dispatch, h]
    rfl
  | decrypt id ciphertext expected =>
    have hself := setContext_self (current_eq_ok_iff.1 h).2
    simp only [help, World.decrypt, h, use, Helper.call, Store.State.call, Store.State.answer,
      afterStore, hself, unchanged]

theorem help_of_error {failure : Failure} (hc : world.current = .error failure)
    (helper : Helper) : world.help helper = world.unchanged (.error failure) := by
  cases helper with
  | register type handler =>
    simp only [help, World.register, hc]
    rfl
  | dispatch type data length =>
    simp only [help, World.dispatch, hc]
    rfl
  | decrypt id ciphertext expected =>
    simp only [help, World.decrypt, hc]
    rfl

end World

/-! ## Failures for want of a context -/

/-- Failures that say that a context is missing, or that one is installed already. -/
def Failure.IsOfContext (failure : Failure) : Prop := failure.kind? = some .context

@[simp] theorem Failure.isOfContext_iff {failure : Failure} :
    failure.IsOfContext ↔ failure = .contextInstalled ∨ failure = .noContext := by
  cases failure with
  | keyFile location fault =>
    simp only [IsOfContext, kind?, Option.some.injEq, reduceCtorEq, or_self, iff_false]
    cases fault <;> exact FailureKind.noConfusion
  | _ => simp [IsOfContext, kind?]

/-- A registration fails for its type only. -/
theorem Handler.not_isOfContext_of_register {registry : Registry Handler} {type : Value}
    {handler : Handler} {failure : Failure}
    (h : (register registry type handler).result = .error failure) : ¬ failure.IsOfContext := by
  simp only [register] at h
  split at h
  · cases h
    simp
  · cases h

theorem Handler.not_isOfContext_of_dispatchWithin (depth : Nat) {registry : Registry Handler}
    {type data length : Value} {failure : Failure}
    (h : (dispatchWithin depth registry type data length).result = .error failure) :
    ¬ failure.IsOfContext := by
  induction depth generalizing registry type data length with
  | zero =>
    cases h
    simp
  | succ depth ih =>
    simp only [dispatchWithin] at h
    split at h
    · cases h
      simp
    · cases h
    · split at h
      · cases h
      · cases h
        simp
      · cases h
      · exact ih h
      · exact not_isOfContext_of_register h

theorem KeyHandle.not_isOfContext_of_decrypt {handle : KeyHandle} {ciphertext expected : Value}
    {failure : Failure} (h : handle.decrypt ciphertext expected = .error failure) :
    ¬ failure.IsOfContext := by
  rcases kind_of_decrypt h with hk | hk <;> simp [Failure.IsOfContext, hk]

theorem Store.not_isOfContext_of_decrypt {store : Store} {pool : KeyPool}
    {id ciphertext expected : Value} {failure : Failure}
    (h : store.decrypt pool id ciphertext expected = .error failure) :
    ¬ failure.IsOfContext := by
  unfold decrypt at h
  split at h
  · rename_i hr
    obtain ⟨invalid, rfl⟩ := readKeyId_error hr
    cases h
    simp
  · unfold current at h
    split at h
    · rename_i hc
      split at hc
      · cases hc
        cases h
        simp
      · cases hc
    · split at h
      · cases h
        simp
      · exact KeyHandle.not_isOfContext_of_decrypt h

/-- A reporter fails a reload by its own failure only. -/
theorem Store.not_isOfContext_of_notify {reporter : Reporter} {report : Report} {failure : Failure}
    (h : (notify reporter report).2 = .error failure) : ¬ failure.IsOfContext := by
  unfold notify at h
  split at h
  · split at h
    · cases h
    · split at h
      · cases h
      · cases h
        simp
  · cases h

theorem error_of_map_eq_error {First Second : Type} {f : First → Second}
    {result : Except Failure First} {failure : Failure} (h : result.map f = .error failure) :
    result = .error failure := by
  cases result with
  | error found =>
    cases h
    rfl
  | ok value => cases h

/-- The calls that helpers are short for do not fail for want of a context. -/
theorem World.not_isOfContext_of_use {reader : KeyReader} {world : World} {index : Nat}
    {context : Context} {helper : Helper} {failure : Failure}
    (h : (world.use reader index context helper.call).result = .error failure) :
    ¬ failure.IsOfContext := by
  cases helper with
  | register type handler => exact Handler.not_isOfContext_of_register (error_of_map_eq_error h)
  | dispatch type data length =>
    exact Handler.not_isOfContext_of_dispatchWithin _ (error_of_map_eq_error h)
  | decrypt id ciphertext expected =>
    exact Store.not_isOfContext_of_decrypt (error_of_map_eq_error h)

end Keyring
