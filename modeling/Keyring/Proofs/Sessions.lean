import Keyring.Context
import Keyring.Proofs.Outcomes
import Keyring.Proofs.StoreCalls

/-!
# Sessions

Calls that callers make of contexts, one after the other. A caller can use the contexts that it made
and those that `init` gave it; a context that `init` made before it failed is given to nobody.
-/

namespace Keyring

/-- The world, and the contexts that callers have. -/
structure Session where
  world : World := {}
  held : List Nat := []

namespace Session

/-- A call with its arguments. A call of one context names it by its index. -/
inductive Call where
  | init (files : FileSystem) (settings : Option Settings) (reporter : Reporter)
  | cleanup
  | create (settings : Settings) (reporter : Reporter)
  | register (type : Value) (handler : Handler)
  | dispatch (type data length : Value)
  | store (index : Nat) (call : Store.Call)
  | teardown (index : Nat)

/-- The context of an index, if callers have it. -/
def context? (session : Session) (index : Nat) : Option Context :=
  if index ∈ session.held then session.world.contexts[index]? else none

theorem of_context?_eq_some {session : Session} {index : Nat} {context : Context}
    (h : session.context? index = some context) :
    index ∈ session.held ∧ session.world.contexts[index]? = some context := by
  unfold context? at h
  split at h
  · exact ⟨‹_›, h⟩
  · cases h

/-- What a call of a store is a call of. -/
def storeState (session : Session) (context : Context) : Store.State :=
  ⟨context.store, session.world.pool⟩

/-- The session after a call, whether it returned or failed. What a caller does not have, it cannot
call. -/
def next (reader : KeyReader) (session : Session) : Call → Session
  | .init files settings reporter =>
    let outcome := session.world.init reader files settings reporter
    match outcome.result with
    | .error _ => ⟨outcome.world, session.held⟩
    | .ok index => ⟨outcome.world, index :: session.held⟩
  | .cleanup => { session with world := session.world.cleanup.1 }
  | .create settings reporter =>
    let (world, index) := session.world.create (.empty settings reporter)
    ⟨world, index :: session.held⟩
  | .register type handler =>
    { session with world := (session.world.register type handler).world }
  | .dispatch type data length =>
    { session with world := (session.world.dispatch type data length).world }
  | .store index call =>
    match session.context? index with
    | none => session
    | some context =>
      let outcome := (session.storeState context).call reader call
      { session with world := (session.world.afterStore index context outcome).world }
  | .teardown index =>
    match session.context? index with
    | none => session
    | some context => { session with world := (session.world.teardown index context).1 }

/-- The session after calls, one after the other. -/
def after (reader : KeyReader) (session : Session) (calls : List Call) : Session :=
  calls.foldl (next reader) session

theorem after_cons (reader : KeyReader) (session : Session) (call : Call) (rest : List Call) :
    session.after reader (call :: rest) = (session.next reader call).after reader rest := rfl

end Session

/-! ## Initialisation -/

namespace Store

/-- A new store reloads the sources of its settings: one of them stops the batch, or all its keys
are in the store. -/
theorem reload_configured (reader : KeyReader) (files : FileSystem) (settings : Settings)
    (reporter : Reporter) (pool : KeyPool) {batch : Batch} {stop : Option ValueFault}
    (hb : Batch.ofSources reader files settings pool (settings.keySources.map .source) =
      (batch, stop)) :
    ∃ effects, (empty settings reporter).reload reader files pool .configured =
      match stop with
      | some fault => ⟨.empty settings reporter, batch.pool, effects, .error (.unusable fault)⟩
      | none => ⟨⟨settings, reporter, some batch.keys⟩, batch.pool, effects,
          (notify reporter batch.report).2⟩ := by
  have hlist := list_sources (empty settings reporter) pool
    (settings.keySources.map .source)
  rw [List.map_map] at hlist
  have harrivals : (empty settings reporter).arrivals .configured =
      .ok (settings.keySources.map (Arrival.source ∘ Value.source)) := rfl
  have hempty : (empty settings reporter).settings = settings := rfl
  rw [reload_of_open rfl]
  simp only [gather, harrivals, hlist, hempty, hb]
  cases stop with
  | some fault => exact ⟨_, rfl⟩
  | none => exact ⟨_, rfl⟩

end Store

namespace World

/-- The ways in which an initialisation ends: a context is installed already; the settings name no
source; a source stops the batch of the new context; or the new context has the keys of the batch,
and then the reporter decides. -/
inductive InitEnds (reader : KeyReader) (files : FileSystem) (world : World) (settings : Settings)
    (reporter : Reporter) : Outcome Nat → Prop where
  | refused {installed : Nat} (hi : world.installed = some installed) :
    InitEnds reader files world settings reporter (world.unchanged (.error .contextInstalled))
  | bare {effects : List Effect} (hi : world.installed = none) (hs : settings.keySources = []) :
    InitEnds reader files world settings reporter
      ⟨{ world with
          contexts := world.contexts ++ [.empty settings reporter]
          installed := some world.contexts.length },
        effects, .ok world.contexts.length⟩
  | stopped {batch : Batch} {fault : ValueFault} {effects : List Effect}
    (hi : world.installed = none)
    (hb : Batch.ofSources reader files settings world.pool (settings.keySources.map .source) =
      (batch, some fault)) :
    InitEnds reader files world settings reporter
      ⟨{ world with
          pool := batch.pool
          contexts := world.contexts ++ [.empty settings reporter] },
        effects, .error (.unusable fault)⟩
  | rejected {batch : Batch} {failure : Failure} {effects : List Effect}
    (hi : world.installed = none)
    (hb : Batch.ofSources reader files settings world.pool (settings.keySources.map .source) =
      (batch, none))
    (hr : (Store.notify reporter batch.report).2 = .error failure) :
    InitEnds reader files world settings reporter
      ⟨{ world with
          pool := batch.pool
          contexts := world.contexts ++ [⟨.empty, ⟨settings, reporter, some batch.keys⟩⟩] },
        effects, .error failure⟩
  | loaded {batch : Batch} {report : Report} {effects : List Effect} (hi : world.installed = none)
    (hb : Batch.ofSources reader files settings world.pool (settings.keySources.map .source) =
      (batch, none))
    (hr : (Store.notify reporter batch.report).2 = .ok report) :
    InitEnds reader files world settings reporter
      ⟨{ world with
          pool := batch.pool
          contexts := world.contexts ++ [⟨.empty, ⟨settings, reporter, some batch.keys⟩⟩]
          installed := some world.contexts.length },
        effects, .ok world.contexts.length⟩

/-- A new context changed is a new context. -/
theorem setContext_create (world : World) (context changed : Context) :
    (world.create context).1.setContext (world.create context).2 changed =
      (world.create changed).1 := by
  simp [create, setContext]

/-- Every initialisation ends in one of these ways. -/
theorem init_ends (reader : KeyReader) (files : FileSystem) (world : World)
    (settings : Option Settings) (reporter : Reporter) :
    InitEnds reader files world (settings.getD .standard) reporter
      (world.init reader files settings reporter) := by
  cases hi : world.installed with
  | some installed =>
    simp only [init, hi]
    exact .refused hi
  | none =>
    generalize hs : settings.getD .standard = chosen
    simp only [init, hi, hs]
    split
    · rename_i hempty
      exact .bare hi (List.isEmpty_iff.1 hempty)
    · cases hb : Batch.ofSources reader files chosen world.pool (chosen.keySources.map .source) with
      | mk batch stop =>
        obtain ⟨effects, hreload⟩ :=
          Store.reload_configured reader files chosen reporter world.pool hb
        -- What becomes of the new store is what is made: nothing has come after its context.
        simp only [reload, afterStore, setContext_create]
        simp only [create, Context.empty, hreload]
        cases stop with
        | some fault => exact .stopped hi hb
        | none =>
          cases hr : (Store.notify reporter batch.report).2 with
          | error failure =>
            exact .rejected hi hb hr
          | ok report =>
            exact .loaded hi hb hr

end World

end Keyring
