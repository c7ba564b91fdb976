import Keyring.Proofs.BatchResult
import Keyring.Proofs.ContextCalls
import Keyring.Proofs.Sessions

/-!
# The life of contexts

A context is installed by its initialisation and stays so until the next cleanup, which closes its
store for good. In between callers use the installed context, by name or not, and go on to use the
contexts that they were given before. As long as nobody tears a store down by hand, the installed
context is the one of all these whose store is open: `Session.Orderly` is this invariant.
-/

namespace Keyring

/-! ## Actions -/

namespace Session

/-- What a caller does. -/
inductive Action where
  | init (files : FileSystem) (settings : Option Settings) (reporter : Reporter)
  | cleanup
  | current
  | help (helper : Helper)
  | use (index : Nat) (call : Context.Call)

/-- The session after an action, whether it returned or failed. -/
def act (reader : KeyReader) (session : Session) : Action → Session
  | .init files settings reporter => session.next reader (.init files settings reporter)
  | .cleanup => session.next reader .cleanup
  | .current => session
  | .help helper => { session with world := (session.world.help helper).world }
  | .use index call =>
    match session.context? index with
    | none => session
    | some context => { session with world := (session.world.use reader index context call).world }

/-- The session after actions, one after the other. -/
def acted (reader : KeyReader) (session : Session) (actions : List Action) : Session :=
  actions.foldl (act reader) session

theorem acted_cons (reader : KeyReader) (session : Session) (action : Action)
    (rest : List Action) :
    session.acted reader (action :: rest) = (session.act reader action).acted reader rest := rfl

/-- An action that tears no store down, unless it is a cleanup. -/
def Action.Spares : Action → Prop
  | .use _ call => call.Spares
  | _ => True

end Session

/-! ## Cleanup -/

namespace World

variable {world : World} {index : Nat} {context : Context}

theorem cleanup_of_none (h : world.installed = none) : world.cleanup = (world, []) := by
  rw [cleanup, current_of_none h]
  simp [← h]

/-- The installed context gives up its handlers and its keys. -/
theorem cleanup_of_current (h : world.current = .ok (index, context)) :
    world.cleanup.1 =
      { pool := (context.store.teardown world.pool).2.1
        contexts := world.contexts.set index ⟨.empty, { context.store with keys := none }⟩
        installed := none } := by
  have hstore : (context.store.teardown world.pool).1 = { context.store with keys := none } := by
    obtain ⟨registry, settings, reporter, keys⟩ := context
    cases keys <;> rfl
  simp only [cleanup, h, teardown, setContext, hstore]

theorem installed_cleanup (world : World) : world.cleanup.1.installed = none := by
  unfold cleanup
  split <;> rfl

end World

/-! ## Initialisation -/

namespace World

/-- An initialisation can return: if its reporter accepts reports, it does exactly if none of its
sources stops a batch. -/
def Ready (reader : KeyReader) (world : World) : Prop :=
  ∀ (files : FileSystem) (settings : Option Settings) (reporter : Reporter), reporter.Accepts →
    ((∃ index, (world.init reader files settings reporter).result = .ok index) ↔
      ∀ source ∈ (settings.getD .standard).keySources,
        ¬ SourceOutcome.Stops files (settings.getD .standard) (.source source))

/-- An initialisation can return exactly if no context is installed. -/
theorem ready_iff (reader : KeyReader) (world : World) :
    world.Ready reader ↔ world.installed = none := by
  constructor
  · intro hready
    cases hi : world.installed with
    | none => rfl
    | some installed =>
      -- Settings without sources are refused like all others.
      obtain ⟨index, he⟩ := (hready .initial none .log trivial).2 (by simp [Settings.standard])
      simp [init, hi, unchanged] at he
  · intro hi files settings reporter accepts
    have hends := init_ends reader files world settings reporter
    generalize settings.getD .standard = chosen at hends ⊢
    generalize world.init reader files settings reporter = outcome at hends ⊢
    have hcomplete :=
      Batch.outcomes_complete_iff reader files chosen (chosen.keySources.map .source)
    rw [List.forall_mem_map, ← Batch.ofSources_fault world.pool] at hcomplete
    cases hends with
    | refused hinstalled => simp [hi] at hinstalled
    | bare _ hs => simp [hs]
    | stopped _ hb =>
      rw [hb] at hcomplete
      simp [← hcomplete]
    | rejected _ _ hr =>
      rw [Store.notify_ok accepts] at hr
      cases hr
    | loaded _ hb _ =>
      rw [hb] at hcomplete
      simpa using hcomplete

end World

/-- The keys of a batch are loaded from its sources. -/
theorem Batch.load_of_mem {reader : KeyReader} {files : FileSystem} {settings : Settings}
    {pool : KeyPool} {batch : Batch}
    (hb : ofSources reader files settings pool (settings.keySources.map .source) =
      (batch, none)) {id : KeyId} {handle : Nat} (hm : (id, handle) ∈ batch.keys) :
    pool.length ≤ handle ∧
      ∃ source ∈ settings.keySources, ∃ key,
        KeyFile.load reader files source.location source.credential settings.limit =
          .ok (id, key) ∧
        batch.pool[handle]? = some ⟨id, some key⟩ := by
  obtain ⟨hnew, key, hload, hhandle⟩ := (holds_of_ofSources hb).of_mem hm
  obtain ⟨outcome, ho, hl⟩ := List.mem_filterMap.1 hload
  obtain ⟨raw, hraw, hv⟩ := exists_of_mem_outcomes ho
  obtain ⟨source, hs, rfl⟩ := List.mem_map.1 hraw
  refine ⟨hnew, source, hs, key, ?_, hhandle⟩
  cases outcome with
  | loaded origin found other =>
    cases hl
    simp only [SourceOutcome.ofValue, KeySource.ofValue, SourceOutcome.ofSource] at hv
    split at hv
    · cases hv
    · split at hv
      · rename_i hload
        cases hv
        exact hload
      · cases hv
      · cases hv
  | _ => cases hl

/-! ## Orderly sessions -/

namespace Session

/-- The installed context is one that a caller has, and of all contexts that callers have it is the
one whose store is open. -/
structure Orderly (session : Session) : Prop where
  installed : ∀ index, session.world.installed = some index → index ∈ session.held
  closed_iff : ∀ index ∈ session.held, ∃ context, session.world.contexts[index]? = some context ∧
    (context.store.closed = true ↔ session.world.installed ≠ some index)

/-- A further context leaves all others where they are. -/
theorem getElem?_append_of_eq_some {contexts : List Context} {index : Nat} {context : Context}
    (h : contexts[index]? = some context) (added : Context) :
    (contexts ++ [added])[index]? = some context := by
  rw [List.getElem?_append_left (List.getElem?_eq_some_iff.1 h).1, h]

theorem context?_of_mem {session : Session} {index : Nat} {context : Context}
    (hi : index ∈ session.held) (hc : session.world.contexts[index]? = some context) :
    session.context? index = some context := by
  rw [context?, if_pos hi, hc]

namespace Orderly

variable {session : Session} {reader : KeyReader} {index : Nat} {context : Context}

theorem start : Orderly {} where
  installed _ h := by cases h
  closed_iff _ h := by cases h

/-- What is installed is current. -/
theorem exists_current (h : session.Orderly) (hi : session.world.installed = some index) :
    ∃ context, session.world.current = .ok (index, context) := by
  obtain ⟨context, hc, _⟩ := h.closed_iff index (h.installed index hi)
  exact ⟨context, World.current_eq_ok_iff.2 ⟨hi, hc⟩⟩

theorem context?_of_current (h : session.Orderly)
    (hc : session.world.current = .ok (index, context)) :
    session.context? index = some context := by
  obtain ⟨hi, hfound⟩ := World.current_eq_ok_iff.1 hc
  exact context?_of_mem (h.installed index hi) hfound

/-- The installed context is the open one. -/
theorem current_iff_open (h : session.Orderly) :
    session.world.current = .ok (index, context) ↔
      session.context? index = some context ∧ context.store.closed = false := by
  constructor
  · intro hc
    obtain ⟨hi, hfound⟩ := World.current_eq_ok_iff.1 hc
    obtain ⟨found, hf, hiff⟩ := h.closed_iff index (h.installed index hi)
    rw [hfound] at hf
    cases hf
    refine ⟨h.context?_of_current hc, ?_⟩
    rw [← Bool.not_eq_true, hiff]
    exact fun hne => hne hi
  · rintro ⟨hc, hopen⟩
    obtain ⟨hi, hfound⟩ := of_context?_eq_some hc
    obtain ⟨found, hf, hiff⟩ := h.closed_iff index hi
    rw [hfound] at hf
    cases hf
    have hinstalled : session.world.installed = some index := by
      by_contra hne
      rw [hiff.2 hne] at hopen
      cases hopen
    exact World.current_eq_ok_iff.2 ⟨hinstalled, hfound⟩

/-- A context changes that a caller has, and its store is left open or closed as it was. -/
theorem use (h : session.Orderly) (hc : session.context? index = some context)
    {call : Context.Call} (hs : call.Spares) :
    Orderly { session with world := (session.world.use reader index context call).world } := by
  obtain ⟨hi, hfound⟩ := of_context?_eq_some hc
  constructor
  case installed =>
    rw [World.installed_use]
    exact h.installed
  case closed_iff =>
    rw [World.contexts_use, World.installed_use]
    intro other ho
    obtain ⟨found, hf, hiff⟩ := h.closed_iff other ho
    by_cases hne : other = index
    · subst hne
      rw [hfound] at hf
      cases hf
      have hlt : other < session.world.contexts.length := (List.getElem?_eq_some_iff.1 hfound).1
      -- The call spares the store, which is thus as open as it was.
      refine ⟨_, List.getElem?_set_self hlt, ?_⟩
      rw [Context.closed_next reader _ _ hs]
      exact hiff
    · exact ⟨found, by rw [List.getElem?_set_ne (Ne.symm hne), hf], hiff⟩

theorem help (h : session.Orderly) (helper : Helper) :
    Orderly { session with world := (session.world.help helper).world } := by
  cases hi : session.world.installed with
  | none =>
    rw [World.help_of_error (World.current_of_none hi)]
    exact h
  | some index =>
    obtain ⟨context, hc⟩ := h.exists_current hi
    rw [World.help_of_current .standard hc]
    exact h.use (h.context?_of_current hc) helper.spares_call

theorem cleanup (h : session.Orderly) :
    Orderly { session with world := session.world.cleanup.1 } := by
  cases hi : session.world.installed with
  | none =>
    rw [World.cleanup_of_none hi]
    exact h
  | some index =>
    obtain ⟨context, hc⟩ := h.exists_current hi
    obtain ⟨_, hfound⟩ := World.current_eq_ok_iff.1 hc
    rw [World.cleanup_of_current hc]
    refine ⟨fun _ he => (by cases he), ?_⟩
    intro other ho
    obtain ⟨found, hf, hiff⟩ := h.closed_iff other ho
    by_cases hne : other = index
    · subst hne
      have hlt : other < session.world.contexts.length := (List.getElem?_eq_some_iff.1 hfound).1
      exact ⟨_, List.getElem?_set_self hlt, by simp [Store.closed]⟩
    · have hclosed : found.store.closed = true := by
        rw [hiff, hi]
        exact fun e => hne (Option.some.inj e).symm
      exact ⟨found, by rw [List.getElem?_set_ne (Ne.symm hne), hf], by simp [hclosed]⟩

/-- A context that nobody has does not matter. -/
theorem keep (h : session.Orderly) (hi : session.world.installed = none) (added : Context)
    (pool : KeyPool) :
    Orderly ⟨⟨pool, session.world.contexts ++ [added], none⟩, session.held⟩ where
  installed _ he := by cases he
  closed_iff other ho := by
    obtain ⟨found, hf, hiff⟩ := h.closed_iff other ho
    rw [hi] at hiff
    exact ⟨found, getElem?_append_of_eq_some hf added, hiff⟩

/-- A context is installed and given to a caller, with an open store. -/
theorem install (h : session.Orderly) (hi : session.world.installed = none) {added : Context}
    (hopen : added.store.closed = false) (pool : KeyPool) :
    Orderly ⟨⟨pool, session.world.contexts ++ [added], some session.world.contexts.length⟩,
      session.world.contexts.length :: session.held⟩ where
  installed index he := by
    cases he
    exact List.mem_cons_self
  closed_iff other ho := by
    rcases List.mem_cons.1 ho with rfl | ho
    · exact ⟨added, List.getElem?_concat_length, by simp [hopen]⟩
    · obtain ⟨found, hf, hiff⟩ := h.closed_iff other ho
      have hlt : other < session.world.contexts.length := (List.getElem?_eq_some_iff.1 hf).1
      -- Nothing was installed, so all stores that callers have are closed.
      have hclosed : found.store.closed = true := by
        rw [hiff, hi]
        exact nofun
      have hne : session.world.contexts.length ≠ other := by omega
      exact ⟨found, getElem?_append_of_eq_some hf added, by simp [hclosed, hne]⟩

theorem init (h : session.Orderly) (files : FileSystem) (settings : Option Settings)
    (reporter : Reporter) :
    Orderly (session.next reader (.init files settings reporter)) := by
  have hends := World.init_ends reader files session.world settings reporter
  simp only [next]
  generalize session.world.init reader files settings reporter = outcome at hends ⊢
  cases hends with
  | refused _ => exact h
  | bare hi _ => exact h.install hi rfl session.world.pool
  | @stopped batch _ _ hi _ =>
    have hkept := h.keep hi (.empty (settings.getD .standard) reporter) batch.pool
    simpa only [hi] using hkept
  | @rejected batch _ _ hi _ _ =>
    have hkept := h.keep hi ⟨.empty, ⟨settings.getD .standard, reporter, some batch.keys⟩⟩
      batch.pool
    simpa only [hi] using hkept
  | @loaded batch _ _ hi _ _ => exact h.install hi rfl batch.pool

theorem act (h : session.Orderly) {action : Action} (hs : action.Spares) :
    Orderly (session.act reader action) := by
  cases action with
  | init files settings reporter => exact h.init files settings reporter
  | cleanup => exact h.cleanup
  | current => exact h
  | help helper => exact h.help helper
  | use index call =>
    simp only [Session.act]
    cases hc : session.context? index with
    | none => exact h
    | some context => exact h.use hc hs

/-- As long as no store is torn down by hand, the installed context is the open one. -/
theorem acted (h : session.Orderly) {actions : List Action}
    (hs : ∀ action ∈ actions, action.Spares) : Orderly (session.acted reader actions) := by
  induction actions generalizing session with
  | nil => exact h
  | cons action rest ih =>
    obtain ⟨hfirst, hrest⟩ := List.forall_mem_cons.1 hs
    rw [acted_cons]
    exact ih (h.act hfirst) hrest

end Orderly

/-! ## Contexts that are no longer installed -/

/-- A context that a caller has and that is not installed, with a store that is closed. -/
structure Retired (session : Session) (index : Nat) (store : Store) : Prop where
  held : index ∈ session.held
  stored : ∃ context, session.world.contexts[index]? = some context ∧ context.store = store
  closed : store.closed = true
  out : session.world.installed ≠ some index

namespace Retired

variable {session : Session} {index : Nat} {store : Store} {reader : KeyReader}

theorem lt_length (h : session.Retired index store) : index < session.world.contexts.length := by
  obtain ⟨context, hc, _⟩ := h.stored
  exact (List.getElem?_eq_some_iff.1 hc).1

theorem use (h : session.Retired index store) {other : Nat} {context : Context}
    (hc : session.world.contexts[other]? = some context) (call : Context.Call) :
    Retired { session with world := (session.world.use reader other context call).world }
      index store where
  held := h.held
  stored := by
    obtain ⟨found, hf, hs⟩ := h.stored
    rw [World.contexts_use]
    by_cases hne : index = other
    · subst hne
      obtain rfl : found = context := Option.some.inj (hf.symm.trans hc)
      have hclosed : found.store.closed = true := by rw [hs, h.closed]
      refine ⟨_, List.getElem?_set_self h.lt_length, ?_⟩
      rw [Context.store_next_of_closed reader _ hclosed, hs]
    · exact ⟨found, by rw [List.getElem?_set_ne (Ne.symm hne), hf], hs⟩
  closed := h.closed
  out := by
    rw [World.installed_use]
    exact h.out

theorem help (h : session.Retired index store) (helper : Helper) :
    Retired { session with world := (session.world.help helper).world } index store := by
  cases hc : session.world.current with
  | error failure =>
    rw [World.help_of_error hc]
    exact h
  | ok found =>
    rw [World.help_of_current .standard hc]
    exact h.use (World.current_eq_ok_iff.1 hc).2 helper.call

theorem cleanup (h : session.Retired index store) :
    Retired { session with world := session.world.cleanup.1 } index store where
  held := h.held
  stored := by
    obtain ⟨found, hf, hs⟩ := h.stored
    cases hc : session.world.current with
    | error failure => exact ⟨found, by simpa only [World.cleanup, hc] using hf, hs⟩
    | ok current =>
      obtain ⟨hi, _⟩ := World.current_eq_ok_iff.1 hc
      have hne : current.1 ≠ index := fun e => h.out (e ▸ hi)
      rw [World.cleanup_of_current hc]
      exact ⟨found, by rw [List.getElem?_set_ne hne, hf], hs⟩
  closed := h.closed
  out := by
    rw [World.installed_cleanup]
    exact nofun

/-- A further context, which may be installed, is another one. -/
theorem append (h : session.Retired index store) (added : Context) (pool : KeyPool)
    {installed : Option Nat}
    (hi : installed = none ∨ installed = some session.world.contexts.length) {held : List Nat}
    (hheld : session.held ⊆ held) :
    Retired ⟨⟨pool, session.world.contexts ++ [added], installed⟩, held⟩ index store where
  held := hheld h.held
  stored := by
    obtain ⟨found, hf, hs⟩ := h.stored
    exact ⟨found, getElem?_append_of_eq_some hf added, hs⟩
  closed := h.closed
  out := by
    have hlt := h.lt_length
    rcases hi with rfl | rfl
    · exact nofun
    · intro he
      cases he
      exact Nat.lt_irrefl _ hlt

theorem init (h : session.Retired index store) (files : FileSystem) (settings : Option Settings)
    (reporter : Reporter) :
    Retired (session.next reader (.init files settings reporter)) index store := by
  have hends := World.init_ends reader files session.world settings reporter
  simp only [next]
  generalize session.world.init reader files settings reporter = outcome at hends ⊢
  cases hends with
  | refused _ => exact h
  | bare _ _ => exact h.append _ _ (.inr rfl) (List.subset_cons_self ..)
  | stopped hi _ => exact h.append _ _ (.inl hi) (List.Subset.refl _)
  | rejected hi _ _ => exact h.append _ _ (.inl hi) (List.Subset.refl _)
  | loaded _ _ _ => exact h.append _ _ (.inr rfl) (List.subset_cons_self ..)

theorem act (h : session.Retired index store) (action : Action) :
    Retired (session.act reader action) index store := by
  cases action with
  | init files settings reporter => exact h.init files settings reporter
  | cleanup => exact h.cleanup
  | current => exact h
  | help helper => exact h.help helper
  | use other call =>
    simp only [Session.act]
    cases hc : session.context? other with
    | none => exact h
    | some context => exact h.use (of_context?_eq_some hc).2 call

/-- Such a context is never installed again, and its store stays as it is. -/
theorem acted (h : session.Retired index store) (actions : List Action) :
    Retired (session.acted reader actions) index store := by
  induction actions generalizing session with
  | nil => exact h
  | cons action rest ih =>
    rw [acted_cons]
    exact ih (h.act action)

end Retired

/-! ## What each operation comes to -/

/-- What becomes of an initialisation. It is refused exactly if a context is installed, and then
nothing changes. Where it fails otherwise nothing is installed, and another one can return; where it
returns, a context is installed that nobody had before, without handlers and with no keys but those
of its own sources. -/
structure Initialised (reader : KeyReader) (session : Session) (files : FileSystem)
    (settings : Settings) (reporter : Reporter) (outcome : World.Outcome Nat) : Prop where
  refused_iff : (∃ failure, outcome.result = .error failure ∧ failure.IsOfContext) ↔
    ∃ index, session.world.installed = some index
  refused : ∀ index, session.world.installed = some index →
    outcome = session.world.unchanged (.error .contextInstalled)
  failed : session.world.installed = none → ∀ failure, outcome.result = .error failure →
    outcome.world.installed = none ∧ outcome.world.Ready reader
  installed : ∀ index, outcome.result = .ok index → index ∉ session.held ∧
    ∃ keys, outcome.world.current = .ok (index, ⟨.empty, ⟨settings, reporter, some keys⟩⟩) ∧
      ∀ id handle, (id, handle) ∈ keys → session.world.pool.length ≤ handle ∧
        ∃ source ∈ settings.keySources, ∃ key,
          KeyFile.load reader files source.location source.credential settings.limit =
            .ok (id, key) ∧
          outcome.world.pool[handle]? = some ⟨id, some key⟩
  others : ∀ (index : Nat) (context : Context), session.world.contexts[index]? = some context →
    outcome.world.contexts[index]? = some context

/-- What becomes of a cleanup. Nothing is installed then, and a further cleanup does nothing; the
context that was installed has no handlers left, and its store is closed and its keys are
released. -/
structure CleanedUp (world : World) : Prop where
  installed : world.cleanup.1.installed = none
  idempotent : world.cleanup.1.cleanup = (world.cleanup.1, [])
  idle : world.installed = none → world.cleanup = (world, [])
  closed : ∀ index context, world.current = .ok (index, context) →
    world.cleanup.1.contexts =
      world.contexts.set index ⟨.empty, { context.store with keys := none }⟩ ∧
    ∀ keys, context.store.keys = some keys →
      ∀ handle ∈ keys.values, ¬ world.cleanup.1.pool.Live handle

/-- What becomes of a helper. It fails for want of a context exactly if none is installed, and then
nothing changes; otherwise it does what the call does that it is short for. -/
structure Helped (reader : KeyReader) (world : World) (helper : Helper) : Prop where
  refused_iff : (∃ failure, (world.help helper).result = .error failure ∧ failure.IsOfContext) ↔
    world.installed = none
  refused : world.installed = none → world.help helper = world.unchanged (.error .noContext)
  acts : ∀ index context, world.current = .ok (index, context) →
    world.help helper = world.use reader index context helper.call

namespace Initialised

variable {reader : KeyReader} {session : Session} {files : FileSystem} {settings : Settings}
  {reporter : Reporter}

theorem of_refused {index : Nat} (hi : session.world.installed = some index) :
    Initialised reader session files settings reporter
      (session.world.unchanged (.error .contextInstalled)) where
  refused_iff := ⟨fun _ => ⟨index, hi⟩, fun _ => ⟨_, rfl, by simp⟩⟩
  refused _ _ := rfl
  failed hn := by simp [hn] at hi
  installed _ he := by cases he
  others _ _ hc := hc

/-- An initialisation that fails, with a context that nobody gets. -/
theorem of_failed (hi : session.world.installed = none) {failure : Failure}
    (hf : ¬ failure.IsOfContext) (added : Context) (pool : KeyPool) (effects : List Effect) :
    Initialised reader session files settings reporter
      ⟨⟨pool, session.world.contexts ++ [added], session.world.installed⟩, effects,
        .error failure⟩ where
  refused_iff := by
    rw [hi]
    constructor
    · rintro ⟨found, he, hfound⟩
      cases he
      exact absurd hfound hf
    · rintro ⟨index, he⟩
      cases he
  refused index he := by simp [hi] at he
  failed _ _ _ := ⟨hi, (World.ready_iff reader _).2 hi⟩
  installed _ he := by cases he
  others _ _ hc := getElem?_append_of_eq_some hc _

/-- An initialisation that returns, with a context that has keys of its own sources. -/
theorem of_installed (h : session.Orderly) (hi : session.world.installed = none)
    {keys : KeyId.Table Nat} {pool : KeyPool}
    (hkeys : ∀ id handle, (id, handle) ∈ keys → session.world.pool.length ≤ handle ∧
      ∃ source ∈ settings.keySources, ∃ key,
        KeyFile.load reader files source.location source.credential settings.limit =
          .ok (id, key) ∧ pool[handle]? = some ⟨id, some key⟩)
    (effects : List Effect) :
    Initialised reader session files settings reporter
      ⟨⟨pool, session.world.contexts ++ [⟨.empty, ⟨settings, reporter, some keys⟩⟩],
        some session.world.contexts.length⟩, effects, .ok session.world.contexts.length⟩ where
  refused_iff := by
    rw [hi]
    constructor
    · rintro ⟨failure, he, _⟩
      cases he
    · rintro ⟨index, he⟩
      cases he
  refused index he := by simp [hi] at he
  failed _ _ he := by cases he
  installed index he := by
    cases he
    refine ⟨?_, keys, ?_, hkeys⟩
    · intro hm
      obtain ⟨context, hc, _⟩ := h.closed_iff _ hm
      exact absurd (List.getElem?_eq_some_iff.1 hc).1 (Nat.lt_irrefl _)
    · exact World.current_eq_ok_iff.2 ⟨rfl, List.getElem?_concat_length⟩
  others _ _ hc := getElem?_append_of_eq_some hc _

/-- Every initialisation of an orderly session is as it should be. -/
theorem init (reader : KeyReader) (h : session.Orderly) (files : FileSystem)
    (settings : Option Settings) (reporter : Reporter) :
    Initialised reader session files (settings.getD .standard) reporter
      (session.world.init reader files settings reporter) := by
  have hends := World.init_ends reader files session.world settings reporter
  generalize settings.getD .standard = chosen at hends ⊢
  generalize session.world.init reader files settings reporter = outcome at hends ⊢
  cases hends with
  | refused hi => exact .of_refused hi
  | bare hi _ => exact .of_installed h hi (fun _ _ hm => by cases hm) _
  | stopped hi _ => exact .of_failed hi (by simp) _ _ _
  | rejected hi _ hr => exact .of_failed hi (Store.not_isOfContext_of_notify hr) _ _ _
  | loaded hi hb _ => exact .of_installed h hi (fun _ _ hm => Batch.load_of_mem hb hm) _

end Initialised

theorem CleanedUp.cleanup (world : World) : CleanedUp world where
  installed := world.installed_cleanup
  idempotent := World.cleanup_of_none world.installed_cleanup
  idle hi := World.cleanup_of_none hi
  closed index context hc := by
    rw [World.cleanup_of_current hc]
    refine ⟨rfl, ?_⟩
    intro keys hk handle hm hlive
    simp only [Store.teardown, hk] at hlive
    exact ((KeyPool.live_releaseAll_iff ..).1 hlive).2 hm

theorem Helped.help (reader : KeyReader) {session : Session} (h : session.Orderly)
    (helper : Helper) : Helped reader session.world helper where
  refused_iff := by
    constructor
    · rintro ⟨failure, he, hf⟩
      cases hi : session.world.installed with
      | none => rfl
      | some index =>
        obtain ⟨context, hc⟩ := h.exists_current hi
        rw [World.help_of_current reader hc] at he
        exact absurd hf (World.not_isOfContext_of_use he)
    · intro hi
      rw [World.help_of_error (World.current_of_none hi)]
      exact ⟨_, rfl, by simp⟩
  refused hi := World.help_of_error (World.current_of_none hi) helper
  acts index context hc := World.help_of_current reader hc helper

/-! ## The life of contexts -/

/-- After any actions that tear no store down by hand, the installed context is the one of those
that callers have whose store is open; it is missing only if none is installed. A context whose
store is closed stays so whatever is done since, and is not installed again. Initialisation, cleanup
and helpers are as they should be. -/
theorem lifecycle (reader : KeyReader) (actions : List Action)
    (hs : ∀ action ∈ actions, action.Spares) :
    let session := acted reader {} actions
    (∀ index context, session.world.current = .ok (index, context) ↔
      session.context? index = some context ∧ context.store.closed = false) ∧
    (∀ failure, session.world.current = .error failure ↔
      failure = .noContext ∧ session.world.installed = none) ∧
    (∀ index context, session.context? index = some context → context.store.closed = true →
      ∀ later, (session.acted reader later).world.installed ≠ some index ∧
        ∃ registry, (session.acted reader later).context? index =
          some ⟨registry, context.store⟩) ∧
    (session.world.Ready reader ↔ session.world.installed = none) ∧
    (∀ files settings reporter,
      Initialised reader session files (settings.getD .standard) reporter
        (session.world.init reader files settings reporter)) ∧
    CleanedUp session.world ∧ ∀ helper, Helped reader session.world helper := by
  intro session
  have h : session.Orderly := Orderly.start.acted hs
  refine ⟨fun _ _ => h.current_iff_open, ?_, ?_, World.ready_iff reader _, .init reader h,
    .cleanup _, .help reader h⟩
  · intro failure
    constructor
    · intro he
      cases hi : session.world.installed with
      | none =>
        rw [World.current_of_none hi] at he
        cases he
        exact ⟨rfl, rfl⟩
      | some index =>
        obtain ⟨context, hc⟩ := h.exists_current hi
        rw [hc] at he
        cases he
    · rintro ⟨rfl, hi⟩
      exact World.current_of_none hi
  · intro index context hc hclosed later
    obtain ⟨hi, hfound⟩ := of_context?_eq_some hc
    have hout : session.world.installed ≠ some index := by
      intro he
      have hopen := (h.current_iff_open.1 (World.current_eq_ok_iff.2 ⟨he, hfound⟩)).2
      rw [hclosed] at hopen
      cases hopen
    have hlater : (session.acted reader later).Retired index context.store :=
      Retired.acted ⟨hi, ⟨context, hfound, rfl⟩, hclosed, hout⟩ later
    obtain ⟨⟨registry, store⟩, hf, rfl⟩ := hlater.stored
    exact ⟨hlater.out, registry, context?_of_mem hlater.held hf⟩

/-- A file that there is and one that there is not, which are reported. -/
def smallSettings : Settings :=
  { Settings.standard with
    keySources := [⟨"a", "", by decide, by decide⟩, ⟨"d", "", by decide, by decide⟩] }

/-- An initialisation whose report is rejected, another one, use of its context, a cleanup and a
third one. -/
def smallActions : List Action :=
  [.init Batch.smallFiles (some smallSettings) (.caller fun _ => some "rejected"),
    .init Batch.smallFiles (some smallSettings) .log,
    .use 1 (.store (.reload Batch.smallFiles (.value (.list [.record [("location", .text "b")]])))),
    .help (.register (.int 5) ⟨"h", .rest⟩), .cleanup, .init Batch.smallFiles none .log]

theorem lifecycle_small :
    let session := acted Batch.smallReader {} smallActions
    (∀ action ∈ smallActions, action.Spares) ∧ session.world.installed = some 2 ∧
      session.held = [2, 1] ∧
      ∀ later, ∃ registry, (session.acted Batch.smallReader later).context? 1 =
        some ⟨registry, ⟨smallSettings, .log, none⟩⟩ := by
  intro session
  have hs : ∀ action ∈ smallActions, action.Spares := by
    simp [smallActions, Action.Spares, Context.Call.Spares, Store.Call.Spares, Sources.Spares]
  have hc : session.context? 1 = some ⟨.empty, ⟨smallSettings, .log, none⟩⟩ := rfl
  obtain ⟨_, _, hretired, _⟩ := lifecycle Batch.smallReader smallActions hs
  exact ⟨hs, rfl, rfl, fun later => (hretired 1 _ hc rfl later).2⟩

end Session

end Keyring
