import Keyring.Proofs.StoreChanges

/-!
# All or nothing

A reload gathers new keys, puts them in the place of the old ones, and then tells the reporter. It
either fails while it gathers, and then the old keys stay as they were and nobody is told; or all
old keys give way to the new ones, before the reporter is called. What the reporter does only
decides whether the reload fails after all.
-/

namespace Keyring

/-! ## Summaries and notices -/

namespace Effect

/-- The entry that stands in the log for a whole reload. -/
def summary? : Effect → Option LogEntry
  | .log entry => if entry.level = .info then some entry else none
  | _ => none

/-- What a reporter is told. -/
def notice? : Effect → Option String
  | .log (.failuresReported text) => some text
  | .report text _ => some text
  | _ => none

end Effect

/-- Whether an entry of the log is about one source of a batch. -/
def LogEntry.isOfSource : LogEntry → Bool
  | .tokenSkipped _ | .sourceFailed .. | .keyLoadedAgain .. | .keyAdded _ => true
  | _ => false

namespace Batch

/-- One more outcome adds nothing but entries about its source to the log. -/
theorem isOfSource_add {settings : Settings} {batch : Batch}
    (h : ∀ entry ∈ batch.log, entry.isOfSource = true) (outcome : SourceOutcome) :
    ∀ entry ∈ (batch.add settings outcome).log, entry.isOfSource = true := by
  intro entry he
  cases outcome with
  | invalid location issues => exact h entry he
  | token source =>
    rcases List.mem_append.1 he with he | he
    · exact h entry he
    · rw [List.mem_singleton.1 he]
      rfl
  | refused source fault =>
    rcases List.mem_append.1 he with he | he
    · exact h entry he
    · rw [List.mem_singleton.1 he]
      rfl
  | loaded source id key =>
    simp only [add, addKey] at he
    split at he
    · rcases List.mem_append.1 he with he | he
      · exact h entry he
      · rw [List.mem_singleton.1 he]
        rfl
    · rcases List.mem_append.1 he with he | he
      · exact h entry he
      · rcases List.mem_pair.1 he with rfl | rfl
        · rfl
        · rfl

theorem isOfSource_ofSources (reader : KeyReader) (files : FileSystem) (settings : Settings)
    (pool : KeyPool) (sources : List Value) :
    ∀ entry ∈ (ofSources reader files settings pool sources).1.log, entry.isOfSource = true := by
  have hadd : ∀ (outcomes : List SourceOutcome) (batch : Batch),
      (∀ entry ∈ batch.log, entry.isOfSource = true) →
        ∀ entry ∈ (outcomes.foldl (add settings) batch).log, entry.isOfSource = true := by
    intro outcomes
    induction outcomes with
    | nil => exact fun _ h => h
    | cons outcome rest ih => exact fun batch h => ih _ (isOfSource_add h outcome)
  have hall := hadd (outcomes reader files settings sources).1 { pool := pool }
    fun _ he => absurd he List.not_mem_nil
  unfold ofSources
  rw [addAll_eq]
  cases (outcomes reader files settings sources).2 with
  | some fault => exact hall
  | none => exact hall

end Batch

/-- The reason that a reporter gives if it rejects a report. -/
def Reporter.rejection? : Reporter → String → Option String
  | .log, _ => none
  | .caller rejection, text => rejection text

namespace Store

/-! ## Effects that are neither -/

/-- Effects among which there is neither a summary nor a notice. -/
structure Quiet (effects : List Effect) : Prop where
  summaries : effects.filterMap Effect.summary? = []
  notices : effects.filterMap Effect.notice? = []

namespace Quiet

theorem nil : Quiet [] := ⟨rfl, rfl⟩

theorem append {first second : List Effect} (h : Quiet first) (h' : Quiet second) :
    Quiet (first ++ second) where
  summaries := by rw [List.filterMap_append, h.summaries, h'.summaries, List.append_nil]
  notices := by rw [List.filterMap_append, h.notices, h'.notices, List.append_nil]

theorem of_isOfSource {log : List LogEntry} (h : ∀ entry ∈ log, entry.isOfSource = true) :
    Quiet (log.map .log) := by
  constructor
  case summaries =>
    rw [List.filterMap_map, List.filterMap_eq_nil_iff]
    intro entry he
    have hsource := h entry he
    cases entry <;> first | rfl | cases hsource
  case notices =>
    rw [List.filterMap_map, List.filterMap_eq_nil_iff]
    intro entry he
    have hsource := h entry he
    cases entry <;> first | rfl | cases hsource

theorem list (store : Store) (pool : KeyPool) (arrivals : List Arrival) :
    Quiet (store.list pool arrivals).effects := by
  rcases list_cases store pool arrivals with ⟨result, hl⟩ | ⟨result, hl⟩
  · rw [hl]
    exact .nil
  · rw [hl]
    unfold teardown
    split
    · exact .nil
    · exact ⟨rfl, rfl⟩

/-- Gathering neither sums up nor tells. -/
theorem gather (reader : KeyReader) (files : FileSystem) (store : Store) (pool : KeyPool)
    (sources : Sources) : Quiet (store.gather reader files pool sources).effects := by
  have hends := gather_ends reader files store pool sources
  generalize store.gather reader files pool sources = gathered at hends
  have hbatch : ∀ {start : KeyPool} {values : List Value} {batch : Batch}
      {stop : Option ValueFault},
      Batch.ofSources reader files store.settings start values = (batch, stop) →
        Quiet (batch.log.map .log) := by
    intro start values batch stop hb
    have hlog := Batch.isOfSource_ofSources reader files store.settings start values
    rw [hb] at hlog
    exact .of_isOfSource hlog
  cases hends with
  | unlistable _ => exact .nil
  | unlisted _ hl _ =>
    subst hl
    exact .list ..
  | stopped _ hl _ hb =>
    subst hl
    exact (Quiet.list ..).append (hbatch hb)
  | loaded _ hl _ hb =>
    subst hl
    exact (Quiet.list ..).append (hbatch hb)

end Quiet

/-! ## The three phases -/

/-- What a reload leaves that fails before it replaces any key. -/
structure Untouched (state : State) (outcome : Outcome Report) (failure : Failure) : Prop where
  store : outcome.store = state.store
  handles : ∀ index < state.pool.length, outcome.pool[index]? = state.pool[index]?
  quiet : Quiet outcome.effects
  result : outcome.result = .error failure

/-- What a reload has come to when the keys of a batch are in the place of the old ones, and the
reporter is not told yet. -/
structure Replaced (state : State) (previous : KeyId.Table Nat) (batch : Batch)
    (outcome : Outcome Report) : Prop where
  store : outcome.store = { state.store with keys := some batch.keys }
  released : ∀ index ∈ previous.values,
    ∃ handle, outcome.pool[index]? = some handle ∧ handle.released = true
  live : ∀ index ∈ batch.keys.values, outcome.pool.Live index
  summaries : outcome.effects.filterMap Effect.summary? =
    [.reloaded batch.report.loaded.toNat batch.report.skipped.toNat batch.report.errors.length]
  notices : outcome.effects.filterMap Effect.notice? = []
  result : outcome.result = .ok batch.report

/-- What a reload leaves whose listing tore the store down. -/
structure TornDown (state : State) (previous : KeyId.Table Nat) (outcome : Outcome Report) :
    Prop where
  store : outcome.store = { state.store with keys := none }
  released : ∀ index ∈ previous.values,
    ∃ handle, outcome.pool[index]? = some handle ∧ handle.released = true
  quiet : Quiet outcome.effects
  result : ∃ failure, outcome.result = .error failure

/-- What the call of the reporter makes of a reload that has replaced the keys. -/
structure Told (reporter : Reporter) (report : Report) (replaced outcome : Outcome Report) :
    Prop where
  store : outcome.store = replaced.store
  pool : outcome.pool = replaced.pool
  effects : ∃ told, outcome.effects = replaced.effects ++ told ∧
    told.filterMap Effect.summary? = [] ∧
    told.filterMap Effect.notice? = if report.errors = [] then [] else [report.format]
  result : outcome.result =
    match (if report.errors = [] then none else reporter.rejection? report.format) with
    | none => .ok report
    | some reason => .error (.reportRejected reason)

/-! ## Gathering -/

variable {reader : KeyReader} {files : FileSystem} {state : State} {sources : Sources}
  {previous : KeyId.Table Nat}

/-- What gathering comes to that leaves the store open: it only makes handles, and what it gathers
is the batch of the sources that are listed. -/
structure Gathered (reader : KeyReader) (files : FileSystem) (state : State) (sources : Sources)
    (gathered : Outcome Batch) : Prop where
  store : gathered.store = state.store
  old : ∀ index < state.pool.length, gathered.pool[index]? = state.pool[index]?
  batch : ∀ batch, gathered.result = .ok batch → gathered.pool = batch.pool ∧
    ∃ values, state.store.listing? state.pool sources = some values ∧
      Batch.ofSources reader files state.store.settings state.pool values = (batch, none)

theorem gather_of_open {keys : KeyId.Table Nat}
    (h : (state.store.gather reader files state.pool sources).store.keys = some keys) :
    Gathered reader files state sources
      (state.store.gather reader files state.pool sources) := by
  have hends := gather_ends reader files state.store state.pool sources
  generalize state.store.gather reader files state.pool sources = gathered at h hends ⊢
  cases hends with
  | unlistable _ => exact ⟨rfl, fun _ _ => rfl, fun _ hr => by cases hr⟩
  | unlisted _ hl _ =>
    subst hl
    rw [list_of_open h]
    exact ⟨rfl, fun _ _ => rfl, fun _ hr => by cases hr⟩
  | @stopped _ _ values _ _ _ hl _ hb =>
    subst hl
    rw [list_of_open h] at hb ⊢
    have hholds := Batch.holds_of_ofSources hb
    exact ⟨rfl, hholds.old, fun _ hr => by cases hr⟩
  | @loaded _ _ values _ ha hl hr hb =>
    subst hl
    -- The store is open, so that its listing did nothing but list.
    have hopen := list_of_open h
    rw [hr] at hopen
    rw [hopen] at h hb ⊢
    have hholds := Batch.holds_of_ofSources hb
    refine ⟨rfl, hholds.old, ?_⟩
    intro batch hbatch
    cases hbatch
    exact ⟨rfl, values, listing?_eq_some h ha hopen, hb⟩

/-- Only word of a teardown tears a store down while its sources are listed. -/
theorem teardown_mem_of_list {store : Store} {pool : KeyPool} {arrivals : List Arrival}
    (hk : store.keys = some previous) (hl : (store.list pool arrivals).store.keys = none) :
    Arrival.teardown ∈ arrivals := by
  induction arrivals with
  | nil => simp [list, hk] at hl
  | cons arrival rest ih =>
    cases arrival with
    | source value => exact List.mem_cons_of_mem _ (ih hl)
    | teardown => exact List.mem_cons_self
    | failure failure => simp [list, hk] at hl

/-- What arrives are sources only, unless it is a stream. -/
theorem arrivals_cases {store : Store} {arrivals : List Arrival}
    (ha : store.arrivals sources = .ok arrivals) :
    (∃ values : List Value, arrivals = values.map .source) ∨ sources = .stream arrivals := by
  unfold Store.arrivals at ha
  split at ha
  · cases ha
    exact .inl ⟨store.settings.keySources.map .source, by rw [List.map_map]; rfl⟩
  · cases ha
    exact .inl ⟨store.settings.keySources.map .source, by rw [List.map_map]; rfl⟩
  · split at ha
    · cases ha
    · cases ha
      exact .inl ⟨_, rfl⟩
  · cases ha
    exact .inr rfl

/-- Gathering that leaves the store closed has listed word of a teardown, and the handles of the old
keys are released. -/
theorem gather_of_closed (hk : state.store.keys = some previous)
    (h : (state.store.gather reader files state.pool sources).store.keys = none) :
    let gathered := state.store.gather reader files state.pool sources
    (∃ arrivals, sources = .stream arrivals ∧ Arrival.teardown ∈ arrivals) ∧
      gathered.store = { state.store with keys := none } ∧
      (∀ index < state.pool.length,
        gathered.pool[index]? = (state.pool.releaseAll previous.values)[index]?) ∧
      ∀ batch, gathered.result = .ok batch → ∀ index < state.pool.length,
        index ∉ batch.keys.values := by
  have hlist : ∀ arrivals, (state.store.list state.pool arrivals).store.keys = none →
      (state.store.list state.pool arrivals).store = { state.store with keys := none } ∧
        (state.store.list state.pool arrivals).pool = state.pool.releaseAll previous.values := by
    intro arrivals hnone
    rcases list_cases state.store state.pool arrivals with ⟨result, hl⟩ | ⟨result, hl⟩
    · simp [hl, hk] at hnone
    · rw [hl]
      simp [teardown, hk]
  have hstream : ∀ arrivals, state.store.arrivals sources = .ok arrivals →
      (state.store.list state.pool arrivals).store.keys = none →
        ∃ arrivals, sources = .stream arrivals ∧ Arrival.teardown ∈ arrivals := by
    intro arrivals ha hnone
    have hm := teardown_mem_of_list hk hnone
    rcases arrivals_cases ha with ⟨values, rfl⟩ | hs
    · obtain ⟨_, _, he⟩ := List.mem_map.1 hm
      cases he
    · exact ⟨arrivals, hs, hm⟩
  intro gathered
  have hends : GatherEnds reader files state.store state.pool sources gathered :=
    gather_ends reader files state.store state.pool sources
  change gathered.store.keys = none at h
  clear_value gathered
  cases hends with
  | unlistable _ =>
    rw [hk] at h
    cases h
  | unlisted ha hl _ =>
    subst hl
    obtain ⟨hstore, hpool⟩ := hlist _ h
    exact ⟨hstream _ ha h, hstore, fun _ _ => by rw [hpool], fun _ hr => by cases hr⟩
  | @stopped arrivals _ values _ _ ha hl _ hb =>
    subst hl
    obtain ⟨hstore, hpool⟩ := hlist _ h
    have hholds := Batch.holds_of_ofSources hb
    rw [hpool] at hholds
    refine ⟨hstream _ ha h, hstore, ?_, fun _ hr => by cases hr⟩
    intro index hi
    exact hholds.old index (by rwa [KeyPool.length_releaseAll])
  | @loaded arrivals _ values _ ha hl _ hb =>
    subst hl
    obtain ⟨hstore, hpool⟩ := hlist _ h
    have hholds := Batch.holds_of_ofSources hb
    rw [hpool] at hholds
    refine ⟨hstream _ ha h, hstore, ?_, ?_⟩
    · intro index hi
      exact hholds.old index (by rwa [KeyPool.length_releaseAll])
    · intro batch hbatch index hi
      cases hbatch
      exact hholds.notMem_values (by rwa [KeyPool.length_releaseAll])

/-! ## From one phase to the next -/

theorem tell_replace_of_error {gathered : Outcome Batch} {failure : Failure}
    (h : gathered.result = .error failure) :
    tell (replace gathered) = { gathered with result := .error failure } := by
  simp [replace, h, tell]

/-- The keys of a batch in the place of the old ones. -/
theorem Gathered.replaced {gathered : Outcome Batch} {batch : Batch}
    (h : Gathered reader files state sources gathered) (hquiet : Quiet gathered.effects)
    (hsound : state.Sound reader) (hk : state.store.keys = some previous)
    (hr : gathered.result = .ok batch) : Replaced state previous batch (replace gathered) := by
  obtain ⟨hpool, values, _, hb⟩ := h.batch batch hr
  have hholds := Batch.holds_of_ofSources hb
  have hold : ∀ index ∈ previous.values, index < state.pool.length :=
    fun _ => (hsound previous hk).lt_length
  have hkeys : gathered.store.keys = some previous := by rw [h.store, hk]
  simp only [replace, hr, hkeys, hpool]
  constructor
  case store => simp only [h.store]
  case released =>
    intro index hm
    have hsize := hholds.size
    have hi := hold index hm
    exact KeyPool.released_of_mem hm (by omega)
  case live =>
    intro index hm
    rw [KeyPool.live_releaseAll_iff]
    refine ⟨(hholds.live_iff index).2 (.inr hm), ?_⟩
    intro hprevious
    exact hholds.notMem_values (hold index hprevious) hm
  case summaries =>
    rw [List.filterMap_append, hquiet.summaries]
    rfl
  case notices =>
    rw [List.filterMap_append, hquiet.notices]
    rfl
  case result => rfl

/-- A report without a failed source is told to nobody; any other one is told once, and what the
reporter says to it decides. -/
theorem notify_cases (reporter : Reporter) (report : Report) :
    (report.errors = [] ∧ notify reporter report = ([], .ok report)) ∨
      (report.errors ≠ [] ∧ ∃ effect : Effect, effect.summary? = none ∧
        effect.notice? = some report.format ∧
        notify reporter report = ([effect],
          match reporter.rejection? report.format with
          | none => .ok report
          | some reason => .error (.reportRejected reason))) := by
  by_cases he : report.errors = []
  · exact .inl ⟨he, by simp [notify, Report.failed, he]⟩
  · have hfailed : report.failed = true := by simp [Report.failed, he]
    refine .inr ⟨he, ?_⟩
    simp only [notify, hfailed, if_true]
    cases reporter with
    | log => exact ⟨_, rfl, rfl, rfl⟩
    | caller rejection =>
      simp only [Reporter.rejection?]
      cases rejection report.format with
      | none => exact ⟨_, rfl, rfl, rfl⟩
      | some reason => exact ⟨_, rfl, rfl, rfl⟩

theorem told_of_ok {replaced : Outcome Report} {report : Report}
    (h : replaced.result = .ok report) :
    Told replaced.store.reporter report replaced (tell replaced) := by
  simp only [tell, h]
  rcases notify_cases replaced.store.reporter report with ⟨he, hn⟩ | ⟨he, effect, hs, ht, hn⟩
  · rw [hn]
    exact ⟨rfl, rfl, ⟨[], rfl, rfl, by simp [he]⟩, by simp [he]⟩
  · rw [hn]
    exact ⟨rfl, rfl, ⟨[effect], rfl, by simp [hs], by simp [he, ht]⟩, by simp [he]⟩

/-- A reload whose listing tears the store down fails, with all handles of the old keys released. -/
theorem tornDown_of_closed (hsound : state.Sound reader) (hk : state.store.keys = some previous)
    (h : (state.store.gather reader files state.pool sources).store.keys = none) :
    TornDown state previous
      (tell (replace (state.store.gather reader files state.pool sources))) := by
  obtain ⟨_, hstore, hpool, hnew⟩ := gather_of_closed hk h
  have hquiet := Quiet.gather reader files state.store state.pool sources
  generalize state.store.gather reader files state.pool sources = gathered
    at h hstore hpool hnew hquiet ⊢
  have hreleased : ∀ index ∈ previous.values,
      index < state.pool.length ∧
      ∃ handle, gathered.pool[index]? = some handle ∧ handle.released = true := by
    intro index hm
    have hi : index < state.pool.length := (hsound previous hk).lt_length hm
    rw [hpool index hi]
    exact ⟨hi, KeyPool.released_of_mem hm hi⟩
  cases hr : gathered.result with
  | error failure =>
    rw [tell_replace_of_error hr]
    exact ⟨hstore, fun index hm => (hreleased index hm).2, hquiet, failure, rfl⟩
  | ok batch =>
    simp only [replace, hr, h, tell]
    refine ⟨hstore, ?_, hquiet, .storeClosed, rfl⟩
    intro index hm
    obtain ⟨hi, hhandle⟩ := hreleased index hm
    -- The handles that are released now are those of the batch, which are all new.
    rwa [gathered.pool.getElem?_releaseAll_of_notMem (hnew batch hr index hi)]

/-! ## Whoever is told -/

/-- The store with another reporter. -/
def withReporter (store : Store) (reporter : Reporter) : Store :=
  { store with reporter := reporter }

section

variable (store : Store) (pool : KeyPool) (reporter : Reporter)

theorem teardown_withReporter :
    (store.withReporter reporter).teardown pool =
      ((store.teardown pool).1.withReporter reporter, (store.teardown pool).2) := by
  cases hk : store.keys <;> simp [teardown, withReporter, hk]

theorem list_withReporter (arrivals : List Arrival) :
    (store.withReporter reporter).list pool arrivals =
      { store.list pool arrivals with
        store := (store.list pool arrivals).store.withReporter reporter } := by
  induction arrivals generalizing store pool with
  | nil => rfl
  | cons arrival rest ih =>
    cases arrival with
    | source value => simp only [list, ih]
    | teardown => simp only [list, teardown_withReporter, ih]
    | failure failure => rfl

theorem arrivals_withReporter (sources : Sources) :
    (store.withReporter reporter).arrivals sources = store.arrivals sources := by
  cases sources with
  | value v => cases v <;> rfl
  | _ => rfl

theorem gather_withReporter (reader : KeyReader) (files : FileSystem) (sources : Sources) :
    (store.withReporter reporter).gather reader files pool sources =
      { store.gather reader files pool sources with
        store := (store.gather reader files pool sources).store.withReporter reporter } := by
  simp only [gather, arrivals_withReporter]
  cases store.arrivals sources with
  | error failure => rfl
  | ok arrivals =>
    simp only [list_withReporter]
    cases hr : (store.list pool arrivals).result with
    | error failure => rfl
    | ok values => rfl

end

theorem tell_leaves (replaced : Outcome Report) :
    (tell replaced).store = replaced.store ∧ (tell replaced).pool = replaced.pool := by
  unfold tell
  split
  · exact ⟨rfl, rfl⟩
  · exact ⟨rfl, rfl⟩

theorem replace_withReporter (gathered : Outcome Batch) (reporter : Reporter) :
    let again := replace { gathered with store := gathered.store.withReporter reporter }
    again.store.keys = (replace gathered).store.keys ∧ again.pool = (replace gathered).pool := by
  intro again
  simp only [again, replace, withReporter]
  cases gathered.result with
  | error failure => exact ⟨rfl, rfl⟩
  | ok batch => cases hk : gathered.store.keys <;> simp [hk]

/-- Keys and handles do not depend on who is told, and on what is said to it. -/
theorem reload_withReporter (reader : KeyReader) (files : FileSystem) (store : Store)
    (pool : KeyPool) (sources : Sources) (reporter : Reporter) :
    let again := (store.withReporter reporter).reload reader files pool sources
    again.store.keys = (store.reload reader files pool sources).store.keys ∧
      again.pool = (store.reload reader files pool sources).pool := by
  intro again
  cases hk : store.keys with
  | none => simp [again, reload, current, withReporter, hk]
  | some previous =>
    have hother : (store.withReporter reporter).keys = some previous := hk
    have hagain : again =
        tell (replace ((store.withReporter reporter).gather reader files pool sources)) :=
      reload_of_open hother reader files pool sources
    rw [hagain, reload_of_open hk, gather_withReporter, (tell_leaves _).1, (tell_leaves _).2,
      (tell_leaves _).1, (tell_leaves _).2]
    exact replace_withReporter _ reporter

/-! ## All or nothing -/

/-- A reload of an open store, after any calls. Unless its listing tears the store down, it either
fails while it gathers the new keys, and then it leaves the store and its handles untouched and
tells nobody; or the batch of all sources takes the place of the old keys, and then, if a source
failed, the reporter is told once. It fails then exactly if the reporter rejects the report, and
that changes neither keys nor handles. A listing that tears the store down is a stream with word of
it, and the reload fails. -/
theorem reload_all_or_nothing (reader : KeyReader) (settings : Settings) (reporter : Reporter)
    (pool : KeyPool) (calls : List Call) (files : FileSystem) (sources : Sources)
    {previous : KeyId.Table Nat}
    (hk : (State.after reader ⟨.empty settings reporter, pool⟩ calls).store.keys = some previous) :
    let state := State.after reader ⟨.empty settings reporter, pool⟩ calls
    let gathered := state.store.gather reader files state.pool sources
    let outcome := state.store.reload reader files state.pool sources
    (gathered.store.closed = false →
      (∀ failure, gathered.result = .error failure → Untouched state outcome failure) ∧
      ∀ batch, gathered.result = .ok batch →
        (∃ values, state.store.listing? state.pool sources = some values ∧
          Batch.ofSources reader files state.store.settings state.pool values = (batch, none)) ∧
        Replaced state previous batch (replace gathered) ∧
        Told state.store.reporter batch.report (replace gathered) outcome) ∧
    (gathered.store.closed = true →
      (∃ arrivals, sources = .stream arrivals ∧ Arrival.teardown ∈ arrivals) ∧
      TornDown state previous outcome) ∧
    ∀ other, let again := (state.store.withReporter other).reload reader files state.pool sources
      again.store.keys = outcome.store.keys ∧ again.pool = outcome.pool := by
  intro state gathered outcome
  have hsound : state.Sound reader := (State.Sound.empty reader settings reporter pool).after calls
  have houtcome : outcome = tell (replace gathered) := reload_of_open hk reader files _ sources
  have hquiet : Quiet gathered.effects := .gather ..
  change state.store.keys = some previous at hk
  refine ⟨?_, ?_, reload_withReporter reader files state.store state.pool sources⟩
  · intro hopen
    obtain ⟨keys, hkeys⟩ : ∃ keys, gathered.store.keys = some keys := by
      cases hg : gathered.store.keys with
      | none => simp [closed, hg] at hopen
      | some keys => exact ⟨keys, rfl⟩
    have hgathered : Gathered reader files state sources gathered := gather_of_open hkeys
    rw [houtcome]
    refine ⟨?_, ?_⟩
    · intro failure hr
      rw [tell_replace_of_error hr]
      exact ⟨hgathered.store, hgathered.old, hquiet, rfl⟩
    · intro batch hr
      have hreplaced := hgathered.replaced hquiet hsound hk hr
      refine ⟨(hgathered.batch batch hr).2, hreplaced, ?_⟩
      have htold := told_of_ok hreplaced.result
      rwa [hreplaced.store] at htold
  · intro hclosed
    have hg : gathered.store.keys = none := by simpa [closed] using hclosed
    rw [houtcome]
    exact ⟨(gather_of_closed hk hg).1, tornDown_of_closed hsound hk hg⟩

/-- A store with one key loads another one, and a location of no file stops the next reload: the
other key stays. -/
theorem stopped_reload_leaves_other_key :
    let state := smallStart.after Batch.smallReader [.reload Batch.smallFiles (smallSource "a"),
      .reload Batch.smallFiles (smallSource "b")]
    state.store.keys = some [(⟨List.replicate 20 5, rfl⟩, 1)] ∧
      Untouched state
        (state.store.reload Batch.smallReader Batch.smallFiles state.pool (smallSource "a\x00"))
        (.unusable .nulCharacter) := by
  intro state
  have hk : state.store.keys = some [(⟨List.replicate 20 5, rfl⟩, 1)] := rfl
  have h := reload_all_or_nothing Batch.smallReader .standard .log [] [.reload Batch.smallFiles
    (smallSource "a"), .reload Batch.smallFiles (smallSource "b")] Batch.smallFiles
    (smallSource "a\x00") hk
  exact ⟨hk, (h.1 rfl).1 _ rfl⟩

end Store

end Keyring
