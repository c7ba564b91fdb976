import Keyring.Proofs.ArrayItems
import Keyring.Proofs.Replacement

/-!
# The log of a reload and its report

Entries of the log and numbers of the report are made where a source comes to its outcome, and not
all outcomes make both. Two invariants say how they balance after any number of outcomes: the
entries about keys with the table (`KeysLogged`), and all entries with the outcomes and the report
(`Batch.Counted`). One more outcome keeps both, and a reload adds entries about no source only.
-/

namespace Keyring

/-! ## Entries about sources -/

namespace LogEntry

/-- What an entry about a source says. -/
inductive Template where
  | added
  | loadedAgain
  | failed
  | skipped
  deriving DecidableEq

/-- What an entry says, if it is about a source. -/
def template? : LogEntry → Option Template
  | .keyAdded _ => some .added
  | .keyLoadedAgain .. => some .loadedAgain
  | .sourceFailed .. => some .failed
  | .tokenSkipped _ => some .skipped
  | _ => none

/-- How many entries of a log say this. -/
def count (template : Template) (log : List LogEntry) : Nat :=
  log.countP fun entry => entry.template? = some template

@[simp] theorem count_nil (template : Template) : count template [] = 0 := rfl

@[simp] theorem count_append (template : Template) (log more : List LogEntry) :
    count template (log ++ more) = count template log + count template more :=
  List.countP_append

@[simp] theorem count_cons (template : Template) (entry : LogEntry) (log : List LogEntry) :
    count template (entry :: log) =
      count template log + if entry.template? = some template then 1 else 0 := by
  simp [count, List.countP_cons]

/-- Entries that say something else do not count. -/
theorem count_eq_zero {template : Template} {log : List LogEntry}
    (h : ∀ entry ∈ log, entry.template? ≠ some template) : count template log = 0 := by
  rw [count, List.countP_eq_zero]
  intro entry he
  simp [h entry he]

theorem level_ne_info {entry : LogEntry} (h : entry.isOfSource = true) : entry.level ≠ .info := by
  cases entry with
  | reloaded loaded skipped failed => cases h
  | _ => simp [level]

/-- Every key that is loaded again was added before. -/
def AddsBefore (log : List LogEntry) : Prop :=
  ∀ before id location after, log = before ++ .keyLoadedAgain id location :: after →
    .keyAdded id ∈ before

namespace AddsBefore

theorem nil : AddsBefore [] := by
  intro before id location after h
  cases before <;> cases h

/-- One more entry, which has the entry that it needs before it. -/
theorem concat {log : List LogEntry} (h : AddsBefore log) {entry : LogEntry}
    (he : ∀ id location, entry = .keyLoadedAgain id location → .keyAdded id ∈ log) :
    AddsBefore (log ++ [entry]) := by
  intro before id location after heq
  rcases List.eq_nil_or_concat after with rfl | ⟨others, last, rfl⟩
  · obtain ⟨rfl, hentry⟩ := List.append_inj' heq rfl
    exact he id location (List.singleton_inj.1 hentry)
  · rw [List.concat_eq_append, ← List.cons_append, ← List.append_assoc] at heq
    exact h before id location others (List.append_inj' heq rfl).1

/-- Further entries, none of them about a key that is loaded again. -/
theorem append {log more : List LogEntry} (h : AddsBefore log)
    (hm : ∀ entry ∈ more, entry.template? ≠ some .loadedAgain) : AddsBefore (log ++ more) := by
  induction more generalizing log with
  | nil => rwa [List.append_nil]
  | cons entry rest ih =>
    obtain ⟨hentry, hrest⟩ := List.forall_mem_cons.1 hm
    rw [List.append_cons]
    refine ih (h.concat ?_) hrest
    rintro id location rfl
    exact absurd rfl hentry

end AddsBefore

end LogEntry

open LogEntry (count AddsBefore)

/-! ## Keys -/

theorem KeyId.Table.length_insert {α : Type} (table : Table α) (id : KeyId) (value : α) :
    (table.insert id value).length = table.length + if id ∈ table.keys then 0 else 1 := by
  have hlength : ∀ entries : Table α, entries.length = entries.keys.length :=
    fun entries => (List.length_map _).symm
  rw [hlength, hlength table, keys_insert]
  split
  · rfl
  · rw [List.length_append, List.length_singleton]

/-- How a table and a log with entries about its keys balance. -/
structure KeysLogged (keys : KeyId.Table Nat) (log : List LogEntry) : Prop where
  loaded : count .added log = count .loadedAgain log + keys.length
  ids : ∀ id, id ∈ keys.keys ↔ .keyAdded id ∈ log
  order : AddsBefore log

namespace KeysLogged

variable {keys : KeyId.Table Nat} {log : List LogEntry}

theorem nil : KeysLogged [] [] where
  loaded := rfl
  ids := by simp [KeyId.Table.keys]
  order := .nil

/-- Further entries, none of them about a key. -/
theorem append (h : KeysLogged keys log) {more : List LogEntry}
    (hm : ∀ entry ∈ more, entry.template? ≠ some .added ∧ entry.template? ≠ some .loadedAgain) :
    KeysLogged keys (log ++ more) where
  loaded := by
    rw [LogEntry.count_append, LogEntry.count_append,
      LogEntry.count_eq_zero fun entry he => (hm entry he).1,
      LogEntry.count_eq_zero fun entry he => (hm entry he).2]
    exact h.loaded
  ids id := by
    rw [h.ids id, List.mem_append, or_iff_left fun hadded => (hm _ hadded).1 rfl]
  order := h.order.append fun entry he => (hm entry he).2

/-- One more key is a new one. -/
theorem addNew (h : KeysLogged keys log) {id : KeyId} (hm : id ∉ keys.keys) (index : Nat) :
    KeysLogged (keys.insert id index) (log ++ [.keyAdded id]) where
  loaded := by
    simp [LogEntry.template?, KeyId.Table.length_insert, hm, h.loaded]
    omega
  ids other := by
    rw [KeyId.Table.keys_insert, if_neg hm]
    simp [h.ids other]
  order := h.order.concat fun _ _ he => by cases he

/-- Or it is loaded again. -/
theorem addAgain (h : KeysLogged keys log) {id : KeyId} (hm : id ∈ keys.keys) (index : Nat)
    (location : String) :
    KeysLogged (keys.insert id index) (log ++ [.keyLoadedAgain id location, .keyAdded id]) where
  loaded := by
    simp [LogEntry.template?, KeyId.Table.length_insert, hm, h.loaded]
    omega
  ids other := by
    have hsame : other = id → .keyAdded other ∈ log := by
      rintro rfl
      exact (h.ids other).1 hm
    rw [KeyId.Table.keys_insert, if_pos hm]
    simpa [h.ids other] using hsame
  order := by
    have hagain : AddsBefore (log ++ [.keyLoadedAgain id location]) := by
      refine h.order.concat ?_
      intro other found he
      cases he
      exact (h.ids id).1 hm
    rw [List.append_cons]
    exact hagain.concat fun _ _ he => by cases he

end KeysLogged

/-! ## Batches -/

namespace Batch

/-- How log and report of a batch balance that has come to these outcomes. -/
structure Counted (settings : Settings) (done : List SourceOutcome) (batch : Batch) : Prop where
  sources : done.length = count .added batch.log + count .failed batch.log +
    count .skipped batch.log + done.countP SourceOutcome.isInvalid
  skipped : batch.report.skipped = count .skipped batch.log
  errors : batch.report.errors.length =
    count .failed batch.log + done.countP SourceOutcome.isInvalid +
      if settings.reportTokens then count .skipped batch.log else 0

/-- The entries that an outcome makes in a log. -/
def entries (batch : Batch) : SourceOutcome → List LogEntry
  | .invalid .. => []
  | .token source => [.tokenSkipped source.location]
  | .refused source fault => [.sourceFailed source.location fault]
  | .loaded source id _ =>
    if id ∈ batch.keys.keys then [.keyLoadedAgain id source.location, .keyAdded id]
    else [.keyAdded id]

theorem log_add (settings : Settings) (batch : Batch) (outcome : SourceOutcome) :
    (batch.add settings outcome).log = batch.log ++ batch.entries outcome := by
  cases outcome with
  | invalid location issues => exact (List.append_nil _).symm
  | token source => rfl
  | refused source fault => rfl
  | loaded source id key =>
    cases hf : batch.keys.find? id with
    | none => simp [add, addKey, entries, hf, KeyId.Table.find?_eq_none_iff.1 hf]
    | some previous =>
      have hm := KeyId.Table.mem_keys_of_mem (KeyId.Table.mem_of_find? hf)
      simp [add, addKey, entries, hf, hm]

variable {reader : KeyReader} {files : FileSystem} {settings : Settings}
  {done : List SourceOutcome} {batch : Batch}

/-- One more outcome keeps the balance of table and log. -/
theorem keysLogged_add (h : KeysLogged batch.keys batch.log) (outcome : SourceOutcome) :
    KeysLogged (batch.add settings outcome).keys (batch.add settings outcome).log := by
  rw [log_add]
  cases outcome with
  | invalid location issues => exact h.append fun entry he => by cases he
  | token source =>
    refine h.append fun entry he => ?_
    rw [List.mem_singleton.1 he]
    simp [LogEntry.template?]
  | refused source fault =>
    refine h.append fun entry he => ?_
    rw [List.mem_singleton.1 he]
    simp [LogEntry.template?]
  | loaded source id key =>
    rw [add, addKey_keys, entries]
    split
    · rename_i hm
      exact h.addAgain hm _ source.location
    · rename_i hm
      exact h.addNew hm _

/-- One more outcome keeps the balance of log and report. -/
theorem Counted.add (h : Counted settings done batch) (outcome : SourceOutcome) :
    Counted settings (done ++ [outcome]) (batch.add settings outcome) := by
  obtain ⟨hsources, hskipped, herrors⟩ := h
  obtain ⟨hlines, hskip⟩ := report_add settings batch outcome
  have hcount : ∀ template, count template (batch.add settings outcome).log =
      count template batch.log + count template (batch.entries outcome) := by
    intro template
    rw [log_add, LogEntry.count_append]
  constructor
  case sources =>
    rw [hcount, hcount, hcount, List.length_append, List.countP_append, hsources]
    cases outcome with
    | loaded source id key =>
      by_cases hm : id ∈ batch.keys.keys <;>
        simp [entries, hm, LogEntry.template?, SourceOutcome.isInvalid] <;> omega
    | _ =>
      simp [entries, LogEntry.template?, SourceOutcome.isInvalid]
      omega
  case skipped =>
    rw [hcount, hskip, hskipped]
    cases outcome with
    | loaded source id key =>
      by_cases hm : id ∈ batch.keys.keys <;>
        simp [entries, hm, LogEntry.template?, SourceOutcome.isSkipped]
    | _ => simp [entries, LogEntry.template?, SourceOutcome.isSkipped]
  case errors =>
    rw [hcount, hcount, hlines, List.length_append, List.countP_append, herrors]
    cases outcome with
    | loaded source id key =>
      by_cases hm : id ∈ batch.keys.keys <;>
        simp [entries, hm, LogEntry.template?, SourceOutcome.isInvalid, SourceOutcome.reportLine?]
    | token source =>
      cases hr : settings.reportTokens <;>
        simp [entries, LogEntry.template?, SourceOutcome.isInvalid, SourceOutcome.reportLine?, hr]
      omega
    | _ =>
      simp [entries, LogEntry.template?, SourceOutcome.isInvalid, SourceOutcome.reportLine?]
      omega

/-- And so does any number of outcomes. -/
theorem balanced_addAll (hk : KeysLogged batch.keys batch.log) (hc : Counted settings done batch)
    (outcomes : List SourceOutcome) :
    KeysLogged (outcomes.foldl (add settings) batch).keys
        (outcomes.foldl (add settings) batch).log ∧
      Counted settings (done ++ outcomes) (outcomes.foldl (add settings) batch) := by
  induction outcomes generalizing done batch with
  | nil =>
    rw [List.append_nil]
    exact ⟨hk, hc⟩
  | cons outcome rest ih =>
    rw [List.append_cons]
    exact ih (keysLogged_add hk outcome) (hc.add outcome)

theorem countP_isInvalid {values : List Value}
    (h : (outcomes reader files settings values).2 = none) :
    (outcomes reader files settings values).1.countP SourceOutcome.isInvalid =
      values.countP fun raw => !KeySource.isSource raw := by
  induction values with
  | nil => rfl
  | cons raw rest ih =>
    cases ho : SourceOutcome.ofValue reader files settings raw with
    | error fault => simp [outcomes, ho] at h
    | ok outcome =>
      simp only [outcomes, ho] at h
      simp [outcomes, ho, List.countP_cons, SourceOutcome.isSource_eq ho, ih h]

/-- A batch that comes to its end balances, and has counted its keys. -/
theorem balanced_of_ofSources {pool : KeyPool} {values : List Value}
    (h : ofSources reader files settings pool values = (batch, none)) :
    KeysLogged batch.keys batch.log ∧
      Counted settings (outcomes reader files settings values).1 batch ∧
      batch.report.loaded = batch.keys.length ∧
      (outcomes reader files settings values).1.length = values.length ∧
      (outcomes reader files settings values).1.countP SourceOutcome.isInvalid =
        values.countP fun raw => !KeySource.isSource raw := by
  have hcomplete : (outcomes reader files settings values).2 = none := by
    rw [← ofSources_fault pool, h]
  have hbatch := (Prod.mk.inj (h.symm.trans (ofSources_complete pool hcomplete))).1
  have hstart : Counted settings [] { pool := pool } := ⟨rfl, rfl, by simp⟩
  obtain ⟨hkeys, hcounted⟩ :=
    balanced_addAll .nil hstart (outcomes reader files settings values).1
  have hlength := congrArg List.length (map_ofValue_eq hcomplete)
  rw [List.length_map, List.length_map] at hlength
  refine ⟨?_, ?_, ?_, hlength.symm, countP_isInvalid hcomplete⟩
  · rw [hbatch]
    exact hkeys
  · rw [hbatch]
    exact ⟨hcounted.sources, hcounted.skipped, hcounted.errors⟩
  · rw [hbatch]
    rfl

end Batch

/-! ## Reloads -/

/-- The entry that an effect writes to the log. -/
def Effect.entry? : Effect → Option LogEntry
  | .log entry => some entry
  | _ => none

/-- The entries that effects write to the log. -/
def Effect.entries (effects : List Effect) : List LogEntry := effects.filterMap entry?

theorem Effect.entries_log (log : List LogEntry) : entries (log.map .log) = log := by
  rw [entries, List.filterMap_map]
  exact List.filterMap_some

namespace Store

/-- How the log of a reload, its report and the store that it leaves agree. -/
structure Reconciles (settings : Settings) (values : List Value) (report : Report)
    (log : List LogEntry) (store : Store) : Prop where
  sources : values.length = count .added log + count .failed log + count .skipped log +
    values.countP fun raw => !KeySource.isSource raw
  loaded : report.loaded = count .added log - count .loadedAgain log
  size : ∃ size : Nat, store.size = .ok size ∧ report.loaded = size
  skipped : report.skipped = count .skipped log
  errors : report.errors.length =
    count .failed log + (values.countP fun raw => !KeySource.isSource raw) +
      if settings.reportTokens then count .skipped log else 0
  ids : ∃ ids, store.keyIds = .ok ids ∧ ∀ id, id ∈ ids ↔ .keyAdded id ∈ log
  order : AddsBefore log
  summary : ∃ loaded skipped : Nat, report.loaded = loaded ∧ report.skipped = skipped ∧
    log.filter (fun entry => entry.level = .info) =
      [.reloaded loaded skipped report.errors.length]

/-- A reload that puts new keys in the place of the old ones has listed its sources, done nothing
else before, and loaded all of them. -/
theorem State.swap?_eq_some {reader : KeyReader} {files : FileSystem} {state : State}
    {sources : Sources} {values : List Value}
    (h : state.swap? reader (.reload files sources) = some (files, values)) :
    ∃ (arrivals : List Arrival) (previous : KeyId.Table Nat) (batch : Batch),
      state.store.arrivals sources = .ok arrivals ∧ state.store.keys = some previous ∧
        state.store.list state.pool arrivals = ⟨state.store, state.pool, [], .ok values⟩ ∧
        Batch.ofSources reader files state.store.settings state.pool values = (batch, none) := by
  simp only [swap?, listing?] at h
  cases ha : state.store.arrivals sources with
  | error failure => simp [ha] at h
  | ok arrivals =>
    cases hk : (state.store.list state.pool arrivals).store.keys with
    | none => simp [ha, hk] at h
    | some previous =>
      cases hr : (state.store.list state.pool arrivals).result with
      | error failure => simp [ha, hk, hr] at h
      | ok listed =>
        simp only [ha, hk, hr, Option.ite_none_right_eq_some, Option.some.injEq, Prod.mk.injEq,
          true_and] at h
        obtain ⟨hstop, rfl⟩ := h
        have hl := list_of_open hk
        rw [hr] at hl
        rw [hl] at hk
        exact ⟨arrivals, previous, _, rfl, hk, hl, Prod.ext rfl hstop⟩

/-- Such a reload writes the log of its batch, sums up and then tells the reporter. -/
theorem reload_of_swap? {reader : KeyReader} {files : FileSystem} {state : State}
    {sources : Sources} {values : List Value}
    (h : state.swap? reader (.reload files sources) = some (files, values)) :
    ∃ (batch : Batch) (pool : KeyPool),
      Batch.ofSources reader files state.store.settings state.pool values = (batch, none) ∧
        state.store.reload reader files state.pool sources =
          tell { store := { state.store with keys := some batch.keys }
                 pool := pool
                 effects := batch.log.map .log ++ [.log (.reloaded batch.report.loaded.toNat
                   batch.report.skipped.toNat batch.report.errors.length)]
                 result := .ok batch.report } := by
  obtain ⟨arrivals, previous, batch, ha, hk, hl, hb⟩ := State.swap?_eq_some h
  refine ⟨batch, batch.pool.releaseAll previous.values, hb, ?_⟩
  rw [reload_of_open hk]
  simp only [gather, ha, hl, hb, replace, hk, List.nil_append]

/-- Telling the reporter is no entry about a source, and not the one for the whole reload. -/
theorem entries_notify (reporter : Reporter) (report : Report) :
    ∀ entry ∈ Effect.entries (notify reporter report).1,
      entry.template? = none ∧ entry.level ≠ .info := by
  intro entry he
  rcases notify_cases reporter report with ⟨_, hn⟩ | ⟨_, effect, _, hnotice, hn⟩
  · rw [hn] at he
    cases he
  · rw [hn, Effect.entries, List.mem_filterMap] at he
    obtain ⟨told, hm, he⟩ := he
    obtain rfl := List.mem_singleton.1 hm
    cases told with
    | log found =>
      cases he
      cases entry with
      | failuresReported text => exact ⟨rfl, LogLevel.noConfusion⟩
      | _ => cases hnotice
    | _ => cases he

/-- The entries of a batch, one for the whole reload, and then others about no source. -/
theorem reconciles_of_ofSources {reader : KeyReader} {files : FileSystem} {settings : Settings}
    {pool : KeyPool} {values : List Value} {batch : Batch}
    (h : Batch.ofSources reader files settings pool values = (batch, none)) {store : Store}
    (hk : store.keys = some batch.keys) {told : List LogEntry}
    (ht : ∀ entry ∈ told, entry.template? = none ∧ entry.level ≠ .info) :
    Reconciles settings values batch.report (batch.log ++ .reloaded batch.report.loaded.toNat
      batch.report.skipped.toNat batch.report.errors.length :: told) store := by
  obtain ⟨hkeys, ⟨hsources, hskipped, herrors⟩, hcounted, hlength, hinvalid⟩ :=
    Batch.balanced_of_ofSources h
  rw [hlength, hinvalid] at hsources
  rw [hinvalid] at herrors
  generalize hs : LogEntry.reloaded batch.report.loaded.toNat batch.report.skipped.toNat
    batch.report.errors.length = summary
  have hother : ∀ entry ∈ summary :: told, entry.template? = none := by
    subst hs
    exact List.forall_mem_cons.2 ⟨rfl, fun entry he => (ht entry he).1⟩
  have hcount : ∀ template,
      count template (batch.log ++ summary :: told) = count template batch.log := by
    intro template
    have hzero : count template (summary :: told) = 0 :=
      LogEntry.count_eq_zero fun entry he => by simp [hother entry he]
    rw [LogEntry.count_append, hzero, Nat.add_zero]
  have hlogged : KeysLogged batch.keys (batch.log ++ summary :: told) :=
    hkeys.append fun entry he => by simp [hother entry he]
  constructor
  case sources => simp only [hcount, hsources]
  case loaded =>
    rw [hcounted, hlogged.loaded]
    omega
  case size => exact ⟨batch.keys.length, by simp [size, current, hk, Except.map], hcounted⟩
  case skipped => rw [hcount, hskipped]
  case errors => simp only [hcount, herrors]
  case ids =>
    exact ⟨batch.keys.keys, by simp [keyIds, current, hk, Except.map], hlogged.ids⟩
  case order => exact hlogged.order
  case summary =>
    have hbatch := Batch.isOfSource_ofSources reader files settings pool values
    rw [h] at hbatch
    have hnone : batch.log.filter (fun entry => entry.level = .info) = [] := by
      rw [List.filter_eq_nil_iff]
      intro entry he
      simpa using LogEntry.level_ne_info (hbatch entry he)
    have htold : told.filter (fun entry => entry.level = .info) = [] := by
      rw [List.filter_eq_nil_iff]
      intro entry he
      simpa using (ht entry he).2
    refine ⟨batch.keys.length, count .skipped batch.log, hcounted, hskipped, ?_⟩
    rw [List.filter_append, hnone, List.filter_cons, htold, ← hs, hcounted, hskipped]
    rfl

/-- The log of a reload that puts new keys in the place of the old ones, whatever sources are among
those that it lists, agrees with the report that it ends with and the store that it leaves. It ends
with the report of its batch: it returns it, or the reporter rejects it. -/
theorem reload_reconciles {reader : KeyReader} {files : FileSystem} {state : State}
    {sources : Sources} {values : List Value}
    (h : state.swap? reader (.reload files sources) = some (files, values)) :
    let outcome := state.store.reload reader files state.pool sources
    ∃ batch, Batch.ofSources reader files state.store.settings state.pool values = (batch, none) ∧
      outcome.result = (notify state.store.reporter batch.report).2 ∧
      Reconciles state.store.settings values batch.report (Effect.entries outcome.effects)
        outcome.store := by
  intro outcome
  obtain ⟨batch, pool, hb, hreload⟩ := reload_of_swap? h
  have houtcome : outcome = _ := hreload
  simp only [tell] at houtcome
  rw [houtcome]
  refine ⟨batch, hb, rfl, ?_⟩
  have hentries := Effect.entries_log batch.log
  simp only [Effect.entries, List.filterMap_append] at hentries ⊢
  rw [hentries, List.append_assoc]
  exact reconciles_of_ofSources hb rfl (entries_notify state.store.reporter batch.report)

/-- A reload of sources of all kinds, one of them with a key that is loaded again. -/
theorem reload_reconciles_small :
    let sources : Sources := .value (.list Batch.smallSources)
    let outcome := smallStart.store.reload Batch.smallReader Batch.smallFiles [] sources
    smallStart.swap? Batch.smallReader (.reload Batch.smallFiles sources) =
        some (Batch.smallFiles, Batch.smallSources) ∧
      ∃ batch, Batch.ofSources Batch.smallReader Batch.smallFiles .standard [] Batch.smallSources =
          (batch, none) ∧
        outcome.result = (notify .log batch.report).2 ∧
        Reconciles .standard Batch.smallSources batch.report (Effect.entries outcome.effects)
          outcome.store := by
  intro sources outcome
  have h : smallStart.swap? Batch.smallReader (.reload Batch.smallFiles sources) =
      some (Batch.smallFiles, Batch.smallSources) := rfl
  exact ⟨h, reload_reconciles h⟩

example :
    (Effect.entries (smallStart.store.reload Batch.smallReader Batch.smallFiles []
      (.value (.list Batch.smallSources))).effects).map LogEntry.template? =
        [some .added, some .skipped, some .added, some .failed, some .loadedAgain, some .added,
          none, none] := by
  decide

end Store

end Keyring
