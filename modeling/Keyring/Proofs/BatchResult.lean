import Keyring.Proofs.KeyPool
import Keyring.Proofs.KeyTable
import Keyring.Proofs.Outcomes
import Mathlib.Data.List.Induction

/-!
# What a batch comes to

The result of a batch, read off the outcomes of its sources. The handles that a batch makes stand at
the end of the pool, one for each key that was loaded, in the order of the sources; so the position
of a load says which handle is its own. `Batch.Holds` is the invariant: it describes pool and table
after any number of loads, and one more load keeps it (`Batch.Holds.addKey`).
-/

namespace Keyring

/-- A key that was loaded, under its identifier. -/
abbrev Load := KeyId × Rsa.PrivateKey

/-! ## The last load of an identifier -/

/-- The load at position `j` is that of `id` and `key`, and the last one of `id`. -/
def LastAt (loads : List Load) (j : Nat) (id : KeyId) (key : Rsa.PrivateKey) : Prop :=
  loads[j]? = some (id, key) ∧ ∀ k, j < k → ∀ later, loads[k]? = some later → later.1 ≠ id

theorem getElem?_concat_eq_some_iff {loads : List Load} {load found : Load} {j : Nat} :
    (loads ++ [load])[j]? = some found ↔
      loads[j]? = some found ∨ j = loads.length ∧ found = load := by
  rcases Nat.lt_trichotomy j loads.length with hlt | rfl | hgt
  · rw [List.getElem?_append_left hlt]
    exact ⟨.inl, fun h => h.resolve_right fun he => Nat.ne_of_lt hlt he.1⟩
  · simp [eq_comm]
  · have hout : (loads ++ [load])[j]? = none := by
      rw [List.getElem?_eq_none_iff, List.length_append, List.length_singleton]
      omega
    have hout' : loads[j]? = none := List.getElem?_eq_none (Nat.le_of_lt hgt)
    simp [hout, hout', Nat.ne_of_gt hgt]

namespace LastAt

variable {loads : List Load} {j : Nat} {id : KeyId} {key : Rsa.PrivateKey}

theorem lt_length (h : LastAt loads j id key) : j < loads.length :=
  (List.getElem?_eq_some_iff.1 h.1).1

/-- An identifier has one last load only. -/
theorem unique {k : Nat} {other : Rsa.PrivateKey} (h : LastAt loads j id key)
    (h' : LastAt loads k id other) : j = k := by
  rcases Nat.lt_trichotomy j k with hlt | heq | hgt
  · exact absurd rfl (h.2 k hlt _ h'.1)
  · exact heq
  · exact absurd rfl (h'.2 j hgt _ h.1)

/-- With one more load, the last loads are this one and the earlier ones of other identifiers. -/
theorem concat_iff (first : KeyId) (added : Rsa.PrivateKey) :
    LastAt (loads ++ [(first, added)]) j id key ↔
      LastAt loads j id key ∧ id ≠ first ∨ j = loads.length ∧ id = first ∧ key = added := by
  constructor
  · rintro ⟨hj, hl⟩
    rcases getElem?_concat_eq_some_iff.1 hj with hj | ⟨rfl, he⟩
    · have hlt : j < loads.length := (List.getElem?_eq_some_iff.1 hj).1
      refine .inl ⟨⟨hj, ?_⟩, ?_⟩
      · intro k hk later hlater
        exact hl k hk later (getElem?_concat_eq_some_iff.2 (.inl hlater))
      · intro e
        exact hl loads.length hlt _ (getElem?_concat_eq_some_iff.2 (.inr ⟨rfl, rfl⟩)) e.symm
    · cases he
      exact .inr ⟨rfl, rfl, rfl⟩
  · rintro (⟨⟨hj, hl⟩, hne⟩ | ⟨rfl, rfl, rfl⟩)
    · refine ⟨getElem?_concat_eq_some_iff.2 (.inl hj), ?_⟩
      intro k hk later hlater
      rcases getElem?_concat_eq_some_iff.1 hlater with hlater | ⟨_, rfl⟩
      · exact hl k hk later hlater
      · exact fun e => hne e.symm
    · refine ⟨getElem?_concat_eq_some_iff.2 (.inr ⟨rfl, rfl⟩), ?_⟩
      intro k hk later hlater
      have hlen := (List.getElem?_eq_some_iff.1 hlater).1
      rw [List.length_append, List.length_singleton] at hlen
      omega

/-- An identifier that was loaded has a last load. -/
theorem exists_of_mem (h : id ∈ loads.map Prod.fst) : ∃ j key, LastAt loads j id key := by
  induction loads using List.reverseRecOn with
  | nil => cases h
  | append_singleton rest load ih =>
    obtain ⟨first, added⟩ := load
    by_cases he : id = first
    · exact ⟨rest.length, added, (concat_iff first added).2 (.inr ⟨rfl, he, rfl⟩)⟩
    · have hm : id ∈ rest.map Prod.fst := by simpa [he] using h
      obtain ⟨j, key, hl⟩ := ih hm
      exact ⟨j, key, (concat_iff first added).2 (.inl ⟨hl, he⟩)⟩

end LastAt

/-! ## Handles and table -/

namespace Batch

/-- What a batch holds that began with a pool and has loaded keys since: the handles of the pool as
they were, a handle for each load after them, and a table of the identifiers in the order in which
they were first loaded. The table leads to the handle of an identifier's last load, which holds its
key; the handles of all other loads are released. -/
structure Holds (pool : KeyPool) (loads : List Load) (batch : Batch) : Prop where
  size : batch.pool.length = pool.length + loads.length
  old : ∀ index < pool.length, batch.pool[index]? = pool[index]?
  ids : batch.keys.keys = (loads.map Prod.fst).eraseDups
  last : ∀ j id key, LastAt loads j id key →
    batch.keys.find? id = some (pool.length + j) ∧
      batch.pool[pool.length + j]? = some ⟨id, some key⟩
  earlier : ∀ j id key, loads[j]? = some (id, key) → ¬ LastAt loads j id key →
    batch.pool[pool.length + j]? = some ⟨id, none⟩

theorem holds_start (pool : KeyPool) : Holds pool [] { pool := pool } where
  size := rfl
  old _ _ := rfl
  ids := rfl
  last _ _ _ h := absurd h.lt_length (Nat.not_lt_zero _)
  earlier _ _ _ h := by simp at h

namespace Holds

variable {pool : KeyPool} {loads : List Load} {batch : Batch}

/-- Report and log do not matter. -/
theorem congr {other : Batch} (h : Holds pool loads batch) (hp : other.pool = batch.pool)
    (hk : other.keys = batch.keys) : Holds pool loads other where
  size := hp ▸ h.size
  old := hp ▸ h.old
  ids := hk ▸ h.ids
  last := hp ▸ hk ▸ h.last
  earlier := hp ▸ h.earlier

/-- An identifier that the table has leads to its last load. -/
theorem find?_eq_some (h : Holds pool loads batch) {id : KeyId} {index : Nat}
    (hf : batch.keys.find? id = some index) :
    ∃ j key, index = pool.length + j ∧ LastAt loads j id key := by
  have hm : id ∈ loads.map Prod.fst := by
    have := KeyId.Table.mem_keys_of_mem (KeyId.Table.mem_of_find? hf)
    rwa [h.ids, List.mem_eraseDups] at this
  obtain ⟨j, key, hl⟩ := LastAt.exists_of_mem hm
  have hj := (h.last j id key hl).1
  rw [hf, Option.some.injEq] at hj
  exact ⟨j, key, hj, hl⟩

end Holds

theorem addKey_keys (batch : Batch) (source : KeySource) (id : KeyId) (key : Rsa.PrivateKey) :
    (batch.addKey source id key).keys = batch.keys.insert id batch.pool.length := by
  unfold addKey
  split <;> rfl

theorem length_addKey (batch : Batch) (source : KeySource) (id : KeyId) (key : Rsa.PrivateKey) :
    (batch.addKey source id key).pool.length = batch.pool.length + 1 := by
  unfold addKey
  split <;> simp [KeyPool.length_release, KeyPool.length_add]

/-- One more load makes one more handle, and releases the one that its identifier had. -/
theorem getElem?_addKey (batch : Batch) (source : KeySource) (id : KeyId) (key : Rsa.PrivateKey)
    (bounded : ∀ index, batch.keys.find? id = some index → index < batch.pool.length) :
    (batch.addKey source id key).pool[batch.pool.length]? = some ⟨id, some key⟩ ∧
      ∀ index < batch.pool.length, (batch.addKey source id key).pool[index]? =
        if batch.keys.find? id = some index then batch.pool[index]?.map KeyHandle.release
        else batch.pool[index]? := by
  have hnext : (batch.pool.add id key)[batch.pool.length]? = some ⟨id, some key⟩ :=
    batch.pool.getElem?_add_next id key
  cases hf : batch.keys.find? id with
  | none =>
    refine ⟨by simpa [addKey, hf] using hnext, fun index hi => ?_⟩
    simp [addKey, hf, KeyPool.getElem?_add_of_lt batch.pool id key hi]
  | some previous =>
    have hp := bounded previous hf
    refine ⟨?_, fun index hi => ?_⟩
    · simp only [addKey, hf, KeyPool.getElem?_release, if_neg (Nat.ne_of_lt hp)]
      exact hnext
    · simp only [addKey, hf, KeyPool.getElem?_release, Option.some.injEq,
        KeyPool.getElem?_add_of_lt batch.pool id key hi]

/-- One more identifier is one more different one only if it was not there before. -/
theorem eraseDups_concat (ids : List KeyId) (id : KeyId) :
    (ids ++ [id]).eraseDups = if id ∈ ids then ids.eraseDups else ids.eraseDups ++ [id] := by
  rw [List.eraseDups_append]
  by_cases h : id ∈ ids
  · rw [if_pos h]
    simp [List.removeAll, h]
  · rw [if_neg h]
    simp only [List.removeAll, List.filter_cons, List.filter_nil, List.elem_eq_contains,
      List.contains_eq_mem, h, decide_false, Bool.not_false, if_true]
    rfl

theorem nodup_eraseDups (ids : List KeyId) : ids.eraseDups.Nodup := by
  induction ids using List.reverseRecOn with
  | nil => exact List.nodup_nil
  | append_singleton rest id ih =>
    rw [eraseDups_concat]
    split
    · exact ih
    · rename_i hm
      have hd : id ∉ rest.eraseDups := fun h => hm (List.mem_eraseDups.1 h)
      rw [List.nodup_append]
      refine ⟨ih, by simp, ?_⟩
      intro a ha b hb e
      rw [List.mem_singleton] at hb
      exact hd (hb ▸ e ▸ ha)

namespace Holds

variable {pool : KeyPool} {loads : List Load} {batch : Batch}

theorem bounded (h : Holds pool loads batch) {id : KeyId} {index : Nat}
    (hf : batch.keys.find? id = some index) : index < batch.pool.length := by
  obtain ⟨j, key, rfl, hl⟩ := h.find?_eq_some hf
  have := hl.lt_length
  have := h.size
  omega

theorem nodup_keys (h : Holds pool loads batch) : batch.keys.keys.Nodup := by
  rw [h.ids]
  exact nodup_eraseDups _

/-- An entry of the table leads to a new handle, with a key that was loaded. -/
theorem of_mem (h : Holds pool loads batch) {id : KeyId} {index : Nat}
    (hm : (id, index) ∈ batch.keys) :
    pool.length ≤ index ∧
      ∃ key, (id, key) ∈ loads ∧ batch.pool[index]? = some ⟨id, some key⟩ := by
  obtain ⟨j, key, rfl, hl⟩ := h.find?_eq_some (KeyId.Table.find?_of_mem h.nodup_keys hm)
  exact ⟨Nat.le_add_right _ _, key, List.mem_of_getElem? hl.1, (h.last j id key hl).2⟩

theorem le_of_mem_values (h : Holds pool loads batch) {index : Nat}
    (hm : index ∈ batch.keys.values) : pool.length ≤ index := by
  obtain ⟨⟨id, found⟩, he, rfl⟩ := List.mem_map.1 hm
  exact (h.of_mem he).1

/-- No entry of the table leads to a handle that was there before. -/
theorem notMem_values (h : Holds pool loads batch) {index : Nat} (hi : index < pool.length) :
    index ∉ batch.keys.values := by
  intro hm
  exact absurd hi (Nat.not_lt.2 (h.le_of_mem_values hm))

/-- The live handles of a batch are those that there were and those of its table. -/
theorem live_iff (h : Holds pool loads batch) (index : Nat) :
    batch.pool.Live index ↔ pool.Live index ∨ index ∈ batch.keys.values := by
  constructor
  · intro hlive
    by_cases hi : index < pool.length
    · exact .inl ((KeyPool.live_congr (h.old index hi)).1 hlive)
    · -- A new handle is that of a load, and live only if the load is the last one.
      obtain ⟨j, rfl⟩ : ∃ j, index = pool.length + j := ⟨index - pool.length, by omega⟩
      have hlt := hlive.lt_length
      have hj : j < loads.length := by
        have := h.size
        omega
      obtain ⟨⟨id, key⟩, hload⟩ : ∃ load, loads[j]? = some load :=
        ⟨loads[j], List.getElem?_eq_getElem hj⟩
      by_cases hlast : LastAt loads j id key
      · have hf := (h.last j id key hlast).1
        exact .inr (List.mem_map.2 ⟨_, KeyId.Table.mem_of_find? hf, rfl⟩)
      · obtain ⟨handle, hp, hr⟩ := hlive
        rw [h.earlier j id key hload hlast] at hp
        cases hp
        cases hr
  · rintro (hlive | hm)
    · exact (KeyPool.live_congr (h.old index hlive.lt_length)).2 hlive
    · obtain ⟨⟨id, found⟩, he, rfl⟩ := List.mem_map.1 hm
      obtain ⟨_, key, _, hp⟩ := h.of_mem he
      exact ⟨_, hp, rfl⟩

/-- One more load, of any identifier. -/
theorem addKey (h : Holds pool loads batch) (source : KeySource) (id : KeyId)
    (key : Rsa.PrivateKey) :
    Holds pool (loads ++ [(id, key)]) (batch.addKey source id key) := by
  obtain ⟨hnew, hold⟩ := getElem?_addKey batch source id key (fun _ => h.bounded)
  have hsize := h.size
  constructor
  case size => rw [length_addKey, hsize, List.length_append, List.length_singleton, Nat.add_assoc]
  case old =>
    intro index hi
    have hne : batch.keys.find? id ≠ some index := by
      intro hf
      obtain ⟨j, _, hj, _⟩ := h.find?_eq_some hf
      omega
    rw [hold index (by omega), if_neg hne, h.old index hi]
  case ids =>
    have hmem : id ∈ batch.keys.keys ↔ id ∈ loads.map Prod.fst := by
      rw [h.ids, List.mem_eraseDups]
    rw [addKey_keys, KeyId.Table.keys_insert, List.map_append, List.map_singleton,
      eraseDups_concat, if_congr hmem rfl rfl, h.ids]
  case last =>
    intro j other otherKey hl
    rw [addKey_keys, KeyId.Table.find?_insert]
    rcases (LastAt.concat_iff id key).1 hl with ⟨hl, hne⟩ | ⟨rfl, rfl, rfl⟩
    · obtain ⟨hfind, hhandle⟩ := h.last j other otherKey hl
      have hj := hl.lt_length
      -- The handle that the new load releases is that of another identifier.
      have hkeep : batch.keys.find? id ≠ some (pool.length + j) := by
        intro hf
        obtain ⟨k, _, hk, hid⟩ := h.find?_eq_some hf
        have hjk : j = k := by omega
        subst hjk
        have := hl.1.symm.trans hid.1
        simp only [Option.some.injEq, Prod.mk.injEq] at this
        exact hne this.1
      rw [if_neg hne, hold _ (by omega), if_neg hkeep]
      exact ⟨hfind, hhandle⟩
    · rw [if_pos rfl, ← hsize]
      exact ⟨rfl, hnew⟩
  case earlier =>
    intro j other otherKey hj hl
    rw [LastAt.concat_iff id key] at hl
    have hj : loads[j]? = some (other, otherKey) := by
      rcases getElem?_concat_eq_some_iff.1 hj with hj | ⟨rfl, he⟩
      · exact hj
      · cases he
        exact absurd (.inr ⟨rfl, rfl, rfl⟩) hl
    have hlt : j < loads.length := (List.getElem?_eq_some_iff.1 hj).1
    rw [hold _ (by omega)]
    by_cases hold' : LastAt loads j other otherKey
    · -- It was the last one until now, so that the new load is one of the same identifier.
      have he : other = id := by
        by_contra hne
        exact hl (.inl ⟨hold', hne⟩)
      subst he
      obtain ⟨hfind, hhandle⟩ := h.last j other otherKey hold'
      rw [if_pos hfind, hhandle]
      rfl
    · rw [h.earlier j other otherKey hj hold']
      split <;> rfl

end Holds

end Batch

/-! ## Outcomes -/

theorem filterMap_cons_eq_append {α β : Type} (f : α → Option β) (a : α) (rest : List α) :
    (a :: rest).filterMap f = (f a).toList ++ rest.filterMap f := by
  cases h : f a <;> simp [h]

/-- A key is in some file, and is loaded from it under the identifier. -/
def KeyFile.Gives (reader : KeyReader) (id : KeyId) (key : Rsa.PrivateKey) : Prop :=
  ∃ files location credential limit, load reader files location credential limit = .ok (id, key)

/-- What an import gives a key for its name. -/
theorem KeyFile.Gives.fingerprint {reader : KeyReader} {id : KeyId} {key : Rsa.PrivateKey}
    (h : Gives reader id key) : KeyFile.fingerprint reader key.publicKey = .ok id := by
  obtain ⟨files, location, credential, limit, h⟩ := h
  unfold load at h
  split at h
  · cases h
  · split at h
    · cases h
    · split at h
      · cases h
      · rename_i hf
        cases h
        exact hf

namespace SourceOutcome

/-- The key that a source was loaded with. -/
def load? : SourceOutcome → Option Load
  | .loaded _ id key => some (id, key)
  | _ => none

/-- Whether a source is a token reference. -/
def isSkipped : SourceOutcome → Bool
  | .token _ => true
  | _ => false

/-- The line that a source has in the report. -/
def reportLine? (settings : Settings) : SourceOutcome → Option ReportLine
  | .invalid location issues => some ⟨location, Batch.invalidMessage issues⟩
  | .token source =>
    if settings.reportTokens then some ⟨source.location, Batch.tokenMessage⟩ else none
  | .refused source fault => some ⟨source.location, fault.message⟩
  | .loaded .. => none

theorem gives_of_loaded {reader : KeyReader} {files : FileSystem} {settings : Settings}
    {raw : Value} {source : KeySource} {id : KeyId} {key : Rsa.PrivateKey}
    (h : ofValue reader files settings raw = .ok (.loaded source id key)) :
    KeyFile.Gives reader id key := by
  simp only [ofValue] at h
  split at h
  · rename_i issues _
    cases ht : locationText raw <;> simp [ht, Except.map] at h
  · simp only [ofSource] at h
    split at h
    · cases h
    · split at h
      · rename_i found loaded hl
        cases h
        exact ⟨files, source.location, source.credential, settings.limit, hl⟩
      · cases h
      · cases h

end SourceOutcome

namespace Batch

/-- The keys that were loaded, in the order of the sources. -/
def loads (outcomes : List SourceOutcome) : List Load := outcomes.filterMap SourceOutcome.load?

theorem loads_cons (outcome : SourceOutcome) (rest : List SourceOutcome) :
    loads (outcome :: rest) = outcome.load?.toList ++ loads rest :=
  filterMap_cons_eq_append SourceOutcome.load? outcome rest

/-- One more outcome, of any kind. -/
theorem Holds.add {pool : KeyPool} {done : List Load} {batch : Batch}
    (h : Holds pool done batch) (settings : Settings) (outcome : SourceOutcome) :
    Holds pool (done ++ outcome.load?.toList) (batch.add settings outcome) := by
  cases outcome with
  | loaded source id key => exact h.addKey source id key
  | _ =>
    -- Any other outcome only changes report and log.
    show Holds pool (done ++ []) _
    rw [List.append_nil]
    exact h.congr rfl rfl

/-- Any number of further outcomes. -/
theorem Holds.addAll {pool : KeyPool} {done : List Load} {batch : Batch}
    (h : Holds pool done batch) (settings : Settings) (outcomes : List SourceOutcome) :
    Holds pool (done ++ loads outcomes) (outcomes.foldl (Batch.add settings) batch) := by
  induction outcomes generalizing done batch with
  | nil => simpa [loads] using h
  | cons outcome rest ih =>
    rw [loads_cons, ← List.append_assoc]
    exact ih (h.add settings outcome)

/-- Every load in a batch comes out of a file. -/
theorem gives_of_mem_loads {reader : KeyReader} {files : FileSystem} {settings : Settings}
    {sources : List Value} {id : KeyId} {key : Rsa.PrivateKey}
    (h : (id, key) ∈ loads (outcomes reader files settings sources).1) :
    KeyFile.Gives reader id key := by
  obtain ⟨outcome, hm, hl⟩ := List.mem_filterMap.1 h
  obtain ⟨raw, _, ho⟩ := exists_of_mem_outcomes hm
  cases outcome with
  | loaded source found loaded =>
    cases hl
    exact SourceOutcome.gives_of_loaded ho
  | _ => cases hl

/-- What a batch holds at its end or where it was stopped. -/
theorem ofSources_holds (reader : KeyReader) (files : FileSystem) (settings : Settings)
    (pool : KeyPool) (sources : List Value) :
    Holds pool (loads (outcomes reader files settings sources).1)
      (ofSources reader files settings pool sources).1 := by
  have h := (holds_start pool).addAll settings (outcomes reader files settings sources).1
  unfold ofSources
  rw [addAll_eq]
  cases (outcomes reader files settings sources).2 with
  | some fault => exact h
  | none => exact h.congr rfl rfl

theorem holds_of_ofSources {reader : KeyReader} {files : FileSystem} {settings : Settings}
    {pool : KeyPool} {sources : List Value} {batch : Batch} {stop : Option ValueFault}
    (h : ofSources reader files settings pool sources = (batch, stop)) :
    Holds pool (loads (outcomes reader files settings sources).1) batch := by
  have hholds := ofSources_holds reader files settings pool sources
  rwa [h] at hholds

/-- What one more outcome adds to the report. -/
theorem report_add (settings : Settings) (batch : Batch) (outcome : SourceOutcome) :
    (batch.add settings outcome).report.errors =
        batch.report.errors ++ (outcome.reportLine? settings).toList ∧
      (batch.add settings outcome).report.skipped =
        batch.report.skipped + (if outcome.isSkipped then 1 else 0 : Nat) := by
  cases outcome with
  | invalid location issues => exact ⟨rfl, (Int.add_zero _).symm⟩
  | token source =>
    cases hr : settings.reportTokens <;>
      simp [add, hr, Report.addError, SourceOutcome.reportLine?, SourceOutcome.isSkipped]
  | refused source fault => exact ⟨rfl, (Int.add_zero _).symm⟩
  | loaded source id key =>
    have hreport : (batch.addKey source id key).report = batch.report := by
      unfold addKey
      split <;> rfl
    simp [add, hreport, SourceOutcome.reportLine?, SourceOutcome.isSkipped]

/-- The lines and the count of skipped sources that outcomes add to the report. -/
theorem report_addAll (settings : Settings) (batch : Batch) (outcomes : List SourceOutcome) :
    (outcomes.foldl (add settings) batch).report.errors =
        batch.report.errors ++ outcomes.filterMap (SourceOutcome.reportLine? settings) ∧
      (outcomes.foldl (add settings) batch).report.skipped =
        batch.report.skipped + outcomes.countP SourceOutcome.isSkipped := by
  induction outcomes generalizing batch with
  | nil => simp
  | cons outcome rest ih =>
    obtain ⟨herrors, hskipped⟩ := ih (batch.add settings outcome)
    obtain ⟨herror, hskip⟩ := report_add settings batch outcome
    rw [List.foldl_cons, herrors, hskipped, herror, hskip, filterMap_cons_eq_append,
      List.countP_cons]
    refine ⟨List.append_assoc .., ?_⟩
    push_cast
    omega

/-- The result of a batch that comes to its end. Each source has the outcome that it has on its own;
pool and table are those of the loads among the outcomes, the last load of an identifier counting;
and the report has the lines of the outcomes in order, and counts identifiers and tokens. -/
theorem ofSources_result {reader : KeyReader} {files : FileSystem} {settings : Settings}
    {pool : KeyPool} {sources : List Value} {batch : Batch}
    (h : ofSources reader files settings pool sources = (batch, none)) :
    ∃ outcomes : List SourceOutcome,
      sources.map (SourceOutcome.ofValue reader files settings) = outcomes.map .ok ∧
      Holds pool (loads outcomes) batch ∧
      batch.report =
        { loaded := ((loads outcomes).map Prod.fst).eraseDups.length
          skipped := outcomes.countP SourceOutcome.isSkipped
          errors := outcomes.filterMap (SourceOutcome.reportLine? settings) } := by
  have hfault : (outcomes reader files settings sources).2 = none := by
    rw [← ofSources_fault pool, h]
  have hholds := ofSources_holds reader files settings pool sources
  rw [h] at hholds
  have hbatch : batch = _ := (Prod.mk.inj (h.symm.trans (ofSources_complete pool hfault))).1
  obtain ⟨herrors, hskipped⟩ := report_addAll settings { pool := pool }
    (outcomes reader files settings sources).1
  refine ⟨_, map_ofValue_eq hfault, hholds, ?_⟩
  rw [← hholds.ids, Report.mk.injEq]
  refine ⟨?_, ?_, ?_⟩
  · rw [hbatch]
    simp [finish, KeyId.Table.keys]
  · rw [hbatch]
    exact hskipped.trans (Int.zero_add _)
  · rw [hbatch]
    exact herrors.trans (List.nil_append _)

/-- A reader of files with two bytes, a public and a private exponent, that names a key after its
public exponent. -/
def smallReader : KeyReader where
  digest info := List.replicate KeyId.size (info.getLastD 0)
  pem content :=
    match content with
    | [e, d] => some (.rsa ⟨0, e.toNat, d.toNat, 0, 0, 0, 0, 0⟩)
    | _ => none
  container _ _ := none

/-- Three files for such a reader; the last one has another key of the same name as the first one.
-/
def smallFiles : FileSystem where
  nodes := [(["a"], .file [3, 1]), (["b"], .file [5, 1]), (["c"], .file [3, 2])]
  workingDirectory := []

/-- Sources of all kinds: three files, no record, a token, and no file. -/
def smallSources : List Value :=
  [.record [("location", .text "a")], .null, .record [("location", .text "pkcs11:a")],
    .record [("location", .text "b")], .record [("location", .text "d")],
    .record [("location", .text "c")]]

theorem ofSources_result_small :
    (ofSources smallReader smallFiles {} [] smallSources).2 = none ∧
      ∃ outcomes : List SourceOutcome,
        smallSources.map (SourceOutcome.ofValue smallReader smallFiles {}) = outcomes.map .ok ∧
        Holds [] (loads outcomes) (ofSources smallReader smallFiles {} [] smallSources).1 ∧
        (ofSources smallReader smallFiles {} [] smallSources).1.report =
          { loaded := ((loads outcomes).map Prod.fst).eraseDups.length
            skipped := outcomes.countP SourceOutcome.isSkipped
            errors := outcomes.filterMap (SourceOutcome.reportLine? {}) } := by
  have h : (ofSources smallReader smallFiles {} [] smallSources).2 = none := by decide
  exact ⟨h, ofSources_result (Prod.ext rfl h)⟩

/-! ## Batches in parts -/

variable {reader : KeyReader} {files : FileSystem} {settings : Settings}

/-- Where no source stops a batch, the outcomes are those of its parts. -/
theorem outcomes_append {before after : List Value}
    (h : (outcomes reader files settings (before ++ after)).2 = none) :
    (outcomes reader files settings before).2 = none ∧
      (outcomes reader files settings after).2 = none ∧
      (outcomes reader files settings (before ++ after)).1 =
        (outcomes reader files settings before).1 ++ (outcomes reader files settings after).1 := by
  induction before with
  | nil => exact ⟨rfl, h, rfl⟩
  | cons first rest ih =>
    cases ho : SourceOutcome.ofValue reader files settings first with
    | error fault => simp [outcomes, ho] at h
    | ok outcome =>
      simp only [List.cons_append, outcomes, ho] at h ⊢
      obtain ⟨hrest, hafter, houtcomes⟩ := ih h
      exact ⟨hrest, hafter, by rw [houtcomes]⟩

/-- The lines that sources have in a report. -/
def lines (reader : KeyReader) (files : FileSystem) (settings : Settings) (sources : List Value) :
    List ReportLine :=
  (outcomes reader files settings sources).1.filterMap (SourceOutcome.reportLine? settings)

/-- The report of a batch, read off its table and the outcomes of its sources. -/
theorem report_of_ofSources {pool : KeyPool} {sources : List Value} {batch : Batch}
    (h : ofSources reader files settings pool sources = (batch, none)) :
    batch.report =
      { loaded := batch.keys.length
        skipped := (outcomes reader files settings sources).1.countP SourceOutcome.isSkipped
        errors := lines reader files settings sources } := by
  have hfault : (outcomes reader files settings sources).2 = none := by
    rw [← ofSources_fault pool, h]
  have hbatch : batch = _ := (Prod.mk.inj (h.symm.trans (ofSources_complete pool hfault))).1
  obtain ⟨herrors, hskipped⟩ := report_addAll settings { pool := pool }
    (outcomes reader files settings sources).1
  rw [hbatch, Report.mk.injEq]
  exact ⟨rfl, hskipped.trans (Int.zero_add _), herrors.trans (List.nil_append _)⟩

/-- The failures in a report are those of the sources. -/
theorem errors_of_ofSources {pool : KeyPool} {sources : List Value} {batch : Batch}
    (h : ofSources reader files settings pool sources = (batch, none)) :
    batch.report.errors = lines reader files settings sources := by
  rw [report_of_ofSources h]

end Batch

end Keyring
