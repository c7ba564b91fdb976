import Keyring.Proofs.StoreHistory
import Mathlib.Data.List.Perm.Basic

/-!
# The order of sources

Every source is imported on its own, so that the order of the sources decides little: the order of
the identifiers, of the failures and of the log, and which of two keys counts that are loaded under
the same identifier. Where no two sources load different keys under one identifier, the keys of a
batch are the same in every order, and only there (`untied_iff`).
-/

namespace Keyring

namespace Batch

variable {reader : KeyReader} {files : FileSystem} {settings : Settings}
  {sources others : List Value}

/-! ## Outcomes -/

/-- Whether a batch comes to its end does not depend on the order of its sources. -/
theorem complete_of_perm (h : sources.Perm others)
    (hc : (outcomes reader files settings sources).2 = none) :
    (outcomes reader files settings others).2 = none := by
  rw [outcomes_complete_iff] at hc ⊢
  exact fun raw hr => hc raw (h.mem_iff.2 hr)

/-- In another order, the sources have the same outcomes in that order. -/
theorem outcomes_perm (h : sources.Perm others)
    (hc : (outcomes reader files settings sources).2 = none) :
    (outcomes reader files settings sources).1.Perm (outcomes reader files settings others).1 := by
  have hmap := h.map (SourceOutcome.ofValue reader files settings)
  rw [map_ofValue_eq hc, map_ofValue_eq (complete_of_perm h hc)] at hmap
  exact (List.map_perm_map_iff fun _ _ => Except.ok.inj).1 hmap

theorem mem_outcomes (hc : (outcomes reader files settings sources).2 = none) {raw : Value}
    {outcome : SourceOutcome} (hr : raw ∈ sources)
    (ho : SourceOutcome.ofValue reader files settings raw = .ok outcome) :
    outcome ∈ (outcomes reader files settings sources).1 := by
  have hm : Except.ok outcome ∈ sources.map (SourceOutcome.ofValue reader files settings) :=
    List.mem_map.2 ⟨raw, hr, ho⟩
  rw [map_ofValue_eq hc] at hm
  obtain ⟨found, hf, he⟩ := List.mem_map.1 hm
  rwa [← Except.ok.inj he]

theorem loads_perm (h : sources.Perm others)
    (hc : (outcomes reader files settings sources).2 = none) :
    (loads (outcomes reader files settings sources).1).Perm
      (loads (outcomes reader files settings others).1) :=
  (outcomes_perm h hc).filterMap _

/-! ## Ties -/

/-- One of the sources loads the key under the identifier. -/
def Loads (reader : KeyReader) (files : FileSystem) (settings : Settings) (sources : List Value)
    (id : KeyId) (key : Rsa.PrivateKey) : Prop :=
  ∃ raw ∈ sources, ∃ source,
    SourceOutcome.ofValue reader files settings raw = .ok (.loaded source id key)

/-- No two sources load different keys under the same identifier. -/
def Untied (reader : KeyReader) (files : FileSystem) (settings : Settings)
    (sources : List Value) : Prop :=
  ∀ id key other, Loads reader files settings sources id key →
    Loads reader files settings sources id other → key = other

theorem mem_loads_iff (hc : (outcomes reader files settings sources).2 = none) {id : KeyId}
    {key : Rsa.PrivateKey} :
    (id, key) ∈ loads (outcomes reader files settings sources).1 ↔
      Loads reader files settings sources id key := by
  constructor
  · intro h
    obtain ⟨outcome, hm, hl⟩ := List.mem_filterMap.1 h
    obtain ⟨raw, hr, ho⟩ := exists_of_mem_outcomes hm
    cases outcome with
    | loaded source found loaded =>
      cases hl
      exact ⟨raw, hr, source, ho⟩
    | _ => cases hl
  · rintro ⟨raw, hr, source, ho⟩
    exact List.mem_filterMap.2 ⟨_, mem_outcomes hc hr ho, rfl⟩

/-! ## Batches in two orders -/

namespace Holds

variable {pool pool' : KeyPool} {done done' : List Load} {batch other : Batch}

/-- Batches with the same loads in different orders have the same identifiers. -/
theorem keys_perm (h : Holds pool done batch) (h' : Holds pool' done' other)
    (hp : done.Perm done') : batch.keys.keys.Perm other.keys.keys := by
  refine (List.perm_ext_iff_of_nodup h.nodup_keys h'.nodup_keys).2 fun id => ?_
  rw [h.ids, h'.ids, List.mem_eraseDups, List.mem_eraseDups]
  exact (hp.map Prod.fst).mem_iff

/-- An identifier that all loads have one key for leads to a handle with that key. -/
theorem find?_eq_of_perm (h : Holds pool done batch) (h' : Holds pool' done' other)
    (hp : done.Perm done') {id : KeyId}
    (hu : ∀ key key', (id, key) ∈ done → (id, key') ∈ done → key = key') :
    (batch.keys.find? id).map (batch.pool[·]?) = (other.keys.find? id).map (other.pool[·]?) := by
  by_cases hm : id ∈ done.map Prod.fst
  · obtain ⟨j, key, hlast⟩ := LastAt.exists_of_mem hm
    obtain ⟨k, key', hlast'⟩ := LastAt.exists_of_mem ((hp.map Prod.fst).mem_iff.1 hm)
    obtain ⟨hfind, hhandle⟩ := h.last j id key hlast
    obtain ⟨hfind', hhandle'⟩ := h'.last k id key' hlast'
    have hkey : key = key' :=
      hu key key' (List.mem_of_getElem? hlast.1) (hp.mem_iff.2 (List.mem_of_getElem? hlast'.1))
    simp [hfind, hhandle, hfind', hhandle', hkey]
  · have hnone : batch.keys.find? id = none := by
      rw [KeyId.Table.find?_eq_none_iff, h.ids, List.mem_eraseDups]
      exact hm
    have hnone' : other.keys.find? id = none := by
      rw [KeyId.Table.find?_eq_none_iff, ← (h.keys_perm h' hp).mem_iff, h.ids, List.mem_eraseDups]
      exact hm
    rw [hnone, hnone']
    rfl

end Holds

/-- Two batches that differ in the order of identifiers and failures, and in which key counts for an
identifier. -/
structure SameUpToOrder (batch other : Batch) : Prop where
  ids : batch.keys.keys.Perm other.keys.keys
  loaded : batch.report.loaded = other.report.loaded
  skipped : batch.report.skipped = other.report.skipped
  errors : batch.report.errors.Perm other.report.errors

/-- The identifiers of two batches lead to handles with the same keys, so that stores with the keys
of the one and of the other decrypt the same. -/
structure SameKeys (batch other : Batch) : Prop where
  handles : ∀ id,
    (batch.keys.find? id).map (batch.pool[·]?) = (other.keys.find? id).map (other.pool[·]?)
  decrypt : ∀ settings reporter settings' reporter' value ciphertext expected,
    Store.decrypt ⟨settings, reporter, some batch.keys⟩ batch.pool value ciphertext expected =
      Store.decrypt ⟨settings', reporter', some other.keys⟩ other.pool value ciphertext expected

theorem sameUpToOrder_of_perm (h : sources.Perm others) {pool pool' : KeyPool}
    {batch other : Batch}
    (hb : ofSources reader files settings pool sources = (batch, none))
    (hb' : ofSources reader files settings pool' others = (other, none)) :
    SameUpToOrder batch other := by
  have hc : (outcomes reader files settings sources).2 = none := by rw [← ofSources_fault pool, hb]
  have hids := (holds_of_ofSources hb).keys_perm (holds_of_ofSources hb') (loads_perm h hc)
  have hlength : batch.keys.length = other.keys.length := by
    simpa [KeyId.Table.keys] using hids.length_eq
  constructor
  case ids => exact hids
  case loaded => rw [report_of_ofSources hb, report_of_ofSources hb', hlength]
  case skipped =>
    rw [report_of_ofSources hb, report_of_ofSources hb', (outcomes_perm h hc).countP_eq]
  case errors =>
    rw [errors_of_ofSources hb, errors_of_ofSources hb']
    exact (outcomes_perm h hc).filterMap _

theorem sameKeys_of_perm (h : sources.Perm others) (hu : Untied reader files settings sources)
    {pool pool' : KeyPool} {batch other : Batch}
    (hb : ofSources reader files settings pool sources = (batch, none))
    (hb' : ofSources reader files settings pool' others = (other, none)) :
    SameKeys batch other := by
  have hc : (outcomes reader files settings sources).2 = none := by rw [← ofSources_fault pool, hb]
  have hfind : ∀ id, (batch.keys.find? id).map (batch.pool[·]?) =
      (other.keys.find? id).map (other.pool[·]?) := by
    intro id
    refine (holds_of_ofSources hb).find?_eq_of_perm (holds_of_ofSources hb') (loads_perm h hc) ?_
    intro key key' hk hk'
    exact hu id key key' ((mem_loads_iff hc).1 hk) ((mem_loads_iff hc).1 hk')
  constructor
  case handles => exact hfind
  case decrypt =>
    intro _ _ _ _
    exact Store.decrypt_congr rfl rfl hfind

/-! ## Ties decide -/

/-- Any source can be put last. -/
theorem exists_perm_concat {raw : Value} (hr : raw ∈ sources) :
    ∃ before, sources.Perm (before ++ [raw]) := by
  obtain ⟨before, after, rfl⟩ := List.append_of_mem hr
  exact ⟨before ++ after, List.perm_middle.trans (List.perm_append_singleton raw _).symm⟩

/-- The key of the last source is the one that counts. -/
theorem find?_of_last {before : List Value} {raw : Value} {source : KeySource} {id : KeyId}
    {key : Rsa.PrivateKey}
    (ho : SourceOutcome.ofValue reader files settings raw = .ok (.loaded source id key))
    {pool : KeyPool} {batch : Batch}
    (hb : ofSources reader files settings pool (before ++ [raw]) = (batch, none)) :
    (batch.keys.find? id).map (batch.pool[·]?) = some (some ⟨id, some key⟩) := by
  have hc : (outcomes reader files settings (before ++ [raw])).2 = none := by
    rw [← ofSources_fault pool, hb]
  have hloads : loads (outcomes reader files settings (before ++ [raw])).1 =
      loads (outcomes reader files settings before).1 ++ [(id, key)] := by
    rw [(outcomes_append hc).2.2, loads, List.filterMap_append]
    simp [loads, outcomes, ho, SourceOutcome.load?]
  have hholds := holds_of_ofSources hb
  rw [hloads] at hholds
  obtain ⟨hfind, hhandle⟩ :=
    hholds.last _ id key ((LastAt.concat_iff id key).2 (.inr ⟨rfl, rfl, rfl⟩))
  simp [hfind, hhandle]

/-- The sources have no tie exactly if their batch has the same keys in every order. -/
theorem untied_iff {pool : KeyPool} {batch : Batch}
    (hb : ofSources reader files settings pool sources = (batch, none)) :
    Untied reader files settings sources ↔
      ∀ others, sources.Perm others → ∀ pool' other,
        ofSources reader files settings pool' others = (other, none) → SameKeys batch other := by
  constructor
  · intro hu others h pool' other hb'
    exact sameKeys_of_perm h hu hb hb'
  · intro h id key key' hk hk'
    -- Whichever of the two sources is put last, the handle has its key.
    have hlast : ∀ found, Loads reader files settings sources id found →
        (batch.keys.find? id).map (batch.pool[·]?) = some (some ⟨id, some found⟩) := by
      rintro found ⟨raw, hr, source, ho⟩
      obtain ⟨before, hperm⟩ := exists_perm_concat hr
      have hc : (outcomes reader files settings sources).2 = none := by
        rw [← ofSources_fault pool, hb]
      have hb' := ofSources_complete pool (complete_of_perm hperm hc)
      rw [(h _ hperm pool _ hb').handles id]
      exact find?_of_last ho hb'
    have heq := (hlast key hk).symm.trans (hlast key' hk')
    simpa using heq

/-- The order of the sources decides neither whether a batch comes to its end, nor which identifiers
it loads, how many sources it skips, and which failures it reports. Where no two sources load
different keys under one identifier, it does not decide the keys either. -/
theorem ofSources_perm (reader : KeyReader) (files : FileSystem) (settings : Settings)
    {sources others : List Value} (h : sources.Perm others) (pool pool' : KeyPool) :
    let first := ofSources reader files settings pool sources
    let second := ofSources reader files settings pool' others
    (first.2 = none ↔ second.2 = none) ∧
    (first.2 = none → SameUpToOrder first.1 second.1 ∧
      (Untied reader files settings sources → SameKeys first.1 second.1)) := by
  intro first second
  have hfirst : first.2 = (outcomes reader files settings sources).2 := ofSources_fault pool sources
  have hsecond : second.2 = (outcomes reader files settings others).2 :=
    ofSources_fault pool' others
  rw [hfirst, hsecond]
  refine ⟨⟨complete_of_perm h, complete_of_perm h.symm⟩, fun hc => ?_⟩
  have hb : ofSources reader files settings pool sources = (first.1, none) :=
    Prod.ext rfl (hfirst.trans hc)
  have hb' : ofSources reader files settings pool' others = (second.1, none) :=
    Prod.ext rfl (hsecond.trans (complete_of_perm h hc))
  exact ⟨sameUpToOrder_of_perm h hb hb', fun hu => sameKeys_of_perm h hu hb hb'⟩

/-- Sources of all kinds in the opposite order: two files, a value that is no source, a token, and a
file that is missing. -/
theorem ofSources_perm_reverse :
    let sources : List Value := [.record [("location", .text "a")], .null,
      .record [("location", .text "pkcs11:a")], .record [("location", .text "b")],
      .record [("location", .text "d")]]
    let first := ofSources smallReader smallFiles {} [] sources
    let second := ofSources smallReader smallFiles {} [] sources.reverse
    sources.Perm sources.reverse ∧ first.2 = none ∧ Untied smallReader smallFiles {} sources ∧
      second.2 = none ∧ SameUpToOrder first.1 second.1 ∧ SameKeys first.1 second.1 := by
  intro sources first second
  have hperm : sources.Perm sources.reverse := (List.reverse_perm sources).symm
  have hc : first.2 = none := by decide
  have hu : Untied smallReader smallFiles {} sources := by
    have hloads : ∀ load ∈ loads (outcomes smallReader smallFiles {} sources).1,
        ∀ other ∈ loads (outcomes smallReader smallFiles {} sources).1,
          load.1 = other.1 → load.2 = other.2 := by decide
    intro id key other hk ho
    have hcomplete : (outcomes smallReader smallFiles {} sources).2 = none := by decide
    exact hloads _ ((mem_loads_iff hcomplete).2 hk) _ ((mem_loads_iff hcomplete).2 ho) rfl
  obtain ⟨hiff, hsame⟩ := ofSources_perm smallReader smallFiles {} hperm [] []
  obtain ⟨horder, hkeys⟩ := hsame hc
  exact ⟨hperm, hc, hu, hiff.1 hc, horder, hkeys hu⟩

end Batch

/-! ## Stores -/

/-- Two open stores with the same settings, whose last swaps were for the same sources in different
orders and without a tie, decrypt the same, whatever else was called before and since. -/
theorem Store.decrypt_eq_of_perm (reader : KeyReader) (settings : Settings)
    (reporter reporter' : Reporter) (pool pool' : KeyPool) {calls calls' : List Call}
    {files : FileSystem} {values values' : List Value}
    (hs : State.lastSwap? reader ⟨.empty settings reporter, pool⟩ calls = some (files, values))
    (hs' : State.lastSwap? reader ⟨.empty settings reporter', pool'⟩ calls' = some (files, values'))
    (hperm : values.Perm values') (hu : Batch.Untied reader files settings values)
    (ho : (State.after reader ⟨.empty settings reporter, pool⟩ calls).store.closed = false)
    (ho' : (State.after reader ⟨.empty settings reporter', pool'⟩ calls').store.closed = false)
    (value ciphertext expected : Value) :
    let state := State.after reader ⟨.empty settings reporter, pool⟩ calls
    let other := State.after reader ⟨.empty settings reporter', pool'⟩ calls'
    state.store.decrypt state.pool value ciphertext expected =
      other.store.decrypt other.pool value ciphertext expected := by
  obtain ⟨start, batch, hb, ht⟩ :=
    State.table?_of_lastSwap?_eq_some (State.Sound.empty reader settings reporter pool) hs ho
  obtain ⟨start', batch', hb', ht'⟩ :=
    State.table?_of_lastSwap?_eq_some (State.Sound.empty reader settings reporter' pool') hs' ho'
  have hsame := Batch.sameKeys_of_perm hperm hu hb hb'
  obtain ⟨keys, hk, htable⟩ := Option.map_eq_some_iff.1 ht
  obtain ⟨keys', hk', htable'⟩ := Option.map_eq_some_iff.1 ht'
  refine decrypt_congr hk hk' (fun id => ?_) value ciphertext expected
  rw [← KeyPool.find?_table, ← KeyPool.find?_table, htable, htable', KeyPool.find?_table,
    KeyPool.find?_table]
  exact hsame.handles id

end Keyring
