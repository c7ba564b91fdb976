import Keyring.Store

/-!
# Sources that stop a batch

A batch goes on to the next source after a record that is no valid source, a token reference and a
key file that is refused. What it cannot get past is a value that cannot be written into the report,
and a location or a limit with which a key file can be neither read nor refused. This module says
which values these are, and that a batch comes to its end exactly when none of them is among its
sources.
-/

namespace Keyring

/-! ## Locations without a file -/

namespace FileSystem

theorem walk_ne_nulCharacter (files : FileSystem) (path names : List String) :
    files.walk path names ≠ .error .nulCharacter := by
  fun_induction walk files path names <;> simp_all

/-- Only a location with a null character is no name of a file at all. -/
theorem read_eq_nulCharacter_iff (files : FileSystem) (path : String) :
    files.read path = .error .nulCharacter ↔ '\x00' ∈ path.toList := by
  by_cases hn : '\x00' ∈ path.toList
  · simp [read, hn]
  · have hw := files.walk_ne_nulCharacter (files.start path.toList) (names path.toList)
    simp only [read, List.contains_iff_mem, hn, if_false, iff_false]
    intro h
    split at h
    · cases h
    · split at h
      · cases h
      · split at h
        · rename_i fault hf
          cases h
          exact hw hf
        · split at h <;> cases h

end FileSystem

namespace KeyFile

/-- The byte that is asked for beyond the limit tells a larger file: what is read is over the limit
if the content is, and is the whole content otherwise. -/
theorem fits_of_readUpTo {most : Int} {content found : Bytes}
    (h : readUpTo (most + 1) content = .ok found) :
    ((found.length : Int) > most ↔ ¬ (content.length : Int) ≤ most) ∧
      ((content.length : Int) ≤ most → found = content) := by
  unfold readUpTo at h
  split at h
  · cases h
  · split at h
    · cases h
    · split at h
      · cases h
        exact ⟨Int.not_le.symm, fun _ => rfl⟩
      · obtain rfl : content.take (most + 1).toNat = found := Except.ok.inj h
        rw [List.length_take]
        exact ⟨by omega, fun hl => List.take_of_length_le (by omega)⟩

/-- What a file that can be opened is read as, up to a limit that is an integer. A limit of minus
two asks for the whole file and one of minus one for nothing of it, and either is more than fits. -/
theorem read_of_opened {files : FileSystem} {location : String} {content : Bytes} {limit : Value}
    {most : Int} (h : files.read location = .ok content) (hlimit : limit.integer? = some most) :
    read files location limit =
      if most < -(Bytes.wordBound : Int) - 1 ∨ (Bytes.maxSize : Int) ≤ most then
        .error (.unusable .tooLarge)
      else if most < -2 then .error (.unusable .negativeLength)
      else if (content.length : Int) ≤ most then .ok content
      else .error (.refused (.tooLarge limit.shown)) := by
  simp only [read, h, hlimit]
  by_cases hrange : most < -(Bytes.wordBound : Int) - 1 ∨ (Bytes.maxSize : Int) ≤ most
  · have hread : readUpTo (most + 1) content = .error .tooLarge := by
      rw [readUpTo, if_pos (by omega)]
    simp only [hread, hrange, if_true]
  · by_cases hnegative : most < -2
    · have hread : readUpTo (most + 1) content = .error .negativeLength := by
        rw [readUpTo, if_neg (by omega), if_pos (by omega)]
      simp only [hread, hrange, hnegative, if_true, if_false]
    · obtain ⟨found, hread⟩ : ∃ found, readUpTo (most + 1) content = .ok found := by
        rw [readUpTo, if_neg (by omega), if_neg (by omega)]
        split <;> exact ⟨_, rfl⟩
      obtain ⟨hfits, hwhole⟩ := fits_of_readUpTo hread
      simp only [hread, hrange, hnegative, if_false, hfits]
      by_cases hlength : (content.length : Int) ≤ most
      · simp only [hlength, hwhole hlength, not_true_eq_false, if_true, if_false]
      · simp only [hlength, not_false_eq_true, if_true, if_false]

/-- The same for a limit that is a natural number. -/
theorem read_of_ok {files : FileSystem} {location : String} {content : Bytes}
    (h : files.read location = .ok content) (limit : Nat) :
    read files location (.int limit) =
      if Bytes.maxSize ≤ limit then .error (.unusable .tooLarge)
      else if content.length ≤ limit then .ok content
      else .error (.refused (.tooLarge (toString (limit : Int)))) := by
  have hinteger : (Value.int limit).integer? = some (limit : Int) := rfl
  have hshown : (Value.int limit).shown = toString (limit : Int) := rfl
  have hlow : ¬ (limit : Int) < -(Bytes.wordBound : Int) - 1 := by omega
  have hnegative : ¬ (limit : Int) < -2 := by omega
  simp only [read_of_opened h hinteger, hshown, hlow, hnegative, false_or, if_false, Int.ofNat_le]

/-- An import can give no answer where the location is no name of a file, or where there is a file
and the limit is too large to read up to. -/
theorem load_unusable_iff (reader : KeyReader) (files : FileSystem) (location credential : String)
    (limit : Nat) :
    (∃ fault, load reader files location credential (.int limit) = .error (.unusable fault)) ↔
      '\x00' ∈ location.toList ∨
        (files.read location).isOk = true ∧ Bytes.maxSize ≤ limit := by
  rw [← files.read_eq_nulCharacter_iff]
  cases hr : files.read location with
  | error fault => cases fault <;> simp [load, read, hr, Except.isOk, Except.toBool]
  | ok content =>
    by_cases hl : Bytes.maxSize ≤ limit
    · simp [load, read_of_ok hr, hl, Except.isOk, Except.toBool]
    · simp only [load, read_of_ok hr, hl, if_false, reduceCtorEq, and_false, or_self, iff_false,
        not_exists]
      intro fault h
      split at h
      · rename_i failure hf
        split at hf <;> cases hf
        cases h
      · split at h
        · cases h
        · split at h <;> cases h

end KeyFile

/-! ## Values that cannot be written -/

/-- What counts as not given is short. -/
theorem Value.isGiven_of_not_isShowable {value : Value} (h : value.isShowable = false) :
    value.isGiven = true := by
  cases value with
  | int n =>
    have hn : n ≠ 0 := by
      rintro rfl
      exact absurd h (by decide)
    simpa [isGiven] using hn
  | list items => cases items <;> simp_all [isShowable, areShowable, isGiven]
  | tuple items => cases items <;> simp_all [isShowable, areShowable, isGiven]
  | record fields => cases fields <;> simp_all [isShowable, fieldsAreShowable, isGiven]
  | _ => simp [isShowable] at h

namespace SourceOutcome

theorem locationText_ok_iff (raw : Value) :
    (∃ text, locationText raw = .ok text) ↔ (locationValue raw).isShowable = true := by
  by_cases hs : (locationValue raw).isShowable = true
  · by_cases hg : (locationValue raw).isGiven = true <;>
      simp [locationText, Value.toText, hs, hg, Except.map]
  · have hf : (locationValue raw).isShowable = false := by simpa using hs
    simp [locationText, Value.toText, hf, Value.isGiven_of_not_isShowable hf, Except.map]

/-! ## Values without an outcome -/

/-- A value that stops a batch where a source is expected: it is no valid source and its location is
a number, or has one in it, that is not written; or it is a source of a key file, and its location is
no name of a file, or names a file that is there while the limit is too large to read up to. -/
def Stops (files : FileSystem) (settings : Settings) (raw : Value) : Prop :=
  match KeySource.ofValue raw with
  | .error _ => (locationValue raw).isShowable = false
  | .ok source =>
    source.isToken settings.tokenMark = false ∧
      ('\x00' ∈ source.location.toList ∨
        (files.read source.location).isOk = true ∧ Bytes.maxSize ≤ settings.maxFileSize)

instance (files : FileSystem) (settings : Settings) (raw : Value) :
    Decidable (Stops files settings raw) :=
  match h : KeySource.ofValue raw with
  | .error _ => decidable_of_iff ((locationValue raw).isShowable = false) (by simp [Stops, h])
  | .ok source =>
    decidable_of_iff (source.isToken settings.tokenMark = false ∧
      ('\x00' ∈ source.location.toList ∨
        (files.read source.location).isOk = true ∧ Bytes.maxSize ≤ settings.maxFileSize))
      (by simp [Stops, h])

variable (reader : KeyReader) (files : FileSystem) (settings : Settings)

/-- A source has no outcome of its own only through its key file. -/
theorem ofSource_error_iff (source : KeySource) :
    (∃ fault, ofSource reader files settings source = .error fault) ↔
      source.isToken settings.tokenMark = false ∧ ('\x00' ∈ source.location.toList ∨
        (files.read source.location).isOk = true ∧ Bytes.maxSize ≤ settings.maxFileSize) := by
  rw [← KeyFile.load_unusable_iff reader files source.location source.credential]
  cases ht : source.isToken settings.tokenMark with
  | true => simp [ofSource, ht]
  | false =>
    simp only [ofSource, ht, Bool.false_eq_true, if_false, true_and, Settings.limit]
    cases hl : KeyFile.load reader files source.location source.credential
        (.int settings.maxFileSize) with
    | ok loaded => simp
    | error failure => cases failure <;> simp

/-- The values with no outcome are those that stop a batch. -/
theorem ofValue_error_iff (raw : Value) :
    (∃ fault, ofValue reader files settings raw = .error fault) ↔ Stops files settings raw := by
  cases hv : KeySource.ofValue raw with
  | error issues =>
    have ht := locationText_ok_iff raw
    simp only [ofValue, Stops, hv]
    cases hl : locationText raw with
    | ok text => simp [Except.map, ht.1 ⟨text, hl⟩]
    | error fault =>
      have hs : (locationValue raw).isShowable = false := by simpa [hl] using ht
      simp [Except.map, hs]
  | ok source =>
    simp only [ofValue, Stops, hv]
    exact ofSource_error_iff reader files settings source

end SourceOutcome

/-! ## Batches -/

namespace Batch

variable (reader : KeyReader) (files : FileSystem) (settings : Settings)

/-- The outcomes of sources up to the first one with none, and the fault of that one. -/
def outcomes : List Value → List SourceOutcome × Option ValueFault
  | [] => ([], none)
  | raw :: rest =>
    match SourceOutcome.ofValue reader files settings raw with
    | .error fault => ([], some fault)
    | .ok outcome => (outcome :: (outcomes rest).1, (outcomes rest).2)

/-- A batch adds the outcomes of its sources one after the other. -/
theorem addAll_eq (batch : Batch) (sources : List Value) :
    addAll reader files settings batch sources =
      ((outcomes reader files settings sources).1.foldl (add settings) batch,
        (outcomes reader files settings sources).2) := by
  induction sources generalizing batch with
  | nil => rfl
  | cons raw rest ih =>
    cases ho : SourceOutcome.ofValue reader files settings raw with
    | error fault => simp [addAll, outcomes, ho]
    | ok outcome => simp [addAll, outcomes, ho, ih]

theorem outcomes_complete_iff (sources : List Value) :
    (outcomes reader files settings sources).2 = none ↔
      ∀ raw ∈ sources, ¬ SourceOutcome.Stops files settings raw := by
  induction sources with
  | nil => simp [outcomes]
  | cons raw rest ih =>
    rw [List.forall_mem_cons, ← ih, ← SourceOutcome.ofValue_error_iff reader files settings raw]
    cases ho : SourceOutcome.ofValue reader files settings raw with
    | error fault => simp [outcomes, ho]
    | ok outcome => simp [outcomes, ho]

/-- What a source that stops a batch leaves of it: the outcomes of the sources before. -/
theorem outcomes_append_stops {before : List Value} {raw : Value} (after : List Value)
    (hb : ∀ value ∈ before, ¬ SourceOutcome.Stops files settings value)
    (hr : SourceOutcome.Stops files settings raw) :
    ∃ fault, outcomes reader files settings (before ++ raw :: after) =
      ((outcomes reader files settings before).1, some fault) := by
  induction before with
  | nil =>
    obtain ⟨fault, hf⟩ := (SourceOutcome.ofValue_error_iff reader files settings raw).2 hr
    exact ⟨fault, by simp [outcomes, hf]⟩
  | cons first rest ih =>
    obtain ⟨hf, hrest⟩ := List.forall_mem_cons.1 hb
    obtain ⟨fault, he⟩ := ih hrest
    cases ho : SourceOutcome.ofValue reader files settings first with
    | error fault =>
      exact absurd ((SourceOutcome.ofValue_error_iff reader files settings first).1 ⟨fault, ho⟩) hf
    | ok outcome => exact ⟨fault, by simp [outcomes, ho, he]⟩

variable {reader files settings}

/-- Where no source stops a batch, each of them has its own outcome in it. -/
theorem map_ofValue_eq {sources : List Value}
    (h : (outcomes reader files settings sources).2 = none) :
    sources.map (SourceOutcome.ofValue reader files settings) =
      (outcomes reader files settings sources).1.map .ok := by
  induction sources with
  | nil => rfl
  | cons raw rest ih =>
    cases ho : SourceOutcome.ofValue reader files settings raw with
    | error fault => simp [outcomes, ho] at h
    | ok outcome =>
      simp only [outcomes, ho] at h
      simp [outcomes, ho, ih h]

/-- Every outcome in a batch is that of one of its sources. -/
theorem exists_of_mem_outcomes {sources : List Value} {outcome : SourceOutcome}
    (h : outcome ∈ (outcomes reader files settings sources).1) :
    ∃ raw ∈ sources, SourceOutcome.ofValue reader files settings raw = .ok outcome := by
  induction sources with
  | nil => cases h
  | cons raw rest ih =>
    cases ho : SourceOutcome.ofValue reader files settings raw with
    | error fault => simp [outcomes, ho] at h
    | ok first =>
      simp only [outcomes, ho] at h
      rcases List.mem_cons.1 h with rfl | hr
      · exact ⟨raw, List.mem_cons_self, ho⟩
      · obtain ⟨other, hm, hother⟩ := ih hr
        exact ⟨other, List.mem_cons_of_mem _ hm, hother⟩

theorem ofSources_complete {sources : List Value} (pool : KeyPool)
    (h : (outcomes reader files settings sources).2 = none) :
    ofSources reader files settings pool sources =
      (((outcomes reader files settings sources).1.foldl (add settings) { pool := pool }).finish,
        none) := by
  simp [ofSources, addAll_eq, h]

theorem ofSources_fault (pool : KeyPool) (sources : List Value) :
    (ofSources reader files settings pool sources).2 =
      (outcomes reader files settings sources).2 := by
  cases h : (outcomes reader files settings sources).2 with
  | none => rw [ofSources_complete pool h]
  | some fault => simp [ofSources, addAll_eq, h]

end Batch

/-! ## Reloads -/

/-- A reporter that rejects no report. -/
def Reporter.Accepts : Reporter → Prop
  | .log => True
  | .caller rejection => ∀ text, rejection text = none

namespace Store

theorem notify_ok {reporter : Reporter} (h : reporter.Accepts) (report : Report) :
    (notify reporter report).2 = .ok report := by
  unfold notify
  split
  · cases reporter with
    | log => rfl
    | caller rejection => simp [h report.format]
  · rfl

theorem list_sources (store : Store) (pool : KeyPool) (values : List Value) :
    store.list pool (values.map .source) = ⟨store, pool, [], .ok values⟩ := by
  induction values with
  | nil => rfl
  | cons value rest ih => simp [list, ih, Except.map]

/-- What a reload of an open store comes to when its sources are listed without a failure. -/
theorem reload_sources {store : Store} {sources : Sources} {values : List Value}
    (reader : KeyReader) (files : FileSystem) (pool : KeyPool) (open_ : store.closed = false)
    (hs : store.arrivals sources = .ok (values.map .source)) :
    (store.reload reader files pool sources).result =
      match (Batch.ofSources reader files store.settings pool values).2 with
      | some fault => .error (.unusable fault)
      | none =>
        (notify store.reporter
          (Batch.ofSources reader files store.settings pool values).1.report).2 := by
  cases hk : store.keys with
  | none => simp [closed, hk] at open_
  | some keys =>
    simp only [reload, current, hk, gather, hs, list_sources]
    cases hb : Batch.ofSources reader files store.settings pool values with
    | mk batch stop =>
      cases stop with
      | some fault => rfl
      | none => simp only [replace, hk, tell]

end Store

/-! ## Which batches come to their end -/

/-- A batch comes to its end exactly when none of its sources stops it. It then has the outcome of
each source in it; else the sources after the first one that stops it are not looked at, and the
batch is lost. A reload that lists these sources into an open store fails for nothing else, unless
the reporter rejects the report. -/
theorem ofSources_completes_iff (reader : KeyReader) (files : FileSystem) (settings : Settings)
    (pool : KeyPool) (sources : List Value) :
    ((Batch.ofSources reader files settings pool sources).2 = none ↔
      ∀ raw ∈ sources, ¬ SourceOutcome.Stops files settings raw) ∧
    ((∀ raw ∈ sources, ¬ SourceOutcome.Stops files settings raw) →
      ∃ outcomes : List SourceOutcome,
        sources.map (SourceOutcome.ofValue reader files settings) = outcomes.map .ok ∧
        Batch.ofSources reader files settings pool sources =
          ((outcomes.foldl (Batch.add settings) { pool := pool }).finish, none)) ∧
    (∀ before raw after, sources = before ++ raw :: after →
      (∀ value ∈ before, ¬ SourceOutcome.Stops files settings value) →
      SourceOutcome.Stops files settings raw →
      ∃ (outcomes : List SourceOutcome) (fault : ValueFault),
        before.map (SourceOutcome.ofValue reader files settings) = outcomes.map .ok ∧
        Batch.ofSources reader files settings pool sources =
          (outcomes.foldl (Batch.add settings) { pool := pool }, some fault)) ∧
    (∀ (store : Store) (given : Sources), store.settings = settings → store.closed = false →
      store.reporter.Accepts → store.arrivals given = .ok (sources.map .source) →
      ((∃ report, (store.reload reader files pool given).result = .ok report) ↔
        ∀ raw ∈ sources, ¬ SourceOutcome.Stops files settings raw)) := by
  have hc := Batch.outcomes_complete_iff reader files settings sources
  refine ⟨?_, ?_, ?_, ?_⟩
  · rw [Batch.ofSources_fault, hc]
  · intro h
    exact ⟨_, Batch.map_ofValue_eq (hc.2 h), Batch.ofSources_complete pool (hc.2 h)⟩
  · rintro before raw after rfl hb hr
    obtain ⟨fault, ho⟩ := Batch.outcomes_append_stops reader files settings after hb hr
    have hb' := (Batch.outcomes_complete_iff reader files settings before).2 hb
    refine ⟨_, fault, Batch.map_ofValue_eq hb', ?_⟩
    simp [Batch.ofSources, Batch.addAll_eq, ho]
  · rintro store given rfl open_ accepts hs
    rw [Store.reload_sources reader files pool open_ hs, Batch.ofSources_fault, ← hc]
    cases (Batch.outcomes reader files store.settings sources).2 with
    | none => simp [Store.notify_ok accepts]
    | some fault => simp

/-- Past a number, a token with a null character and a file that is not there, a reload goes on to
its end. -/
theorem reload_completes_past_failures :
    ∃ report, ((Store.empty {} .log).reload .standard .initial []
      (.stream [.source (.int 5), .source (.record [("location", .text "pkcs11:a\x00b")]),
        .source (.record [("location", .text "absent")])])).result = .ok report :=
  ((ofSources_completes_iff .standard .initial {} []
    [.int 5, .record [("location", .text "pkcs11:a\x00b")],
      .record [("location", .text "absent")]]).2.2.2
    (Store.empty {} .log) _ rfl rfl trivial rfl).2 (by decide)

/-- One location with a null character ends a batch and the reload that it is for. -/
theorem nul_location_stops_reload :
    (Batch.ofSources .standard .initial {} []
        [.record [("location", .text "a\x00b")], .record [("location", .text "absent")]]).2 =
      some .nulCharacter ∧
    ((Store.empty {} .log).reload .standard .initial []
        (.stream [.source (.record [("location", .text "a\x00b")]),
          .source (.record [("location", .text "absent")])])).result =
      .error (.unusable .nulCharacter) :=
  ⟨by decide, rfl⟩

end Keyring
