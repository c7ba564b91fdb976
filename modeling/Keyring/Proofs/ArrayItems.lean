import Keyring.Proofs.BatchResult
import Mathlib.Data.List.Forall2

/-!
# Arrays of sources, as a whole and item by item

An array is read as a whole, and then the first item that is no source ends the reading; or its
items are loaded one after the other, and then such an item has a line in the report and is
otherwise not there. This module compares the two. What carries the comparison is that a batch adds
nothing but a line for a value that is no source (`Batch.foldl_add_withErrors`).
-/

namespace Keyring

/-! ## Lines about values that are no sources -/

namespace Batch

/-- What a message begins with that is about a value that is no source. -/
def invalidMark : List Char := "Invalid key source".toList

/-- Whether a message is about a value that is no source. -/
def isInvalidText (message : String) : Bool := invalidMark.isPrefixOf message.toList

theorem isInvalidText_invalidMessage (issues : List Issue) :
    isInvalidText (invalidMessage issues) = true := by
  have hstart : invalidMark <+: "Invalid key source: ".toList := by decide
  show invalidMark.isPrefixOf ("Invalid key source: " ++ Issue.summary issues).toList = true
  rw [List.isPrefixOf_iff_prefix, String.toList_append]
  exact hstart.trans (List.prefix_append _ _)

/-- A start that is long enough decides. -/
theorem isInvalidText_append {start : String} (hl : invalidMark.length ≤ start.toList.length)
    (h : isInvalidText start = false) (rest : String) : isInvalidText (start ++ rest) = false := by
  rw [← Bool.not_eq_true] at h ⊢
  intro hmark
  apply h
  rw [isInvalidText, List.isPrefixOf_iff_prefix, String.toList_append] at hmark
  rw [isInvalidText, List.isPrefixOf_iff_prefix]
  exact List.prefix_of_prefix_length_le hmark (List.prefix_append _ _) hl

/-- No key file is refused with such a message. -/
theorem isInvalidText_fault (fault : KeyFile.Fault) : isInvalidText fault.message = false := by
  cases fault with
  | unreadable fault =>
    have hstart : isInvalidText "Error loading RSA key file: " = false := by decide
    exact isInvalidText_append (by decide) hstart fault.reason
  | tooLarge limit =>
    have hstart : isInvalidText "Error loading RSA key file: larger than " = false := by decide
    show isInvalidText ("Error loading RSA key file: larger than " ++ limit ++ " bytes") = false
    rw [String.append_assoc]
    exact isInvalidText_append (by decide) hstart (limit ++ " bytes")
  | otherAlgorithm algorithm => cases algorithm <;> decide
  | digestSize size =>
    have hstart : isInvalidText "Error calculating Key ID: " = false := by decide
    exact isInvalidText_append (by decide) hstart (KeyFile.digestSizeMessage size)
  | notPem => decide
  | notContainer => decide
  | noPrivateKey => decide

end Batch

/-- Whether a line is about a value that is no source. -/
def ReportLine.isInvalid (line : ReportLine) : Bool := Batch.isInvalidText line.message

namespace SourceOutcome

/-- Whether the outcome is that of a value that is no source. -/
def isInvalid : SourceOutcome → Bool
  | .invalid .. => true
  | _ => false

theorem isInvalid_of_reportLine? {settings : Settings} {outcome : SourceOutcome}
    {line : ReportLine} (h : outcome.reportLine? settings = some line) :
    line.isInvalid = outcome.isInvalid := by
  cases outcome with
  | invalid location issues =>
    cases h
    exact Batch.isInvalidText_invalidMessage issues
  | token source =>
    simp only [reportLine?] at h
    split at h
    · cases h
      show Batch.isInvalidText Batch.tokenMessage = false
      decide
    · cases h
  | refused source fault =>
    cases h
    exact Batch.isInvalidText_fault fault
  | loaded source id key => cases h

/-- The lines about values that are no sources are those of such values, and so are the others. -/
theorem filter_reportLines (settings : Settings) (outcomes : List SourceOutcome) (p : Bool → Bool) :
    (outcomes.filterMap (reportLine? settings)).filter (fun line => p line.isInvalid) =
      (outcomes.filter fun outcome => p outcome.isInvalid).filterMap (reportLine? settings) := by
  rw [List.filter_filterMap, List.filterMap_filter]
  refine congrArg (List.filterMap · outcomes) (funext fun outcome => ?_)
  cases hl : outcome.reportLine? settings with
  | none => simp
  | some line =>
    have hinvalid := isInvalid_of_reportLine? hl
    cases hp : p outcome.isInvalid <;> simp [Option.filter, hinvalid, hp]

/-- A location that stands for that of an invalid value is not blank. -/
theorem strip_ne_of_locationText {raw : Value} {text : String} (h : locationText raw = .ok text) :
    Text.strip text ≠ "" := by
  unfold locationText at h
  dsimp only at h
  split at h
  · cases ht : (locationValue raw).toText with
    | error fault => simp [ht, Except.map] at h
    | ok shown =>
      simp only [ht, Except.map, Except.ok.injEq] at h
      subst h
      split
      · decide
      · rwa [Text.strip_strip]
  · simp only [Except.map, Except.ok.injEq] at h
    subst h
    decide

end SourceOutcome

/-! ## Values that are sources -/

namespace KeySource

/-- Whether a value stands for a source. -/
def isSource (raw : Value) : Bool := (ofValue raw).isOk

theorem isSource_of_ok {raw : Value} {source : KeySource} (h : ofValue raw = .ok source) :
    isSource raw = true := by
  rw [isSource, h]
  rfl

theorem isSource_of_error {raw : Value} {issues : List Issue} (h : ofValue raw = .error issues) :
    isSource raw = false := by
  rw [isSource, h]
  rfl

/-- A whole list is read if each value stands for one of its sources. -/
theorem ofItems_eq_ok_iff {items : List Value} {sources : List KeySource} :
    ofItems items = .ok sources ↔ items.map ofValue = sources.map .ok := by
  induction items generalizing sources with
  | nil => cases sources <;> simp [ofItems]
  | cons raw rest ih =>
    cases hv : ofValue raw with
    | error issues => cases sources <;> simp [ofItems, hv]
    | ok source =>
      cases sources with
      | nil => cases hr : ofItems rest <;> simp [ofItems, hv, hr, Except.map]
      | cons first others =>
        have hrest : ofItems rest = .ok others ↔ rest.map ofValue = others.map .ok := ih
        cases hr : ofItems rest <;> simp_all [ofItems, Except.map]

/-- Otherwise the first value that is no source ends the reading. -/
theorem ofItems_eq_error_iff {items : List Value} {fault : ListFault} :
    ofItems items = .error fault ↔ ∃ first rest issues,
      items.filter (fun raw => !isSource raw) = first :: rest ∧
        ofValue first = .error issues ∧ fault = .invalid issues := by
  induction items with
  | nil => simp [ofItems]
  | cons raw others ih =>
    cases hv : ofValue raw with
    | error issues =>
      have hf := isSource_of_error hv
      simp only [ofItems, hv, List.filter_cons, hf, Bool.not_false, if_true]
      constructor
      · intro h
        exact ⟨raw, _, issues, rfl, hv, (Except.error.inj h).symm⟩
      · rintro ⟨_, _, found, he, hfound, rfl⟩
        cases he
        rw [Except.error.inj (hv.symm.trans hfound)]
    | ok source =>
      have hs := isSource_of_ok hv
      simp only [ofItems, hv, List.filter_cons, hs, Bool.not_true, Bool.false_eq_true, if_false]
      rw [← ih]
      cases ofItems others <;> simp [Except.map]

/-- A whole list is read if all values are sources. -/
theorem exists_ofItems_iff (items : List Value) :
    (∃ sources, ofItems items = .ok sources) ↔ ∀ raw ∈ items, isSource raw = true := by
  constructor
  · rintro ⟨sources, h⟩ raw hm
    have hmap := List.mem_map_of_mem (f := ofValue) hm
    rw [ofItems_eq_ok_iff.1 h] at hmap
    obtain ⟨source, _, hs⟩ := List.mem_map.1 hmap
    exact isSource_of_ok hs.symm
  · intro h
    cases hr : ofItems items with
    | ok sources => exact ⟨sources, rfl⟩
    | error fault =>
      obtain ⟨first, rest, issues, hfilter, hv, _⟩ := ofItems_eq_error_iff.1 hr
      have hm : first ∈ items.filter fun raw => !isSource raw := by
        rw [hfilter]
        exact List.mem_cons_self
      have hfalse := isSource_of_error hv
      rw [h first (List.mem_filter.1 hm).1] at hfalse
      cases hfalse

end KeySource

namespace SourceOutcome

variable {reader : KeyReader} {files : FileSystem} {settings : Settings}

/-- A value and the source that it stands for come to the same. -/
theorem ofValue_source {raw : Value} {source : KeySource} (h : KeySource.ofValue raw = .ok source) :
    ofValue reader files settings raw = ofValue reader files settings (.source source) := by
  have hs : KeySource.ofValue (.source source) = .ok source := rfl
  simp only [ofValue, h, hs]

/-- The outcome of a source is never that of a value that is none. -/
theorem isInvalid_of_ofSource {source : KeySource} {outcome : SourceOutcome}
    (h : ofSource reader files settings source = .ok outcome) : outcome.isInvalid = false := by
  unfold ofSource at h
  split at h
  · cases h
    rfl
  · split at h
    · cases h
      rfl
    · cases h
      rfl
    · cases h

theorem isSource_eq {raw : Value} {outcome : SourceOutcome}
    (h : ofValue reader files settings raw = .ok outcome) :
    KeySource.isSource raw = !outcome.isInvalid := by
  cases hv : KeySource.ofValue raw with
  | error issues =>
    simp only [ofValue, hv] at h
    cases ht : locationText raw with
    | error fault => simp [ht, Except.map] at h
    | ok location =>
      simp only [ht, Except.map, Except.ok.injEq] at h
      subst h
      exact KeySource.isSource_of_error hv
  | ok source =>
    simp only [ofValue, hv] at h
    rw [isInvalid_of_ofSource h]
    exact KeySource.isSource_of_ok hv

end SourceOutcome

/-- The line says what is wrong with a value that is no source, at a location that is not blank. -/
def ReportLine.Rejects (line : ReportLine) (raw : Value) : Prop :=
  ∃ issues, KeySource.ofValue raw = .error issues ∧
    SourceOutcome.locationText raw = .ok line.location ∧ Text.strip line.location ≠ "" ∧
    line.message = Batch.invalidMessage issues

namespace Batch

variable {reader : KeyReader} {files : FileSystem} {settings : Settings}

/-! ## Outcomes -/

theorem outcomes_map_source {values : List Value} {sources : List KeySource}
    (h : values.map KeySource.ofValue = sources.map .ok) :
    outcomes reader files settings (sources.map .source) =
      outcomes reader files settings values := by
  induction values generalizing sources with
  | nil =>
    cases sources with
    | nil => rfl
    | cons source rest => cases h
  | cons raw others ih =>
    cases sources with
    | nil => cases h
    | cons source rest =>
      obtain ⟨hv, hrest⟩ := List.cons.inj h
      simp only [List.map_cons, outcomes, ih hrest, SourceOutcome.ofValue_source hv]

/-- Without the values that are no sources, all other outcomes are left. -/
theorem outcomes_filter_isSource {values : List Value}
    (h : (outcomes reader files settings values).2 = none) :
    outcomes reader files settings (values.filter KeySource.isSource) =
      ((outcomes reader files settings values).1.filter fun outcome => !outcome.isInvalid,
        none) := by
  induction values with
  | nil => rfl
  | cons raw rest ih =>
    cases ho : SourceOutcome.ofValue reader files settings raw with
    | error fault => simp [outcomes, ho] at h
    | ok outcome =>
      simp only [outcomes, ho] at h
      have hrest := ih h
      rw [List.filter_cons, SourceOutcome.isSource_eq ho]
      cases hi : outcome.isInvalid with
      | true => simp [outcomes, ho, hi, hrest]
      | false => simp [outcomes, ho, hi, hrest]

/-- Each value that is no source has its line, in their order. -/
theorem rejects_invalid {values : List Value}
    (h : (outcomes reader files settings values).2 = none) :
    List.Forall₂ (fun raw line => ReportLine.Rejects line raw)
      (values.filter fun raw => !KeySource.isSource raw)
      (((outcomes reader files settings values).1.filter SourceOutcome.isInvalid).filterMap
        (SourceOutcome.reportLine? settings)) := by
  induction values with
  | nil => exact .nil
  | cons raw rest ih =>
    cases ho : SourceOutcome.ofValue reader files settings raw with
    | error fault => simp [outcomes, ho] at h
    | ok outcome =>
      simp only [outcomes, ho] at h ⊢
      have hrest := ih h
      rw [List.filter_cons, List.filter_cons, SourceOutcome.isSource_eq ho, Bool.not_not]
      cases outcome with
      | invalid location issues =>
        refine .cons ?_ hrest
        cases hv : KeySource.ofValue raw with
        | ok source =>
          simp only [SourceOutcome.ofValue, hv] at ho
          cases SourceOutcome.isInvalid_of_ofSource ho
        | error found =>
          simp only [SourceOutcome.ofValue, hv] at ho
          cases ht : SourceOutcome.locationText raw with
          | error fault => simp [ht, Except.map] at ho
          | ok text =>
            simp only [ht, Except.map, Except.ok.injEq, SourceOutcome.invalid.injEq] at ho
            obtain ⟨rfl, rfl⟩ := ho
            exact ⟨found, hv, ht, SourceOutcome.strip_ne_of_locationText ht, rfl⟩
      | token source => exact hrest
      | refused source fault => exact hrest
      | loaded source id key => exact hrest

/-! ## Batches without some of their lines -/

/-- The batch with other lines in its report. -/
def withErrors (batch : Batch) (errors : List ReportLine) : Batch :=
  { batch with report := { batch.report with errors := errors } }

/-- What a batch does with an outcome does not depend on the lines that it has. -/
theorem add_withErrors (batch : Batch) (errors : List ReportLine) (outcome : SourceOutcome) :
    (batch.withErrors errors).add settings outcome =
      (batch.add settings outcome).withErrors
        (errors ++ (outcome.reportLine? settings).toList) := by
  cases outcome with
  | invalid location issues => rfl
  | token source =>
    cases hr : settings.reportTokens <;>
      simp [add, withErrors, SourceOutcome.reportLine?, Report.addError, hr]
  | refused source fault => rfl
  | loaded source id key =>
    simp only [add, addKey, withErrors, SourceOutcome.reportLine?, Option.toList_none,
      List.append_nil]
    cases batch.keys.find? id <;> rfl

/-- Outcomes of values that are no sources add their lines, and nothing else. -/
theorem foldl_add_withErrors (batch : Batch) (errors : List ReportLine)
    (outcomes : List SourceOutcome) :
    outcomes.foldl (add settings) (batch.withErrors errors) =
      ((outcomes.filter fun outcome => !outcome.isInvalid).foldl (add settings) batch).withErrors
        (errors ++ outcomes.filterMap (SourceOutcome.reportLine? settings)) := by
  induction outcomes generalizing batch errors with
  | nil => simp
  | cons outcome rest ih =>
    rw [List.foldl_cons, add_withErrors, filterMap_cons_eq_append, ← List.append_assoc]
    cases hi : outcome.isInvalid with
    | false =>
      rw [ih, List.filter_cons, hi]
      rfl
    | true =>
      have hsame : ∀ lines, (batch.add settings outcome).withErrors lines =
          batch.withErrors lines := by
        intro lines
        cases outcome <;> first | rfl | cases hi
      rw [hsame, ih, List.filter_cons, hi]
      rfl

/-- With the values that are no sources, a batch has their lines besides. -/
theorem ofSources_withErrors (pool : KeyPool) {values : List Value}
    (h : (outcomes reader files settings values).2 = none) :
    ∃ others,
      ofSources reader files settings pool (values.filter KeySource.isSource) = (others, none) ∧
        ofSources reader files settings pool values =
          (others.withErrors (lines reader files settings values), none) := by
  have hothers := outcomes_filter_isSource h
  have hfold := @foldl_add_withErrors settings { pool := pool } []
    (outcomes reader files settings values).1
  refine ⟨_, ofSources_complete pool (congrArg Prod.snd hothers), ?_⟩
  rw [ofSources_complete pool h, hothers]
  exact congrArg (fun batch : Batch => (batch.finish, none)) hfold

/-- What loading values comes to, beside loading only those of them that are sources: all is the
same but for a line for each of the other values, which stand in their order. -/
structure Spares (values : List Value) (batch others : Batch) : Prop where
  pool : batch.pool = others.pool
  keys : batch.keys = others.keys
  log : batch.log = others.log
  loaded : batch.report.loaded = others.report.loaded
  skipped : batch.report.skipped = others.report.skipped
  lines : (batch.report.errors.filter fun line => !line.isInvalid) = others.report.errors
  rejected : List.Forall₂ (fun raw line => ReportLine.Rejects line raw)
    (values.filter fun raw => !KeySource.isSource raw)
    (batch.report.errors.filter ReportLine.isInvalid)

theorem spares_ofSources {pool : KeyPool} {values : List Value} {batch : Batch}
    (h : ofSources reader files settings pool values = (batch, none)) :
    ∃ others,
      ofSources reader files settings pool (values.filter KeySource.isSource) = (others, none) ∧
        Spares values batch others := by
  have hcomplete : (outcomes reader files settings values).2 = none := by
    rw [← ofSources_fault pool, h]
  have hfilter := SourceOutcome.filter_reportLines settings
    (outcomes reader files settings values).1
  obtain ⟨others, hothers, hvalues⟩ := ofSources_withErrors pool hcomplete
  obtain rfl : batch = others.withErrors (lines reader files settings values) :=
    (Prod.mk.inj (h.symm.trans hvalues)).1
  refine ⟨others, hothers, rfl, rfl, rfl, rfl, rfl, ?_, ?_⟩
  · rw [errors_of_ofSources hothers]
    unfold lines
    rw [outcomes_filter_isSource hcomplete]
    exact hfilter (!·)
  · show List.Forall₂ _ _
      ((lines reader files settings values).filter fun line => id line.isInvalid)
    rw [lines, hfilter id]
    exact rejects_invalid hcomplete

/-- A batch depends on nothing but the outcomes of its values. -/
theorem ofSources_congr {values others : List Value}
    (h : outcomes reader files settings values = outcomes reader files settings others)
    (pool : KeyPool) :
    ofSources reader files settings pool values = ofSources reader files settings pool others := by
  simp only [ofSources, addAll_eq, h]

/-- Where no value has a line of this kind, all of them are sources. -/
theorem forall_isSource_iff {pool : KeyPool} {values : List Value} {batch : Batch}
    (h : ofSources reader files settings pool values = (batch, none)) :
    (∀ raw ∈ values, KeySource.isSource raw = true) ↔
      ∀ line ∈ batch.report.errors, line.isInvalid = false := by
  obtain ⟨others, _, hspares⟩ := spares_ofSources h
  have hlength := List.Forall₂.length_eq hspares.rejected
  constructor
  · intro hall
    have hnone : (values.filter fun raw => !KeySource.isSource raw) = [] := by
      rw [List.filter_eq_nil_iff]
      intro raw hm
      simp [hall raw hm]
    rw [hnone, List.length_nil, eq_comm, List.length_eq_zero_iff, List.filter_eq_nil_iff] at hlength
    intro line hm
    simpa using hlength line hm
  · intro hall
    have hnone : batch.report.errors.filter ReportLine.isInvalid = [] := by
      rw [List.filter_eq_nil_iff]
      intro line hm
      simp [hall line hm]
    rw [hnone, List.length_nil, List.length_eq_zero_iff, List.filter_eq_nil_iff] at hlength
    intro raw hm
    simpa using hlength raw hm

end Batch

namespace Store

/-- A reload of a list depends on nothing but the batch of its values. -/
theorem reload_list_congr {reader : KeyReader} {files : FileSystem} {store : Store}
    {values others : List Value}
    (h : ∀ pool, Batch.ofSources reader files store.settings pool values =
      Batch.ofSources reader files store.settings pool others) (pool : KeyPool) :
    store.reload reader files pool (.value (.list values)) =
      store.reload reader files pool (.value (.list others)) := by
  have hgather : store.gather reader files pool (.value (.list values)) =
      store.gather reader files pool (.value (.list others)) := by
    simp only [gather, arrivals, Value.elements?, list_sources, h]
  simp only [reload, hgather]

/-- The report of a reload that returns is that of the batch. -/
theorem report_of_reload_list {reader : KeyReader} {files : FileSystem} {store : Store}
    {pool : KeyPool} {values : List Value} {report : Report}
    (h : (store.reload reader files pool (.value (.list values))).result = .ok report) :
    ∃ batch, Batch.ofSources reader files store.settings pool values = (batch, none) ∧
      batch.report = report := by
  cases hc : store.closed with
  | true =>
    have hk : store.keys = none := by simpa [closed] using hc
    simp [reload, current, hk] at h
  | false =>
    have hs : store.arrivals (.value (.list values)) = .ok (values.map .source) := rfl
    rw [reload_sources reader files pool hc hs] at h
    cases hb : Batch.ofSources reader files store.settings pool values with
    | mk batch stop =>
      rw [hb] at h
      cases stop with
      | some fault => cases h
      | none =>
        refine ⟨batch, rfl, ?_⟩
        simp only [notify] at h
        split at h
        · split at h
          · exact Except.ok.inj h
          · split at h
            · exact Except.ok.inj h
            · cases h
        · exact Except.ok.inj h

end Store

/-! ## Documents -/

namespace Batch

/-- An array in a text, read as a whole and loaded item by item. It can be read exactly if loading
its items, or reloading a store with them, gives no line about an item that is no source; loading
the items and loading the sources that are read then come to the same, and so do reloads. An array
that cannot be read fails for the first item that is no source; when its items are loaded, each such
item has its line, and all else is as if there were only the other items. An array in bytes is read
like that in their text. -/
theorem readArray_iff_no_invalid (reader : KeyReader) (files : FileSystem) (settings : Settings)
    (pool : KeyPool) {text : List Char} {items : List Json}
    (h : Json.ofText text = some (.array items)) :
    let values := Json.toValues items
    (∀ batch, ofSources reader files settings pool values = (batch, none) →
      ((∃ sources, KeySource.readArray text = .ok sources) ↔
        ∀ line ∈ batch.report.errors, line.isInvalid = false)) ∧
    (∀ (store : Store) (report : Report),
      (store.reload reader files pool (.value (.list values))).result = .ok report →
        ((∃ sources, KeySource.readArray text = .ok sources) ↔
          ∀ line ∈ report.errors, line.isInvalid = false)) ∧
    (∀ sources, KeySource.readArray text = .ok sources →
      ofSources reader files settings pool values =
        ofSources reader files settings pool (sources.map .source) ∧
      ∀ store : Store, store.reload reader files pool (.value (.list values)) =
        store.reload reader files pool (.value (.list (sources.map .source)))) ∧
    (∀ fault, KeySource.readArray text = .error fault →
      (∃ first rest issues,
        values.filter (fun raw => !KeySource.isSource raw) = first :: rest ∧
          KeySource.ofValue first = .error issues ∧ fault = .invalid issues) ∧
      ∀ batch, ofSources reader files settings pool values = (batch, none) →
        ∃ others,
          ofSources reader files settings pool (values.filter KeySource.isSource) =
            (others, none) ∧ Spares values batch others) ∧
    ∀ bytes, Bytes.toText? bytes = some (String.ofList text) →
      KeySource.readArrayBytes bytes = KeySource.readArray text := by
  intro values
  have hread : KeySource.readArray text = KeySource.ofItems values := by
    simp only [KeySource.readArray, h, values]
  have hexists := KeySource.exists_ofItems_iff values
  rw [hread]
  refine ⟨?_, ?_, ?_, ?_, ?_⟩
  · intro batch hb
    rw [hexists, forall_isSource_iff hb]
  · intro store report hr
    obtain ⟨batch, hb, rfl⟩ := Store.report_of_reload_list hr
    rw [hexists, forall_isSource_iff hb]
  · intro sources hs
    have houtcomes : ∀ settings, outcomes reader files settings values =
        outcomes reader files settings (sources.map .source) :=
      fun _ => (outcomes_map_source (KeySource.ofItems_eq_ok_iff.1 hs)).symm
    refine ⟨ofSources_congr (houtcomes settings) pool, ?_⟩
    intro store
    exact Store.reload_list_congr (ofSources_congr (houtcomes store.settings)) pool
  · intro fault hf
    refine ⟨KeySource.ofItems_eq_error_iff.1 hf, ?_⟩
    intro batch hb
    exact spares_ofSources hb
  · intro bytes hbytes
    simp only [KeySource.readArrayBytes, hbytes, String.toList_ofList, hread]

/-- A source, no record and a token. -/
def mixedItems : List Json :=
  [.object [("location", .text "a")], .null, .object [("location", .text "pkcs11:a")]]

/-- An array of them. -/
def mixedText : List Char :=
  "[\x7b\"location\": \"a\"\x7d, null, \x7b\"location\": \"pkcs11:a\"\x7d]".toList

/-- The array cannot be read, for the item that is no record, and this item has one line beside what
the other two come to. -/
theorem readArray_past_null :
    Json.ofText mixedText = some (.array mixedItems) ∧
      KeySource.readArray mixedText = .error (.invalid [⟨[], .notRecord "KeySource"⟩]) ∧
      ∃ batch others,
        ofSources smallReader smallFiles {} [] (Json.toValues mixedItems) = (batch, none) ∧
        ofSources smallReader smallFiles {} []
          ((Json.toValues mixedItems).filter KeySource.isSource) = (others, none) ∧
        Spares (Json.toValues mixedItems) batch others := by
  have htext : Json.ofText mixedText = some (.array mixedItems) := rfl
  have hread : KeySource.readArray mixedText =
      .error (.invalid [⟨[], .notRecord "KeySource"⟩]) := by
    simp only [KeySource.readArray, htext]
    rfl
  have hagree := readArray_iff_no_invalid smallReader smallFiles {} [] htext
  obtain ⟨others, hothers, hspares⟩ := (hagree.2.2.2.1 _ hread).2 _ rfl
  exact ⟨htext, hread, _, others, rfl, hothers, hspares⟩

end Batch

end Keyring
