import Keyring.Proofs.KeyImport
import Keyring.Proofs.SourceOrder
import Mathlib.Data.List.Forall2

/-!
# Larger limits

A key file is read as a whole or not at all. So a larger limit on key files changes what a source
comes to only where its file was refused for its size: no parser ever sees the start of a file that
is cut off, which might be a key in its own right. Main statement: a batch under the larger limit
has all identifiers that it has under the smaller one, and no more failures.
-/

namespace Keyring

/-- The settings with a limit on key files that is larger by some bytes. -/
def Settings.raiseLimit (settings : Settings) (extra : Nat) : Settings :=
  { settings with
    maxFileSize := settings.maxFileSize + extra
    maxFileSize_pos := Nat.add_pos_left settings.maxFileSize_pos extra }

/-! ## One file -/

namespace KeyFile

/-- Whether a file is refused for its size. -/
def Fault.isSize : Fault → Bool
  | .tooLarge _ => true
  | _ => false

/-- What is read of a file under a larger limit is what was read of it before, unless the file was
refused for its size or the limit is too large to read up to. -/
theorem read_of_le (files : FileSystem) (location : String) {limit larger : Nat}
    (h : limit ≤ larger) :
    read files location (.int larger) = read files location (.int limit) ∨
      (∃ text, read files location (.int limit) = .error (.refused (.tooLarge text))) ∨
      ∃ fault, read files location (.int larger) = .error (.unusable fault) := by
  cases hr : files.read location with
  | error fault =>
    refine .inl ?_
    unfold read
    rw [hr]
    cases fault <;> rfl
  | ok content =>
    rw [read_of_ok hr, read_of_ok hr]
    by_cases hm : Bytes.maxSize ≤ larger
    · exact .inr (.inr ⟨_, by rw [if_pos hm]⟩)
    · have hm' : ¬ Bytes.maxSize ≤ limit := by omega
      rw [if_neg hm, if_neg hm']
      by_cases hl : content.length ≤ limit
      · have hl' : content.length ≤ larger := by omega
        exact .inl (by rw [if_pos hl, if_pos hl'])
      · exact .inr (.inl ⟨_, by rw [if_neg hl]⟩)

/-- The import of a file depends on the limit as its reading does. -/
theorem load_of_le (reader : KeyReader) (files : FileSystem) (location credential : String)
    {limit larger : Nat} (h : limit ≤ larger) :
    load reader files location credential (.int larger) =
        load reader files location credential (.int limit) ∨
      (∃ text, load reader files location credential (.int limit) =
        .error (.refused (.tooLarge text))) ∨
      ∃ fault, load reader files location credential (.int larger) = .error (.unusable fault) := by
  rcases read_of_le files location h with heq | ⟨text, hsize⟩ | ⟨fault, hunusable⟩
  · exact .inl (by rw [load, heq, load])
  · exact .inr (.inl ⟨text, by rw [load, hsize]⟩)
  · exact .inr (.inr ⟨fault, by rw [load, hunusable]⟩)

end KeyFile

/-! ## One source -/

namespace SourceOutcome

/-- Whether a source fails for the size of its file. -/
def isOversized : SourceOutcome → Bool
  | .refused _ fault => fault.isSize
  | _ => false

/-- What the outcome of a source may become under a larger limit: it stays as it is, except that a
file which was refused for its size may be refused for another reason, or loaded. -/
inductive Widens : SourceOutcome → SourceOutcome → Prop where
  | same (outcome : SourceOutcome) : Widens outcome outcome
  | refused (source : KeySource) (text : String) (fault : KeyFile.Fault) :
    Widens (.refused source (.tooLarge text)) (.refused source fault)
  | loaded (source : KeySource) (text : String) (id : KeyId) (key : Rsa.PrivateKey) :
    Widens (.refused source (.tooLarge text)) (.loaded source id key)

namespace Widens

variable {outcome other : SourceOutcome}

theorem eq_of_not_isOversized (h : Widens outcome other) (ho : outcome.isOversized = false) :
    other = outcome := by
  cases h with
  | same => rfl
  | refused => cases ho
  | loaded => cases ho

/-- A key that is loaded is loaded. -/
theorem load?_eq (h : Widens outcome other) {load : Load} (hl : outcome.load? = some load) :
    other.load? = some load := by
  cases h with
  | same => exact hl
  | refused => cases hl
  | loaded => cases hl

theorem isSkipped_eq (h : Widens outcome other) : other.isSkipped = outcome.isSkipped := by
  cases h <;> rfl

/-- A source that fails under the larger limit has failed before, at the same location. -/
theorem location_of_reportLine? (h : Widens outcome other) {settings : Settings}
    {location : String}
    (hl : (other.reportLine? settings).map ReportLine.location = some location) :
    (outcome.reportLine? settings).map ReportLine.location = some location := by
  cases h with
  | same => exact hl
  | refused => exact hl
  | loaded => cases hl

end Widens

variable {reader : KeyReader} {files : FileSystem} {settings : Settings} {extra : Nat}

/-- A source with an outcome under the larger limit had one before. -/
theorem widens_of_ofSource {source : KeySource} {other : SourceOutcome}
    (ho : ofSource reader files (settings.raiseLimit extra) source = .ok other) :
    ∃ outcome, ofSource reader files settings source = .ok outcome ∧ Widens outcome other := by
  have hle : settings.maxFileSize ≤ settings.maxFileSize + extra := Nat.le_add_right ..
  unfold ofSource at ho ⊢
  cases ht : source.isToken settings.tokenMark with
  | true =>
    have ht' : source.isToken (settings.raiseLimit extra).tokenMark = true := ht
    simp only [ht', if_true] at ho
    cases ho
    exact ⟨_, rfl, .same _⟩
  | false =>
    have ht' : source.isToken (settings.raiseLimit extra).tokenMark = false := ht
    simp only [ht', Bool.false_eq_true, if_false] at ho ⊢
    rcases KeyFile.load_of_le reader files source.location source.credential hle with
      heq | ⟨text, hsize⟩ | ⟨fault, hunusable⟩
    · have hload : KeyFile.load reader files source.location source.credential
          (settings.raiseLimit extra).limit =
            KeyFile.load reader files source.location source.credential settings.limit := heq
      rw [hload] at ho
      exact ⟨other, ho, .same _⟩
    · have hload : KeyFile.load reader files source.location source.credential settings.limit =
          .error (.refused (.tooLarge text)) := hsize
      rw [hload]
      refine ⟨_, rfl, ?_⟩
      split at ho
      · cases ho
        exact .loaded ..
      · cases ho
        exact .refused ..
      · cases ho
    · have hload : KeyFile.load reader files source.location source.credential
          (settings.raiseLimit extra).limit = .error (.unusable fault) := hunusable
      rw [hload] at ho
      cases ho

/-- A value with an outcome under the larger limit had one before. -/
theorem widens_of_ofValue {raw : Value} {other : SourceOutcome}
    (ho : ofValue reader files (settings.raiseLimit extra) raw = .ok other) :
    ∃ outcome, ofValue reader files settings raw = .ok outcome ∧ Widens outcome other := by
  unfold ofValue at ho ⊢
  cases hv : KeySource.ofValue raw with
  | error issues =>
    simp only [hv] at ho
    exact ⟨other, ho, .same _⟩
  | ok source =>
    simp only [hv] at ho
    exact widens_of_ofSource ho

end SourceOutcome

/-! ## Lists of sources -/

/-- What a function picks from a list, another one picks from a list that is related to it item by
item, if it picks the same wherever the first one picks something. -/
theorem sublist_filterMap_of_forall₂ {α β γ : Type} {R : α → β → Prop} {f : α → Option γ}
    {g : β → Option γ} (hfg : ∀ a b, R a b → ∀ c, f a = some c → g b = some c) {items : List α}
    {others : List β} (h : List.Forall₂ R items others) :
    (items.filterMap f).Sublist (others.filterMap g) := by
  induction h with
  | nil => exact .slnil
  | @cons a b _ _ hab _ ih =>
    cases hf : f a with
    | none =>
      rw [List.filterMap_cons_none hf, filterMap_cons_eq_append]
      exact ih.trans (List.sublist_append_right _ _)
    | some c =>
      rw [List.filterMap_cons_some hf, List.filterMap_cons_some (hfg a b hab c hf)]
      exact ih.cons_cons c

namespace Batch

variable {reader : KeyReader} {files : FileSystem} {settings : Settings} {extra : Nat}
  {sources : List Value}

/-- A batch that comes to its end under the larger limit has come to it before, and its outcomes
are those from before as far as they were not about the size of a file. -/
theorem outcomes_widen
    (hc : (outcomes reader files (settings.raiseLimit extra) sources).2 = none) :
    (outcomes reader files settings sources).2 = none ∧
      List.Forall₂ SourceOutcome.Widens (outcomes reader files settings sources).1
        (outcomes reader files (settings.raiseLimit extra) sources).1 := by
  induction sources with
  | nil => exact ⟨rfl, .nil⟩
  | cons raw rest ih =>
    cases ho : SourceOutcome.ofValue reader files (settings.raiseLimit extra) raw with
    | error fault => simp [outcomes, ho] at hc
    | ok other =>
      simp only [outcomes, ho] at hc ⊢
      obtain ⟨outcome, ho', hw⟩ := SourceOutcome.widens_of_ofValue ho
      obtain ⟨hrest, hwiden⟩ := ih hc
      simp only [ho']
      exact ⟨hrest, .cons hw hwiden⟩

/-- The keys that are loaded under the larger limit are those from before with more between them. -/
theorem loads_sublist {outcomes others : List SourceOutcome}
    (h : List.Forall₂ SourceOutcome.Widens outcomes others) :
    (loads outcomes).Sublist (loads others) :=
  sublist_filterMap_of_forall₂ (fun _ _ hw _ => hw.load?_eq) h

theorem countP_isSkipped_eq {outcomes others : List SourceOutcome}
    (h : List.Forall₂ SourceOutcome.Widens outcomes others) :
    others.countP SourceOutcome.isSkipped = outcomes.countP SourceOutcome.isSkipped := by
  induction h with
  | nil => rfl
  | cons hw _ ih => rw [List.countP_cons, List.countP_cons, ih, hw.isSkipped_eq]

/-- The lines of sources whose files are not refused for their size. -/
def otherLines (reader : KeyReader) (files : FileSystem) (settings : Settings)
    (sources : List Value) : List ReportLine :=
  ((outcomes reader files settings sources).1.filter fun outcome => !outcome.isOversized).filterMap
    (SourceOutcome.reportLine? settings)

theorem mem_otherLines (hc : (outcomes reader files settings sources).2 = none) {raw : Value}
    {outcome : SourceOutcome} {line : ReportLine} (hr : raw ∈ sources)
    (ho : SourceOutcome.ofValue reader files settings raw = .ok outcome)
    (hs : outcome.isOversized = false) (hl : outcome.reportLine? settings = some line) :
    line ∈ otherLines reader files settings sources :=
  List.mem_filterMap.2 ⟨outcome, List.mem_filter.2 ⟨mem_outcomes hc hr ho, by simp [hs]⟩, hl⟩

/-- What a batch comes to, and what it comes to under a larger limit. No identifier is lost, the
same sources are skipped, the failures are at locations of failures from before, and those that
were not about the size of a file are all there. -/
structure Widened (reader : KeyReader) (files : FileSystem) (settings : Settings)
    (sources : List Value) (batch other : Batch) : Prop where
  ids : ∀ id ∈ batch.keys.keys, id ∈ other.keys.keys
  skipped : other.report.skipped = batch.report.skipped
  length_errors : other.report.errors.length ≤ batch.report.errors.length
  locations : (other.report.errors.map ReportLine.location).Sublist
    (batch.report.errors.map ReportLine.location)
  otherLines : (otherLines reader files settings sources).Sublist other.report.errors

theorem reportLine?_raiseLimit :
    SourceOutcome.reportLine? (settings.raiseLimit extra) = SourceOutcome.reportLine? settings := by
  funext outcome
  cases outcome <;> rfl

theorem widened {pool pool' : KeyPool} {batch other : Batch}
    (hb : ofSources reader files settings pool sources = (batch, none))
    (hb' : ofSources reader files (settings.raiseLimit extra) pool' sources = (other, none)) :
    Widened reader files settings sources batch other := by
  have hc : (outcomes reader files (settings.raiseLimit extra) sources).2 = none := by
    rw [← ofSources_fault pool', hb']
  have hwiden := (outcomes_widen hc).2
  have hlocations : (other.report.errors.map ReportLine.location).Sublist
      (batch.report.errors.map ReportLine.location) := by
    rw [errors_of_ofSources hb, errors_of_ofSources hb', lines, lines, reportLine?_raiseLimit,
      List.map_filterMap, List.map_filterMap]
    refine sublist_filterMap_of_forall₂ ?_ hwiden.flip
    intro other outcome (hw : outcome.Widens other) location hl
    exact hw.location_of_reportLine? hl
  constructor
  case ids =>
    intro id hid
    rw [(holds_of_ofSources hb).ids, List.mem_eraseDups] at hid
    rw [(holds_of_ofSources hb').ids, List.mem_eraseDups]
    exact ((loads_sublist hwiden).map Prod.fst).subset hid
  case skipped =>
    rw [report_of_ofSources hb, report_of_ofSources hb', countP_isSkipped_eq hwiden]
  case length_errors => simpa using hlocations.length_le
  case locations => exact hlocations
  case otherLines =>
    rw [errors_of_ofSources hb', lines, reportLine?_raiseLimit, Batch.otherLines,
      List.filterMap_filter]
    refine sublist_filterMap_of_forall₂ (fun outcome other hw line hl => ?_) hwiden
    cases ho : outcome.isOversized with
    | true => simp [ho] at hl
    | false =>
      rw [hw.eq_of_not_isOversized ho]
      simpa [ho] using hl

/-- A larger limit loses no key. A batch that comes to its end under it comes to its end without it
as well, and `Widened` says what the two have in common. Each source comes to the same, so that it
loads the same key or fails with the same line, unless its file was refused for its size; then it
loads a key now, or fails at the same location. -/
theorem ofSources_raiseLimit (reader : KeyReader) (files : FileSystem) (settings : Settings)
    (extra : Nat) (sources : List Value) (pool pool' : KeyPool) :
    let first := ofSources reader files settings pool sources
    let second := ofSources reader files (settings.raiseLimit extra) pool' sources
    second.2 = none → first.2 = none ∧ Widened reader files settings sources first.1 second.1 ∧
      ∀ raw ∈ sources, ∃ outcome other,
        SourceOutcome.ofValue reader files settings raw = .ok outcome ∧
        SourceOutcome.ofValue reader files (settings.raiseLimit extra) raw = .ok other ∧
        outcome.Widens other ∧ (outcome.isOversized = false → other = outcome ∧
          ∀ line, outcome.reportLine? settings = some line → line ∈ second.1.report.errors) := by
  intro first second hsecond
  have hc : (outcomes reader files (settings.raiseLimit extra) sources).2 = none := by
    rw [← ofSources_fault pool']
    exact hsecond
  have hfirst : first.2 = none := (ofSources_fault pool sources).trans (outcomes_widen hc).1
  have hwidened : Widened reader files settings sources first.1 second.1 :=
    widened (Prod.ext rfl hfirst) (Prod.ext rfl hsecond)
  refine ⟨hfirst, hwidened, ?_⟩
  intro raw hr
  have hends : ¬ SourceOutcome.Stops files (settings.raiseLimit extra) raw :=
    (outcomes_complete_iff reader files _ sources).1 hc raw hr
  rw [← SourceOutcome.ofValue_error_iff reader] at hends
  cases ho : SourceOutcome.ofValue reader files (settings.raiseLimit extra) raw with
  | error fault => exact absurd ⟨fault, ho⟩ hends
  | ok other =>
    obtain ⟨outcome, ho', hw⟩ := SourceOutcome.widens_of_ofValue ho
    refine ⟨outcome, other, ho', rfl, hw, ?_⟩
    intro hsize
    refine ⟨hw.eq_of_not_isOversized hsize, ?_⟩
    intro line hline
    exact hwidened.otherLines.subset
      (mem_otherLines (outcomes_widen hc).1 hr ho' hsize hline)

/-- A reader of keys of two bytes, whatever comes after them. -/
def prefixReader : KeyReader where
  digest info := List.replicate KeyId.size (info.getLastD 0)
  pem content :=
    match content with
    | e :: d :: _ => some (.rsa ⟨0, e.toNat, d.toNat, 0, 0, 0, 0, 0⟩)
    | _ => none
  container _ _ := none

/-- Files of one, two, three and four bytes. -/
def growingFiles : FileSystem where
  nodes := [(["a"], .file [3]), (["b"], .file [5, 1]), (["c"], .file [7, 1, 2]),
    (["d"], .file [9, 1, 2, 3])]
  workingDirectory := []

/-- A limit of two bytes. -/
def twoBytes : Settings :=
  { Settings.standard with maxFileSize := 2, maxFileSize_pos := Nat.two_pos }

/-- With three bytes in place of two, a file is loaded whose first two bytes are a key on their own,
while a larger one is still refused. -/
theorem ofSources_three_bytes :
    let sources : List Value := ["a", "b", "c", "d"].map fun name =>
      .record [("location", .text name)]
    let first := ofSources prefixReader growingFiles twoBytes [] sources
    let second := ofSources prefixReader growingFiles (twoBytes.raiseLimit 1) [] sources
    second.2 = none ∧ (first.1.report.loaded, second.1.report.loaded) = (1, 2) ∧ first.2 = none ∧
      Widened prefixReader growingFiles twoBytes sources first.1 second.1 := by
  intro sources first second
  have hsecond : second.2 = none := by decide
  obtain ⟨hfirst, hwidened, _⟩ :=
    ofSources_raiseLimit prefixReader growingFiles twoBytes 1 sources [] [] hsecond
  exact ⟨hsecond, by decide, hfirst, hwidened⟩

end Batch

end Keyring
