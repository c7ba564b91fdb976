import Keyring.Proofs.KeyImport
import Keyring.Proofs.OneLine
import Mathlib.Data.List.Forall2

/-!
# The lines of a report

A report is written with a line feed between its header and its failures. Nothing that is said about
a failure has a line feed in it, and neither has a location that was given as anything but a text; a
text that is given for a location keeps those that it has. Main statement: split at its line feeds,
a report has its header and a line for each failure exactly if no source that fails has a location
with a line feed in it, and one line more for each such line feed.

What a parser has to say about a file is left out of the messages here. `Report.Detailed` puts it
back, so that the statements hold whatever it is, as long as it stands on one line.
-/

namespace Keyring

open Text

/-! ## Splitting -/

namespace Text

variable {α : Type} [BEq α] [LawfulBEq α]

/-- Parts that are joined with an element come apart on their own when they are split at it. -/
theorem splitOn_intercalate_singleton (a : α) (first : List α) (rest : List (List α)) :
    (List.intercalate [a] (first :: rest)).splitOn a =
      (first :: rest).flatMap (List.splitOn a) := by
  induction rest generalizing first with
  | nil => simp
  | cons next others ih =>
    rw [List.intercalate_cons_cons, List.append_assoc, List.singleton_append,
      List.splitOn_append_cons_self, ih]
    simp only [List.flatMap_cons]

omit [LawfulBEq α] in
theorem length_splitOn (a : α) (elements : List α) :
    (elements.splitOn a).length = elements.count a + 1 := by
  induction elements with
  | nil => rfl
  | cons first rest ih =>
    rw [List.splitOn_cons_eq_if_modifyHead, List.count_cons]
    split <;> simp [ih]

end Text

/-! ## Reports -/

namespace ReportLine

/-- The line has the same location, and the message with something more on the same line. -/
def Detailed (line told : ReportLine) : Prop :=
  told.location = line.location ∧
    ∃ detail, told.message = line.message ++ detail ∧ OneLine detail

theorem Detailed.refl (line : ReportLine) : line.Detailed line :=
  ⟨rfl, "", String.append_empty.symm, by decide⟩

theorem map_location_of_detailed {lines told : List ReportLine}
    (h : List.Forall₂ Detailed lines told) : told.map location = lines.map location := by
  induction h with
  | nil => rfl
  | cons hline _ ih => rw [List.map_cons, List.map_cons, hline.1, ih]

theorem oneLine_message_of_detailed {lines told : List ReportLine}
    (h : List.Forall₂ Detailed lines told) (hm : ∀ line ∈ lines, OneLine line.message) :
    ∀ line ∈ told, OneLine line.message := by
  induction h with
  | nil => simp
  | cons hline _ ih =>
    obtain ⟨hfirst, hrest⟩ := List.forall_mem_cons.1 hm
    obtain ⟨_, detail, hmessage, hdetail⟩ := hline
    exact List.forall_mem_cons.2 ⟨hmessage ▸ hfirst.append hdetail, ih hrest⟩

/-- The line feeds of a line are those of its location. -/
theorem count_text {line : ReportLine} (h : OneLine line.message) :
    line.text.toList.count '\n' = line.location.toList.count '\n' := by
  have htext : line.text = line.location ++ ": " ++ line.message := rfl
  rw [htext, String.toList_append, String.toList_append, List.count_append, List.count_append,
    List.count_eq_zero.2 h]
  rfl

/-- The lines that failures come apart into are one for each, and one more for each line feed in a
location. -/
theorem length_flatMap_splitOn {lines : List ReportLine}
    (h : ∀ line ∈ lines, OneLine line.message) :
    (lines.flatMap fun line => line.text.toList.splitOn '\n').length =
      lines.length + (lines.flatMap fun line => line.location.toList).count '\n' := by
  induction lines with
  | nil => rfl
  | cons line rest ih =>
    obtain ⟨hline, hrest⟩ := List.forall_mem_cons.1 h
    simp only [List.flatMap_cons, List.length_append, List.count_append, List.length_cons,
      length_splitOn, count_text hline, ih hrest]
    omega

end ReportLine

namespace Report

/-- The report with something more said on each of its lines. -/
def Detailed (report told : Report) : Prop :=
  List.Forall₂ ReportLine.Detailed report.errors told.errors

theorem Detailed.refl (report : Report) : report.Detailed report :=
  List.forall₂_same.2 fun line _ => .refl line

/-- How a report comes apart at its line feeds. -/
theorem splitOn_format (report : Report) :
    report.format.toList.splitOn '\n' =
      ((header :: report.errors.map ReportLine.text).map String.toList).flatMap
        (List.splitOn '\n') := by
  have hbreak : "\n".toList = ['\n'] := rfl
  rw [format, String.toList_intercalate, hbreak, List.map_cons, splitOn_intercalate_singleton]

/-- A report has a line for its header and one for each failure, and one more for each line feed in
a location. -/
theorem length_splitOn_format {report : Report}
    (h : ∀ line ∈ report.errors, OneLine line.message) :
    (report.format.toList.splitOn '\n').length =
      1 + report.errors.length +
        (report.errors.flatMap fun line => line.location.toList).count '\n' := by
  have hheader : (header.toList.splitOn '\n').length = 1 := by
    rw [length_splitOn]
    decide
  rw [splitOn_format, List.map_cons, List.flatMap_cons, List.length_append, hheader,
    List.flatMap_map, List.flatMap_map, ReportLine.length_flatMap_splitOn h, Nat.add_assoc]

theorem count_locations_eq_zero_iff (errors : List ReportLine) :
    (errors.flatMap fun line => line.location.toList).count '\n' = 0 ↔
      ∀ line ∈ errors, OneLine line.location := by
  rw [List.count_eq_zero, List.mem_flatMap]
  constructor
  · intro h line hm hbreak
    exact h ⟨line, hm, hbreak⟩
  · rintro h ⟨line, hm, hbreak⟩
    exact h line hm hbreak

/-- The lines of a report are its header and its failures exactly if no location has a line feed in
it. -/
theorem splitOn_format_eq_iff {report : Report}
    (h : ∀ line ∈ report.errors, OneLine line.message) :
    report.format.toList.splitOn '\n' =
        (header :: report.errors.map ReportLine.text).map String.toList ↔
      ∀ line ∈ report.errors, OneLine line.location := by
  constructor
  · intro he
    have hlength := length_splitOn_format h
    rw [he, List.length_map, List.length_cons, List.length_map] at hlength
    exact (count_locations_eq_zero_iff report.errors).1 (by omega)
  · intro hl
    have hbreak : "\n".toList = ['\n'] := rfl
    rw [format, String.toList_intercalate, hbreak]
    refine List.splitOn_intercalate '\n' (List.forall_mem_map.2 ?_) (by simp)
    refine List.forall_mem_cons.2 ⟨by decide, List.forall_mem_map.2 fun line hm => ?_⟩
    exact ((hl line hm).append (by decide)).append (h line hm)

end Report

/-! ## What is said about a failure -/

/-- The complaint fits on one line, which it does unless a kind of records has a name that does not.
-/
def Issue.OneLine (issue : Issue) : Prop := Text.OneLine issue.complaint.message

namespace Checked

/-- What is wrong with a value, if anything, is said on one line for each issue. -/
def OneLine {α : Type} (result : Checked α) : Prop :=
  ∀ issues, result = .error issues → ∀ issue ∈ issues, issue.OneLine

variable {α β : Type}

theorem OneLine.ok (a : α) : OneLine (.ok a) := by
  intro issues h
  cases h

theorem OneLine.complain {complaint : Complaint} (h : Text.OneLine complaint.message) :
    OneLine (Field.complain complaint : Checked α) := by
  intro issues he issue hm
  cases he
  rw [List.mem_singleton.1 hm]
  exact h

theorem OneLine.atStep {result : Checked α} (h : OneLine result) (step : PathStep) :
    OneLine (result.atStep step) := by
  cases result with
  | ok a => exact .ok a
  | error issues =>
    intro found he issue hm
    cases he
    obtain ⟨inner, hi, rfl⟩ := List.mem_map.1 hm
    exact h issues rfl inner hi

theorem OneLine.both {first : Checked α} {second : Checked β} (h : OneLine first)
    (h' : OneLine second) : OneLine (first.both second) := by
  cases first with
  | ok a =>
    cases second with
    | ok b => exact .ok _
    | error issues =>
      intro found he
      cases he
      exact h' issues rfl
  | error issues =>
    cases second with
    | ok b =>
      intro found he
      cases he
      exact h issues rfl
    | error more =>
      intro found he issue hm
      cases he
      rcases List.mem_append.1 hm with hm | hm
      · exact h issues rfl issue hm
      · exact h' more rfl issue hm

end Checked

namespace Field

theorem oneLine_text (value : Value) : (text value).OneLine := by
  unfold text
  split
  · exact .ok _
  · exact .complain (by decide)
  · split
    · exact .ok _
    · exact .complain (by decide)
  · exact .complain (by decide)

theorem oneLine_required {α : Type} {read : Value → Checked α} (h : ∀ value, (read value).OneLine)
    (name : String) (fields : List (String × Value)) : (required name read fields).OneLine := by
  refine .atStep ?_ _
  split
  · exact .complain (by decide)
  · exact h _

theorem oneLine_optional {α : Type} {read : Value → Checked α} (h : ∀ value, (read value).OneLine)
    (name : String) (default : α) (fields : List (String × Value)) :
    (optional name read default fields).OneLine := by
  unfold optional
  split
  · exact .ok _
  · exact (h _).atStep _

end Field

namespace KeySource

theorem oneLine_readLocation (value : Value) : (readLocation value).OneLine := by
  have htext := Field.oneLine_text value
  unfold readLocation
  split
  · rename_i issues he
    intro found hf
    cases hf
    exact htext issues he
  · split
    · exact .ok _
    · exact .complain (by decide)

theorem oneLine_ofValue (raw : Value) : (ofValue raw).OneLine := by
  cases raw with
  | source origin => exact .ok origin
  | record fields =>
    have hboth := (Field.oneLine_required oneLine_readLocation "location" fields).both
      (Field.oneLine_optional Field.oneLine_text "credential" "" fields)
    intro issues h
    simp only [ofValue, ofFields] at h
    split at h
    · cases h
    · rename_i found he
      cases h
      exact hboth issues he
  | _ => exact .complain (by decide)

end KeySource

theorem Batch.oneLine_invalidMessage {issues : List Issue} (h : ∀ issue ∈ issues, issue.OneLine) :
    Text.OneLine (invalidMessage issues) := by
  have hsummary : Text.OneLine (Issue.summary issues) :=
    .intercalate (by decide) (List.forall_mem_map.2 h)
  exact Text.OneLine.append (show Text.OneLine "Invalid key source: " by decide) hsummary

namespace KeyFile

theorem Fault.oneLine_message {fault : Fault}
    (h : ∀ limit, fault = .tooLarge limit → OneLine limit) : OneLine fault.message := by
  have hreading : OneLine "Error loading RSA key file: " := by decide
  cases fault with
  | unreadable fault =>
    have hreason : OneLine fault.reason := by cases fault <;> decide
    exact hreading.append hreason
  | tooLarge limit =>
    have hstart : OneLine "Error loading RSA key file: larger than " := by decide
    exact (hstart.append (h limit rfl)).append (by decide)
  | otherAlgorithm algorithm =>
    have hstart : OneLine "Private key algorithm isn't RSA (" := by decide
    have hname : OneLine algorithm.keyName := by cases algorithm <;> decide
    exact (hstart.append hname).append (by decide)
  | digestSize size =>
    have hstart : OneLine "Error calculating Key ID: " := by decide
    have hsize : OneLine (digestSizeMessage size) :=
      .append (.append (.append (by decide) (oneLine_nat size)) (by decide))
        (oneLine_nat KeyId.size)
    exact hstart.append hsize
  | _ => decide

theorem oneLine_message_of_load {reader : KeyReader} {files : FileSystem}
    {location credential : String} {limit : Nat} {fault : Fault}
    (h : load reader files location credential (.int limit) = .error (.refused fault)) :
    OneLine fault.message := by
  refine Fault.oneLine_message ?_
  rintro text rfl
  unfold load at h
  split at h
  · rename_i failure hr
    cases h
    rw [limit_of_read hr]
    exact oneLine_int limit
  · split at h
    · rename_i fault hp
      cases h
      cases kind_of_parse hp
    · split at h <;> cases h

end KeyFile

/-! ## Where locations come from -/

namespace SourceOutcome

/-- The location that a value gives: that of a source, or a text where the location of one is
expected. -/
def givenLocation? (raw : Value) : Option String :=
  match KeySource.ofValue raw with
  | .ok source => some source.location
  | .error _ =>
    match locationValue raw with
    | .text s => some (Text.strip s)
    | _ => none

/-- The location that a value gives has a line feed in it. -/
def SpansLines (raw : Value) : Prop := ∃ location ∈ givenLocation? raw, ¬ OneLine location

instance (raw : Value) : Decidable (SpansLines raw) :=
  inferInstanceAs (Decidable (∃ location ∈ givenLocation? raw, ¬ OneLine location))

/-- What is written for the location of a value that is no source. -/
def written (text : String) : String :=
  if Text.strip text = "" then missingLocation else Text.strip text

theorem oneLine_written_iff (text : String) :
    OneLine (written text) ↔ OneLine (Text.strip text) := by
  unfold written
  split
  · rename_i h
    rw [h]
    decide
  · exact Iff.rfl

theorem locationText_of_text {raw : Value} {s : String} (h : locationValue raw = .text s) :
    locationText raw = .ok (written s) := by
  by_cases hs : s = "" <;>
    simp [locationText, h, Value.isGiven, hs, Value.toText, Value.isShowable, Value.shown,
      Except.map, written]

theorem oneLine_of_locationText {raw : Value} {location : String}
    (h : locationText raw = .ok location) (hv : ∀ s, locationValue raw ≠ .text s) :
    OneLine location := by
  have hshown := Value.oneLine_shown hv
  simp only [locationText, Value.toText] at h
  split at h
  · split at h
    · obtain rfl : written (locationValue raw).shown = location := Except.ok.inj h
      exact (oneLine_written_iff _).2 hshown.strip
    · cases h
  · obtain rfl : written "" = location := Except.ok.inj h
    exact (oneLine_written_iff _).2 (by decide)

variable {reader : KeyReader} {files : FileSystem} {settings : Settings}

theorem spansLines_of_source {raw : Value} {source : KeySource}
    (h : KeySource.ofValue raw = .ok source) : SpansLines raw ↔ ¬ OneLine source.location := by
  simp [SpansLines, givenLocation?, h]

theorem spansLines_of_invalid {raw : Value} {issues : List Issue} {location : String}
    (h : KeySource.ofValue raw = .error issues) (hl : locationText raw = .ok location) :
    SpansLines raw ↔ ¬ OneLine location := by
  by_cases hs : ∃ s, locationValue raw = .text s
  · obtain ⟨s, hs⟩ := hs
    obtain rfl : written s = location := Except.ok.inj ((locationText_of_text hs).symm.trans hl)
    simp [SpansLines, givenLocation?, h, hs, oneLine_written_iff]
  · have hv : ∀ s, locationValue raw ≠ .text s := fun s he => hs ⟨s, he⟩
    have hnone : givenLocation? raw = none := by
      simp only [givenLocation?, h]
    simp [SpansLines, hnone, oneLine_of_locationText hl hv]

/-- A failure has a message on one line, and a location on one line exactly if the location that was
given is. -/
theorem oneLine_of_reportLine? {raw : Value} {outcome : SourceOutcome} {line : ReportLine}
    (ho : ofValue reader files settings raw = .ok outcome)
    (hl : outcome.reportLine? settings = some line) :
    OneLine line.message ∧ (OneLine line.location ↔ ¬ SpansLines raw) := by
  unfold ofValue at ho
  cases hv : KeySource.ofValue raw with
  | error issues =>
    simp only [hv] at ho
    cases ht : locationText raw with
    | error fault => simp [ht, Except.map] at ho
    | ok location =>
      rw [ht] at ho
      obtain rfl : outcome = .invalid location issues := (Except.ok.inj ho).symm
      obtain rfl : line = ⟨location, Batch.invalidMessage issues⟩ := (Option.some.inj hl).symm
      rw [spansLines_of_invalid hv ht, not_not]
      exact ⟨Batch.oneLine_invalidMessage (KeySource.oneLine_ofValue raw issues hv), Iff.rfl⟩
  | ok source =>
    rw [spansLines_of_source hv, not_not]
    simp only [hv, ofSource] at ho
    split at ho
    · obtain rfl : outcome = .token source := (Except.ok.inj ho).symm
      simp only [reportLine?] at hl
      split at hl
      · obtain rfl := Option.some.inj hl
        exact ⟨show OneLine Batch.tokenMessage by decide, Iff.rfl⟩
      · cases hl
    · split at ho
      · cases ho
        cases hl
      · rename_i fault hload
        obtain rfl : outcome = .refused source fault := (Except.ok.inj ho).symm
        obtain rfl : line = ⟨source.location, fault.message⟩ := (Option.some.inj hl).symm
        exact ⟨KeyFile.oneLine_message_of_load hload, Iff.rfl⟩
      · cases ho

/-- A value that costs a line in the report. -/
def Fails (reader : KeyReader) (files : FileSystem) (settings : Settings) (raw : Value) : Prop :=
  ∃ outcome line, ofValue reader files settings raw = .ok outcome ∧
    outcome.reportLine? settings = some line

end SourceOutcome

/-! ## Batches -/

namespace Batch

variable {reader : KeyReader} {files : FileSystem} {settings : Settings} {sources : List Value}

theorem oneLine_messages :
    ∀ line ∈ lines reader files settings sources, OneLine line.message := by
  intro line hm
  obtain ⟨outcome, ho, hl⟩ := List.mem_filterMap.1 hm
  obtain ⟨raw, _, hraw⟩ := exists_of_mem_outcomes ho
  exact (SourceOutcome.oneLine_of_reportLine? hraw hl).1

theorem oneLine_locations_iff (h : (outcomes reader files settings sources).2 = none) :
    (∀ line ∈ lines reader files settings sources, OneLine line.location) ↔
      ∀ raw ∈ sources, SourceOutcome.Fails reader files settings raw →
        ¬ SourceOutcome.SpansLines raw := by
  constructor
  · rintro hall raw hm ⟨outcome, line, ho, hl⟩
    have hmem : Except.ok outcome ∈ (outcomes reader files settings sources).1.map
        (Except.ok : SourceOutcome → Except ValueFault SourceOutcome) := by
      rw [← map_ofValue_eq h, ← ho]
      exact List.mem_map_of_mem hm
    obtain ⟨found, hfound, he⟩ := List.mem_map.1 hmem
    obtain rfl : found = outcome := Except.ok.inj he
    exact (SourceOutcome.oneLine_of_reportLine? ho hl).2.1
      (hall line (List.mem_filterMap.2 ⟨found, hfound, hl⟩))
  · intro hall line hm
    obtain ⟨outcome, ho, hl⟩ := List.mem_filterMap.1 hm
    obtain ⟨raw, hraw, he⟩ := exists_of_mem_outcomes ho
    exact (SourceOutcome.oneLine_of_reportLine? he hl).2.2 (hall raw hraw ⟨outcome, line, he, hl⟩)

/-- The report of a batch that came to its end, with whatever the parsers have to say on each line,
is split at its line feeds. It has a line for its header and one for each failure, and one more for
each line feed in the location of a failure. So it has its header and, for each failure in order,
one line with location and message exactly if no source that fails gives a location with a line feed
in it, as a source may; and then only is the number of its lines right. -/
theorem splitOn_format_iff {pool : KeyPool} {batch : Batch} {told : Report}
    (h : ofSources reader files settings pool sources = (batch, none))
    (hd : batch.report.Detailed told) :
    let parts := told.format.toList.splitOn '\n'
    parts.length = 1 + told.errors.length +
        (told.errors.flatMap fun line => line.location.toList).count '\n' ∧
      (parts = (Report.header :: told.errors.map ReportLine.text).map String.toList ↔
        ∀ raw ∈ sources, SourceOutcome.Fails reader files settings raw →
          ¬ SourceOutcome.SpansLines raw) ∧
      (parts.length = 1 + told.errors.length ↔
        ∀ raw ∈ sources, SourceOutcome.Fails reader files settings raw →
          ¬ SourceOutcome.SpansLines raw) := by
  intro parts
  have hcomplete : (outcomes reader files settings sources).2 = none := by
    rw [← ofSources_fault pool, h]
  have herrors := errors_of_ofSources h
  have hmessages : ∀ line ∈ told.errors, OneLine line.message :=
    ReportLine.oneLine_message_of_detailed hd (herrors ▸ oneLine_messages)
  have hlocations : (∀ line ∈ told.errors, OneLine line.location) ↔
      ∀ raw ∈ sources, SourceOutcome.Fails reader files settings raw →
        ¬ SourceOutcome.SpansLines raw := by
    have hsame := ReportLine.map_location_of_detailed hd
    rw [← oneLine_locations_iff hcomplete, ← herrors]
    simpa only [List.forall_mem_map] using
      (congrArg (fun locations => ∀ location ∈ locations, OneLine location) hsame).to_iff
  have hlength : parts.length = _ := Report.length_splitOn_format hmessages
  refine ⟨hlength, ?_, ?_⟩
  · rw [← hlocations]
    exact Report.splitOn_format_eq_iff hmessages
  · rw [← hlocations, ← Report.count_locations_eq_zero_iff]
    omega

/-- A file that is no PEM file, with the parser's own words, and one that is missing. -/
theorem splitOn_format_two_files :
    let sources : List Value :=
      [.record [("location", .text "a")], .record [("location", .text "d")]]
    let result := ofSources .standard smallFiles {} [] sources
    let told : Report := { errors := [⟨"a", "Can't import PEM: no start line"⟩,
      ⟨"d", "Error loading RSA key file: No such file or directory"⟩] }
    result.2 = none ∧ result.1.report.Detailed told ∧
      told.format.toList.splitOn '\n' =
        (Report.header :: told.errors.map ReportLine.text).map String.toList := by
  intro sources result told
  have hcomplete : result.2 = none := rfl
  have herrors : result.1.report.errors = [⟨"a", "Can't import PEM"⟩,
      ⟨"d", "Error loading RSA key file: No such file or directory"⟩] := rfl
  have hdetailed : result.1.report.Detailed told := by
    rw [Report.Detailed, herrors]
    exact .cons ⟨rfl, ": no start line", rfl, by decide⟩ (.cons (.refl _) .nil)
  refine ⟨hcomplete, hdetailed, ?_⟩
  refine (splitOn_format_iff (Prod.ext rfl hcomplete) hdetailed).2.1.2 fun raw hm _ => ?_
  have hspans : ∀ raw ∈ sources, ¬ SourceOutcome.SpansLines raw := by decide
  exact hspans raw hm

/-- A location that holds a line of its own makes one failure read as two. -/
theorem location_forges_line :
    let forged := ofSources .standard .initial {} [] [.record [("location",
      .text "absent: Error loading RSA key file: No such file or directory\nother")]]
    let honest := ofSources .standard .initial {} []
      [.record [("location", .text "absent")], .record [("location", .text "other")]]
    forged.2 = none ∧ forged.1.report.errors.length = 1 ∧
      (forged.1.report.format.toList.splitOn '\n').length = 3 ∧
      honest.2 = none ∧ honest.1.report.errors.length = 2 ∧
      forged.1.report.format = honest.1.report.format := by
  refine ⟨rfl, rfl, ?_, rfl, rfl, rfl⟩
  rw [length_splitOn]
  decide +kernel

end Batch

end Keyring
