import Keyring.Proofs.TableGrammar
import Keyring.Proofs.TextLines

/-!
# Tables line by line

What a table comes to when lines are put before, after or between its own. The reader passes the
number of a line on from line to line, and only the fault of a line that is no record shows it; so a
table after some lines comes to what it comes to by itself, with the number in its fault moved on.
Main statements: a line feed between two tables makes one table of them, lines that hold no record
may come and go, and a fault names its line exactly if that line is no record.
-/

namespace Keyring.KeySource

/-- The fault of a table that comes after some lines. -/
def ListFault.after (count : Nat) : ListFault → ListFault
  | .malformedRecord line => .malformedRecord (line + count)
  | fault => fault

@[simp] theorem ListFault.after_zero (fault : ListFault) : fault.after 0 = fault := by
  cases fault <;> rfl

theorem ListFault.after_after (fault : ListFault) (count size : Nat) :
    (fault.after count).after size = fault.after (count + size) := by
  cases fault <;> simp [ListFault.after, Nat.add_assoc]

/-- The number, in decimal digits, stands in what is said about the fault. -/
def ListFault.Names (fault : ListFault) (number : Nat) : Prop :=
  (toString number).toList <:+: fault.message.toList

namespace Table

/-! ## One table after another -/

/-- What the lines of two tables come to, of which the first has `count` lines. -/
def followedBy (first : Except ListFault (List KeySource)) (count : Nat)
    (second : Except ListFault (List KeySource)) : Except ListFault (List KeySource) :=
  match first, second with
  | .error fault, _ => .error fault
  | .ok sources, .ok more => .ok (sources ++ more)
  | .ok _, .error fault => .error (fault.after count)

theorem followedBy_nil (first : Except ListFault (List KeySource)) (count : Nat) :
    followedBy first count (.ok []) = first := by
  cases first with
  | error fault => rfl
  | ok sources => simp [followedBy]

theorem toOption_followedBy (first second : Except ListFault (List KeySource)) (count : Nat) :
    (followedBy first count second).toOption =
      first.toOption.bind fun sources => second.toOption.map (sources ++ ·) := by
  cases first with
  | error fault => rfl
  | ok sources => cases second <;> rfl

theorem readLine_add (number count : Nat) (line : List Char) :
    readLine (number + count) line = (readLine number line).mapError (ListFault.after count) := by
  unfold readLine
  cases isSkipped line with
  | true => rfl
  | false =>
    cases readRecord line with
    | none => rfl
    | some record =>
      simp only [Bool.false_eq_true, if_false]
      cases ofTexts record.1 record.2 <;> rfl

theorem readLines_add (number count : Nat) (lines : List (List Char)) :
    readLines (number + count) lines =
      (readLines number lines).mapError (ListFault.after count) := by
  induction lines generalizing number with
  | nil => rfl
  | cons line rest ih =>
    have hnext : number + count + 1 = number + 1 + count := by omega
    rw [readLines_cons, readLines_cons, readLine_add, hnext, ih]
    cases readLine number (Text.trim Text.isBlank line) with
    | error fault => rfl
    | ok meaning =>
      cases meaning with
      | none => rfl
      | some source => cases readLines (number + 1) rest <;> rfl

theorem followedBy_mapError (first second : Except ListFault (List KeySource))
    (count size : Nat) :
    followedBy first size (second.mapError (ListFault.after count)) =
      followedBy first (count + size) second := by
  cases first with
  | error fault => rfl
  | ok sources =>
    cases second with
    | error fault => simp [followedBy, Except.mapError, ListFault.after_after]
    | ok more => rfl

theorem map_followedBy (source : KeySource) (first second : Except ListFault (List KeySource))
    (count : Nat) :
    (followedBy first count second).map (source :: ·) =
      followedBy (first.map (source :: ·)) count second := by
  cases first with
  | error fault => rfl
  | ok sources => cases second <;> rfl

/-- Lines after others come to what they come to by themselves, with their numbers moved on. -/
theorem readLines_append_eq (number : Nat) (before after : List (List Char)) :
    readLines number (before ++ after) =
      followedBy (readLines number before) before.length (readLines number after) := by
  induction before generalizing number with
  | nil => cases h : readLines number after <;> simp [readLines, followedBy, h]
  | cons line rest ih =>
    -- The lines after the first one are read from the next number on, which moves their faults on
    -- by one already.
    rw [List.cons_append, readLines_cons, readLines_cons, ih, readLines_add number 1 after,
      followedBy_mapError, Nat.add_comm 1, List.length_cons]
    cases readLine number (Text.trim Text.isBlank line) with
    | error fault => rfl
    | ok meaning =>
      cases meaning with
      | none => rfl
      | some source => exact map_followedBy source _ _ _

/-! ## Lines that hold no record -/

/-- The line is blank or a comment. -/
def HoldsNothing (line : List Char) : Prop :=
  Text.trim Text.isBlank line = [] ∨ (Text.trim Text.isBlank line).head? = some '#'

theorem readLines_of_holdsNothing (number : Nat) {lines : List (List Char)}
    (h : ∀ line ∈ lines, HoldsNothing line) : readLines number lines = .ok [] := by
  induction lines generalizing number with
  | nil => rfl
  | cons line rest ih =>
    obtain ⟨hline, hrest⟩ := List.forall_mem_cons.1 h
    have hskipped : readLine number (Text.trim Text.isBlank line) = .ok none := by
      rw [readLine, if_pos ((isSkipped_iff _).2 hline)]
    rw [readLines_cons, hskipped]
    exact ih (number + 1) hrest

/-- Lines that hold no record may be left out. -/
theorem toOption_readLines_of_holdsNothing (number : Nat) (before after : List (List Char))
    {between : List (List Char)} (h : ∀ line ∈ between, HoldsNothing line) :
    (readLines number (before ++ between ++ after)).toOption =
      (readLines number (before ++ after)).toOption := by
  have hbetween : (readLines number (between ++ after)).toOption =
      (readLines number after).toOption := by
    rw [readLines_append_eq, toOption_followedBy, readLines_of_holdsNothing number h]
    simp [Except.toOption]
  rw [List.append_assoc, readLines_append_eq number before (between ++ after),
    readLines_append_eq number before after, toOption_followedBy, toOption_followedBy, hbetween]

/-- A line feed at the end of a table adds nothing to it. -/
theorem readLines_concat_newline (number : Nat) (a : List Char) :
    readLines number (Text.lines (a ++ ['\n'])) = readLines number (Text.lines a) := by
  rcases Text.lines_concat_newline a with h | h
  · rw [h]
  · have hempty : readLines number [[]] = .ok [] := rfl
    rw [h, readLines_append_eq, hempty, followedBy_nil]

/-- A table and another one after a line feed come to the sources of both, to the fault of the first
one, or else to that of the second one with its line counted from the start of the first. Lines that
are blank or comments may be put in or left out anywhere: the sources stay the same. -/
theorem read_append_newline :
    (∀ a b : List Char, read (a ++ '\n' :: b) =
      match read a, read b with
      | .ok sources, .ok more => .ok (sources ++ more)
      | .error fault, _ => .error fault
      | .ok _, .error fault => .error (fault.after (Text.lines (a ++ ['\n'])).length)) ∧
    ∀ text other before between after, Text.lines text = before ++ after →
      Text.lines other = before ++ between ++ after → (∀ line ∈ between, HoldsNothing line) →
      (read other).toOption = (read text).toOption := by
  refine ⟨?_, ?_⟩
  · intro a b
    have hread : read (a ++ '\n' :: b) =
        followedBy (read a) (Text.lines (a ++ ['\n'])).length (read b) := by
      rw [read, Text.lines_append_newline, readLines_append_eq, readLines_concat_newline]
      rfl
    rw [hread]
    cases read a <;> cases read b <;> rfl
  · intro text other before between after htext hother hbetween
    rw [read, read, htext, hother]
    exact toOption_readLines_of_holdsNothing 1 before after hbetween

/-- A carriage return before the line feed is part of the same end of a line, and a comment may
stand before a table. -/
theorem read_append_newline_after_return :
    read ("\"a\",\"\"\r".toList ++ '\n' :: "\"b\"".toList) = .error (.malformedRecord 2) ∧
      (read "# a\r\n\"a\",\"\"".toList).toOption = (read "\"a\",\"\"".toList).toOption :=
  ⟨read_append_newline.1 "\"a\",\"\"\r".toList "\"b\"".toList,
    read_append_newline.2 "\"a\",\"\"".toList "# a\r\n\"a\",\"\"".toList [] ["# a".toList]
      ["\"a\",\"\"".toList] rfl rfl (fun _ h => .inr (List.mem_singleton.1 h ▸ rfl))⟩

/-! ## The first line that may not stand in a table -/

/-- The first line of a text, without the blanks at its ends, that may not stand in a table, and its
number. -/
def FirstRejected (text : List Char) (number : Nat) (line : List Char) : Prop :=
  ∃ before after, (Text.lines text).map (Text.trim Text.isBlank) = before ++ line :: after ∧
    number = before.length + 1 ∧ (∀ earlier ∈ before, Accepted earlier) ∧ ¬ Accepted line

theorem accepted_iff_readLine (number : Nat) (line : List Char) :
    Accepted line ↔ ∃ meaning, readLine number line = .ok meaning := by
  simp only [accepted_iff_exists_stands, readLine_eq_ok_iff]

theorem exists_rejected_of_readLines {number : Nat} {lines : List (List Char)} {fault : ListFault}
    (h : readLines number lines = .error fault) :
    ∃ before line after, lines.map (Text.trim Text.isBlank) = before ++ line :: after ∧
      (∀ earlier ∈ before, Accepted earlier) ∧ ¬ Accepted line := by
  induction lines generalizing number fault with
  | nil => cases h
  | cons line rest ih =>
    by_cases hline : Accepted (Text.trim Text.isBlank line)
    · obtain ⟨meaning, hread⟩ := (accepted_iff_readLine number _).1 hline
      have hrest : ∃ fault, readLines (number + 1) rest = .error fault := by
        rw [readLines_cons, hread] at h
        cases hr : readLines (number + 1) rest with
        | error fault => exact ⟨fault, rfl⟩
        | ok sources =>
          rw [hr] at h
          cases meaning <;> cases h
      obtain ⟨fault, hrest⟩ := hrest
      obtain ⟨before, rejected, after, hlines, hbefore, hrejected⟩ := ih hrest
      exact ⟨_ :: before, rejected, after, by rw [List.map_cons, hlines, List.cons_append],
        List.forall_mem_cons.2 ⟨hline, hbefore⟩, hrejected⟩
    · exact ⟨[], _, _, rfl, by simp, hline⟩

theorem firstRejected_of_readLine {text line : List Char} (before : List (List Char))
    {after : List (List Char)} {fault : ListFault}
    (hlines : (Text.lines text).map (Text.trim Text.isBlank) = before ++ line :: after)
    (hbefore : ∀ earlier ∈ before, Accepted earlier)
    (hline : readLine (before.length + 1) line = .error fault) :
    FirstRejected text (before.length + 1) line := by
  refine ⟨before, after, hlines, rfl, hbefore, ?_⟩
  rw [accepted_iff_readLine (before.length + 1), hline]
  rintro ⟨meaning, h⟩
  cases h

/-- A table that fails does so at its first rejected line. -/
theorem read_of_firstRejected {text : List Char} {number : Nat} {line : List Char}
    (h : FirstRejected text number line) :
    ∃ fault, readLine number line = .error fault ∧ read text = .error fault := by
  obtain ⟨before, after, hlines, rfl, hbefore, hline⟩ := h
  obtain ⟨earlier, rest, htext, rfl, hrest⟩ := List.map_eq_append_iff.1 hlines
  obtain ⟨raw, others, rfl, rfl, rfl⟩ := List.map_eq_cons_iff.1 hrest
  rw [List.length_map, Nat.add_comm]
  cases hread : readLine (1 + earlier.length) (Text.trim Text.isBlank raw) with
  | error fault =>
    refine ⟨fault, rfl, ?_⟩
    rw [read, htext]
    exact readLines_append others (List.forall_mem_map.1 hbefore) hread
  | ok meaning => exact absurd ((accepted_iff_readLine _ _).2 ⟨meaning, hread⟩) hline

/-! ## What is said about it -/

theorem names_malformedRecord (number : Nat) : (ListFault.malformedRecord number).Names number := by
  have hmessage : (ListFault.malformedRecord number).message.toList =
      "Malformed key source record at line ".toList ++ (toString number).toList :=
    String.toList_append
  have hend : (toString number).toList <:+:
      "Malformed key source record at line ".toList ++ (toString number).toList :=
    (List.suffix_append _ _).isInfix
  rwa [← hmessage] at hend

/-- A message without digits names no line. -/
theorem not_names_of_not_isDigit {fault : ListFault}
    (h : ∀ c ∈ fault.message.toList, c.isDigit = false) (number : Nat) : ¬ fault.Names number := by
  intro hnames
  have hdigits : (toString number).toList = Nat.toDigits 10 number := by
    rw [Nat.toString_eq_repr, Nat.toList_repr]
  obtain ⟨c, hc⟩ := List.exists_mem_of_ne_nil _ (Nat.toDigits_ne_nil (b := 10) (n := number))
  have hdigit : c.isDigit = true := Nat.isDigit_of_mem_toDigits (by decide) (by decide) hc
  rw [h c (hnames.subset (hdigits ▸ hc))] at hdigit
  cases hdigit

theorem not_names_blankLocation (path : List PathStep) (number : Nat) :
    ¬ (ListFault.invalid [⟨path, .blankLocation⟩]).Names number := by
  have hmessage : (ListFault.invalid [⟨path, .blankLocation⟩]).message =
      "Value error, Key source location cannot be empty" := rfl
  have hdigits : "Value error, Key source location cannot be empty".toList.all
      (fun c => !c.isDigit) = true := rfl
  refine not_names_of_not_isDigit (fun c hc => ?_) number
  rw [hmessage] at hc
  simpa using List.all_eq_true.1 hdigits c hc

/-- A table cannot be read exactly if it has a first line that may not stand in one. What is said
then names that line exactly if it is no record: if it is a record with a blank location, the
complaint about the location is all that is said. -/
theorem names_line_iff_not_isRecord (text : List Char) :
    ((∃ fault, read text = .error fault) ↔ ∃ number line, FirstRejected text number line) ∧
    ∀ fault number line, read text = .error fault → FirstRejected text number line →
      (fault.Names number ↔ ¬ ∃ first second, IsRecord line first second) := by
  refine ⟨⟨?_, ?_⟩, ?_⟩
  · rintro ⟨fault, h⟩
    obtain ⟨before, line, after, hlines, hbefore, hline⟩ := exists_rejected_of_readLines h
    exact ⟨before.length + 1, line, before, after, hlines, rfl, hbefore, hline⟩
  · rintro ⟨number, line, h⟩
    obtain ⟨fault, _, hread⟩ := read_of_firstRejected h
    exact ⟨fault, hread⟩
  · intro fault number line hread h
    obtain ⟨found, hline, hfound⟩ := read_of_firstRejected h
    obtain rfl : found = fault := Except.error.inj (hfound.symm.trans hread)
    obtain ⟨_, _, _, _, _, hrejected⟩ := h
    obtain ⟨hmalformed, hblank⟩ := readLine_of_not_accepted number hrejected
    by_cases hr : ∃ first second, IsRecord line first second
    · obtain rfl := Except.error.inj (hline.symm.trans (hblank hr))
      exact iff_of_false (not_names_blankLocation _ number) (not_not_intro hr)
    · obtain rfl := Except.error.inj (hline.symm.trans (hmalformed hr))
      exact iff_of_true (names_malformedRecord number) hr

/-- The third line of this table has a quote too few, and is named. -/
theorem names_unquoted_line :
    FirstRejected "# keys\n\n\"k.pem\",\"".toList 3 "\"k.pem\",\"".toList ∧
      (ListFault.malformedRecord 3).Names 3 := by
  have hrejected : FirstRejected "# keys\n\n\"k.pem\",\"".toList 3 "\"k.pem\",\"".toList :=
    firstRejected_of_readLine ["# keys".toList, []] rfl (by simp [Accepted]) rfl
  refine ⟨hrejected, ((names_line_iff_not_isRecord _).2 _ 3 _ rfl hrejected).2 ?_⟩
  rintro ⟨first, second, hr⟩
  have hread := readRecord_eq_some_iff.2 ⟨first, second, hr, rfl, rfl⟩
  cases hread

/-- The location on the third line of this table is blank, and the line is not named. -/
theorem blank_location_not_named :
    ∃ fault, read "# keys\n\n\" \",\"x\"\n".toList = .error fault ∧
      FirstRejected "# keys\n\n\" \",\"x\"\n".toList 3 "\" \",\"x\"".toList ∧
        ¬ fault.Names 3 := by
  have hrejected : FirstRejected "# keys\n\n\" \",\"x\"\n".toList 3 "\" \",\"x\"".toList :=
    firstRejected_of_readLine ["# keys".toList, []] rfl (by simp [Accepted]) rfl
  exact ⟨_, rfl, hrejected, not_names_blankLocation _ 3⟩

end Table

end Keyring.KeySource
