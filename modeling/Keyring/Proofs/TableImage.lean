import Keyring.Proofs.TableGrammar
import Keyring.Proofs.TextLines

/-!
# The records that tables deliver

Which lists of locations and credentials some table stands for, and a table for each of them. What
the writer puts between the quotes is read back as it was, and its lines are the lines of the text.
Two characters are out of reach: U+2028 and U+2029 end a line where they stand, and their numbers
have more than two digits.
-/

namespace Keyring.KeySource

/-- The location and the credential of a source. -/
def fields (source : KeySource) : String × String := (source.location, source.credential)

namespace Table

/-! ## The writer's characters -/

/-- The characters that the writer writes by their numbers. -/
def escapedChars : List Char :=
  ['"', '\\', '\n', '\r', '\x0b', '\x0c', '\x1c', '\x1d', '\x1e', '\u0085']

theorem isEscaped_iff (c : Char) : isEscaped c = true ↔ c ∈ escapedChars := by
  have hnumber : c ∈ escapedChars ↔ c.toNat ∈ escapedChars.map Char.toNat :=
    (List.mem_map_of_injective fun _ _ => Char.toNat_inj.1).symm
  have hquote : c = '"' ↔ c.toNat = 0x22 := (Char.toNat_inj (d := '"')).symm
  have hbackslash : c = '\\' ↔ c.toNat = 0x5c := (Char.toNat_inj (d := '\\')).symm
  have hnumbers : escapedChars.map Char.toNat =
      [0x22, 0x5c, 0x0a, 0x0d, 0x0b, 0x0c, 0x1c, 0x1d, 0x1e, 0x85] := rfl
  rw [hnumber, hnumbers]
  simp only [isEscaped, Text.isLineBreak, hquote, hbackslash, Bool.or_eq_true, Bool.and_eq_true,
    decide_eq_true_eq, List.mem_cons, List.not_mem_nil, or_false]
  omega

theorem lt_of_isEscaped {c : Char} (h : isEscaped c = true) : c.toNat < 0x100 := by
  have hall : escapedChars.all (fun d => decide (d.toNat < 0x100)) = true := rfl
  exact of_decide_eq_true (List.all_eq_true.1 hall c ((isEscaped_iff c).1 h))

theorem writeChar_escaped {c : Char} (h : isEscaped c = true) :
    writeChar c = ['\\', 'x', Hex.digit (c.toNat / 16 % 16), Hex.digit (c.toNat % 16)] := by
  rw [writeChar, if_pos h]
  rfl

theorem writeChar_plain {c : Char} (h : isEscaped c = false) : writeChar c = [c] := by
  simp [writeChar, h]

theorem ne_of_not_isEscaped {c : Char} (h : isEscaped c = false) : c ≠ '"' ∧ c ≠ '\\' := by
  constructor
  · rintro rfl
    exact absurd h (by decide)
  · rintro rfl
    exact absurd h (by decide)

/-- What is written for a field is a field. -/
theorem isItems_written (field : List Char) : IsItems (field.flatMap writeChar) := by
  induction field with
  | nil => exact .nil
  | cons c rest ih =>
    rw [List.flatMap_cons]
    cases h : isEscaped c with
    | false =>
      obtain ⟨hquote, hbackslash⟩ := ne_of_not_isEscaped h
      rw [writeChar_plain h]
      exact .plain hquote hbackslash ih
    | true =>
      have hhigh := ne_of_digit? (Hex.digit?_digit (Nat.mod_lt (c.toNat / 16) (by decide)))
      have hlow := ne_of_digit? (Hex.digit?_digit (Nat.mod_lt c.toNat (by decide)))
      rw [writeChar_escaped h]
      exact .escaped 'x' (.plain hhigh.1 hhigh.2 (.plain hlow.1 hlow.2 ih))

/-- A field is what its written form stands for. -/
theorem decode_written (field : List Char) : decode (field.flatMap writeChar) = field := by
  induction field with
  | nil => rfl
  | cons c rest ih =>
    rw [List.flatMap_cons]
    cases h : isEscaped c with
    | false =>
      rw [writeChar_plain h, List.singleton_append, decode_plain (ne_of_not_isEscaped h).2, ih]
    | true =>
      -- Two digits hold the number, since all that is escaped lies below 256.
      have hbound := lt_of_isEscaped h
      have hnumber : c.toNat / 16 % 16 * 16 + c.toNat % 16 = c.toNat := by omega
      rw [writeChar_escaped h]
      simp only [List.cons_append, List.nil_append, decode,
        Hex.digit?_digit (Nat.mod_lt (c.toNat / 16) (by decide : 0 < 16)),
        Hex.digit?_digit (Nat.mod_lt c.toNat (by decide : 0 < 16)), hnumber, Char.ofNat_toNat, ih]

/-! ## The characters of a field -/

/-- A character that ends a line and has no number of two digits. -/
def IsSeparator (c : Char) : Prop := c = '\u2028' ∨ c = '\u2029'

theorem isSeparator_iff (c : Char) :
    IsSeparator c ↔ Text.isLineBreak c = true ∧ 0x100 ≤ c.toNat := by
  have hline : c = '\u2028' ↔ c.toNat = 0x2028 := (Char.toNat_inj (d := '\u2028')).symm
  have hparagraph : c = '\u2029' ↔ c.toNat = 0x2029 := (Char.toNat_inj (d := '\u2029')).symm
  simp only [IsSeparator, hline, hparagraph, Text.isLineBreak, Bool.or_eq_true, Bool.and_eq_true,
    decide_eq_true_eq]
  omega

theorem toNat_ofNat_lt {n : Nat} (h : n < 0x100) : (Char.ofNat n).toNat < 0x100 := by
  have hvalid : n.isValidChar := .inl (by omega)
  rw [Char.ofNat, dif_pos hvalid]
  exact h

/-- A character that a field stands for is one of its own, or has a number of two digits. -/
theorem mem_decode {items : List Char} {c : Char} (h : c ∈ decode items) :
    c ∈ items ∨ c.toNat < 0x100 := by
  have hitem : ∀ {d : Char} {rest items : List Char}, d ∈ items → rest ⊆ items →
      (c ∈ decode rest → c ∈ rest ∨ c.toNat < 0x100) → c ∈ d :: decode rest →
        c ∈ items ∨ c.toNat < 0x100 := by
    intro d rest items hd hrest ih hc
    rcases List.mem_cons.1 hc with rfl | hc
    · exact .inl hd
    · exact (ih hc).imp_left fun hc => hrest hc
  fun_induction decode items with
  | case1 a b rest high low hl hh ih =>
    rcases List.mem_cons.1 h with rfl | h
    · have hhigh := Hex.lt_of_digit? hh
      have hlow := Hex.lt_of_digit? hl
      exact .inr (toNat_ofNat_lt (by omega))
    · exact (ih h).imp_left (by simp +contextual)
  | case2 a b rest hnot ih => exact hitem (by simp) (by simp) ih h
  | case3 d rest hnot ih => exact hitem (by simp) (by simp) ih h
  | case4 d rest _ hpair ih => exact hitem (by simp) (by simp) ih h
  | case5 => cases h

theorem not_isSeparator_of_mem_decode {items : List Char}
    (h : ∀ c ∈ items, Text.isLineBreak c = false) : ∀ c ∈ decode items, ¬ IsSeparator c := by
  intro c hc hs
  obtain ⟨hbreak, hnumber⟩ := (isSeparator_iff c).1 hs
  rcases mem_decode hc with hitem | hsmall
  · rw [h c hitem] at hbreak
    cases hbreak
  · omega

/-- What is written for a field stays on one line unless a separator is in it. -/
theorem not_isLineBreak_of_mem_written {field : List Char} (h : ∀ c ∈ field, ¬ IsSeparator c) :
    ∀ c ∈ field.flatMap writeChar, Text.isLineBreak c = false := by
  have hdigit : ∀ value < 16, Text.isLineBreak (Hex.digit value) = false := by decide
  intro c hc
  obtain ⟨d, hd, hc⟩ := List.mem_flatMap.1 hc
  cases hescaped : isEscaped d with
  | false =>
    rw [writeChar_plain hescaped, List.mem_singleton] at hc
    subst hc
    by_contra hbreak
    rw [Bool.not_eq_false] at hbreak
    by_cases hnumber : c.toNat < 0x100
    · simp [isEscaped, hbreak, hnumber] at hescaped
    · exact h c hd ((isSeparator_iff c).2 ⟨hbreak, by omega⟩)
  | true =>
    rw [writeChar_escaped hescaped] at hc
    simp only [List.mem_cons, List.not_mem_nil, or_false] at hc
    rcases hc with rfl | rfl | rfl | rfl
    · rfl
    · rfl
    · exact hdigit _ (Nat.mod_lt _ (by decide))
    · exact hdigit _ (Nat.mod_lt _ (by decide))

/-! ## What a table can deliver -/

/-- A location and a credential that some table delivers: the location is not blank, has no blank
at its ends, and neither of the two has a separator in it. -/
structure Deliverable (record : String × String) : Prop where
  not_blank : ∃ c ∈ record.1.toList, Text.isBlank c = false
  bare : Text.IsBare Text.isBlank record.1.toList
  not_separator : ∀ c ∈ record.1.toList ++ record.2.toList, ¬ IsSeparator c

/-- The locations and the credentials of the sources of a table. -/
def readFields (text : List Char) : Except ListFault (List (String × String)) :=
  (read text).map (List.map fields)

theorem readFields_eq_ok_iff {text : List Char} {records : List (String × String)} :
    readFields text = .ok records ↔
      ∃ sources, read text = .ok sources ∧ sources.map fields = records := by
  unfold readFields
  cases read text <;> simp [Except.map]

theorem location_bare (source : KeySource) :
    Text.IsBare Text.isBlank source.location.toList := by
  rw [← source.strip_location, Text.toList_strip]
  exact Text.isBare_trim _ _

theorem location_not_blank (source : KeySource) :
    ∃ c ∈ source.location.toList, Text.isBlank c = false := by
  have hbare := location_bare source
  cases hchars : source.location.toList with
  | nil => exact absurd (String.toList_eq_nil_iff.1 hchars) source.location_ne_empty
  | cons c rest =>
    rw [hchars] at hbare
    exact ⟨c, List.mem_cons_self, hbare.1 c rfl⟩

theorem IsRecord.not_isSeparator {line first second : List Char} (h : IsRecord line first second)
    (hline : ∀ c ∈ line, Text.isLineBreak c = false) :
    (∀ c ∈ decode first, ¬ IsSeparator c) ∧ ∀ c ∈ decode second, ¬ IsSeparator c := by
  obtain ⟨_, _, rfl⟩ := h
  constructor
  · exact not_isSeparator_of_mem_decode fun c hc => hline c (by simp [quoted, hc])
  · exact not_isSeparator_of_mem_decode fun c hc => hline c (by simp [quoted, hc])

theorem deliverable_of_stands {line : List Char} {source : KeySource}
    (h : Stands line (some source)) (hline : ∀ c ∈ line, Text.isLineBreak c = false) :
    Deliverable (fields source) := by
  cases h with
  | @record first second _ hr hlocation hcredential =>
    obtain ⟨hfirst, hsecond⟩ := hr.not_isSeparator hline
    have hinner : source.location.toList = Text.trim Text.isBlank (decode first) := by
      rw [hlocation, Text.toList_strip, String.toList_ofList]
    have houter : source.credential.toList = decode second := by
      rw [hcredential, String.toList_ofList]
    refine ⟨location_not_blank source, location_bare source, List.forall_mem_append.2 ⟨?_, ?_⟩⟩
    · intro c hc
      exact hfirst c (Text.mem_of_mem_trim (hinner ▸ hc))
    · intro c hc
      exact hsecond c (houter ▸ hc)

theorem exists_stands_of_mem {lines : List (List Char)} {meanings : List (Option KeySource)}
    (h : List.Forall₂ Stands lines meanings) {meaning : Option KeySource}
    (hm : meaning ∈ meanings) : ∃ line ∈ lines, Stands line meaning := by
  induction h with
  | nil => cases hm
  | cons hstands _ ih =>
    rcases List.mem_cons.1 hm with rfl | hm
    · exact ⟨_, List.mem_cons_self, hstands⟩
    · obtain ⟨line, hl, hs⟩ := ih hm
      exact ⟨line, List.mem_cons_of_mem _ hl, hs⟩

/-- Every source of a table is deliverable. -/
theorem deliverable_of_read {text : List Char} {sources : List KeySource}
    (h : read text = .ok sources) : ∀ source ∈ sources, Deliverable (fields source) := by
  obtain ⟨meanings, hm, rfl⟩ := readLines_eq_ok_iff.1 h
  intro source hs
  have hmem : some source ∈ meanings := by simpa using hs
  obtain ⟨line, hl, hstands⟩ := exists_stands_of_mem hm hmem
  obtain ⟨raw, hraw, rfl⟩ := List.mem_map.1 hl
  exact deliverable_of_stands hstands
    fun c hc => Text.not_isLineBreak_of_mem_lines hraw c (Text.mem_of_mem_trim hc)

/-! ## A table for the records -/

theorem isRecord_written (record : String × String) :
    IsRecord (writeRecord record) (record.1.toList.flatMap writeChar)
      (record.2.toList.flatMap writeChar) :=
  ⟨isItems_written _, isItems_written _, rfl⟩

theorem trim_written (record : String × String) :
    Text.trim Text.isBlank (writeRecord record) = writeRecord record := by
  have hstart : (writeRecord record).head? = some '"' := rfl
  have hend : (writeRecord record).getLast? = some '"' := by
    have hline : writeRecord record = (writeField record.1 ++
        ',' :: '"' :: record.2.toList.flatMap writeChar) ++ ['"'] := by
      simp [writeRecord, writeField]
    rw [hline, List.getLast?_concat]
  have hquote : Text.isBlank '"' = false := rfl
  exact Text.trim_eq_self _ _ ⟨by simpa [hstart] using hquote, by simpa [hend] using hquote⟩

theorem not_isLineBreak_of_mem_writeField {field : String}
    (h : ∀ c ∈ field.toList, ¬ IsSeparator c) :
    ∀ c ∈ writeField field, Text.isLineBreak c = false := by
  have hquote : Text.isLineBreak '"' = false := rfl
  intro c hc
  simp only [writeField, List.mem_cons, List.mem_append, List.not_mem_nil, or_false] at hc
  rcases hc with rfl | hc | rfl
  · exact hquote
  · exact not_isLineBreak_of_mem_written h c hc
  · exact hquote

theorem not_isLineBreak_of_mem_writeRecord {record : String × String}
    (h : ∀ c ∈ record.1.toList ++ record.2.toList, ¬ IsSeparator c) :
    ∀ c ∈ writeRecord record, Text.isLineBreak c = false := by
  obtain ⟨hlocation, hcredential⟩ := List.forall_mem_append.1 h
  intro c hc
  rcases List.mem_append.1 hc with hc | hc
  · exact not_isLineBreak_of_mem_writeField hlocation c hc
  · rcases List.mem_cons.1 hc with rfl | hc
    · rfl
    · exact not_isLineBreak_of_mem_writeField hcredential c hc

theorem lines_write {records : List (String × String)}
    (h : ∀ record ∈ records, Deliverable record) :
    Text.lines (write records) = records.map writeRecord := by
  induction records with
  | nil => rfl
  | cons record rest ih =>
    obtain ⟨hrecord, hrest⟩ := List.forall_mem_cons.1 h
    have hwrite : write (record :: rest) = writeRecord record ++ '\n' :: write rest := by
      simp [write]
    rw [hwrite, Text.lines_line (not_isLineBreak_of_mem_writeRecord hrecord.not_separator),
      ih hrest, List.map_cons]

/-- The line of a record stands for a source with its fields. -/
theorem exists_stands_written {record : String × String} (h : Deliverable record) :
    ∃ source, Stands (writeRecord record) (some source) ∧ fields source = record := by
  have hstrip : Text.strip record.1 = record.1 := Text.strip_eq_self h.bare
  have hne : record.1 ≠ "" := by
    obtain ⟨c, hc, _⟩ := h.not_blank
    intro hempty
    simp [hempty] at hc
  let source : KeySource := ⟨record.1, record.2, hstrip, hne⟩
  refine ⟨source, .record (isRecord_written record) ?_ ?_, rfl⟩
  · rw [decode_written, String.ofList_toList, hstrip]
  · rw [decode_written, String.ofList_toList]

theorem readLines_written {records : List (String × String)}
    (h : ∀ record ∈ records, Deliverable record) (number : Nat) :
    ∃ sources, readLines number (records.map writeRecord) = .ok sources ∧
      sources.map fields = records := by
  induction records generalizing number with
  | nil => exact ⟨[], rfl, rfl⟩
  | cons record rest ih =>
    obtain ⟨hrecord, hrest⟩ := List.forall_mem_cons.1 h
    obtain ⟨source, hstands, hfields⟩ := exists_stands_written hrecord
    obtain ⟨sources, hread, hmap⟩ := ih hrest (number + 1)
    refine ⟨source :: sources, ?_, by rw [List.map_cons, hfields, hmap]⟩
    rw [List.map_cons, readLines_cons, trim_written, readLine_eq_ok_iff.2 hstands, hread]
    rfl

/-- A table that is written for deliverable records is read back as they were. -/
theorem readFields_write {records : List (String × String)}
    (h : ∀ record ∈ records, Deliverable record) : readFields (write records) = .ok records := by
  rw [readFields_eq_ok_iff, read, lines_write h]
  exact readLines_written h 1

theorem forall_deliverable {text : List Char} {records : List (String × String)}
    (h : readFields text = .ok records) : ∀ record ∈ records, Deliverable record := by
  obtain ⟨sources, hread, rfl⟩ := readFields_eq_ok_iff.1 h
  rw [List.forall_mem_map]
  exact deliverable_of_read hread

/-- Some table delivers a list of locations and credentials exactly if each of them is deliverable,
and the table written for the list, in which quotes, backslashes and the line breaks below 256 stand
as numbers of two digits and all else as it is, then does. No table delivers a field with one of the
two other line breaks in it. -/
theorem readFields_image (records : List (String × String)) :
    ((∃ text, readFields text = .ok records) ↔ ∀ record ∈ records, Deliverable record) ∧
    (readFields (write records) = .ok records ↔ ∀ record ∈ records, Deliverable record) ∧
    (∀ c, writeChar c =
      if c ∈ ['"', '\\', '\n', '\r', '\x0b', '\x0c', '\x1c', '\x1d', '\x1e', '\u0085'] then
        '\\' :: 'x' :: Text.hexDigits 2 c.toNat
      else [c]) ∧
    ∀ text found, readFields text = .ok found → ∀ record ∈ found,
      ∀ c ∈ record.1.toList ++ record.2.toList, c ≠ '\u2028' ∧ c ≠ '\u2029' := by
  refine ⟨⟨?_, fun h => ⟨write records, readFields_write h⟩⟩,
    ⟨forall_deliverable, readFields_write⟩, ?_, ?_⟩
  · rintro ⟨text, h⟩
    exact forall_deliverable h
  · intro c
    simp only [writeChar, isEscaped_iff, escapedChars]
  · intro text found h record hr c hc
    exact not_or.1 ((forall_deliverable h record hr).not_separator c hc)

/-- Commas, quotes, line breaks and null characters come through a table, and so does what looks
like an escape or a comment. -/
example : readFields (write [("#k\n\x00", "\",\"\\x41"), ("a\u0085b", "")]) =
    .ok [("#k\n\x00", "\",\"\\x41"), ("a\u0085b", "")] := by
  rfl

end Table

end Keyring.KeySource
