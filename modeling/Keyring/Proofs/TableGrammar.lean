import Keyring.KeySource.Table
import Mathlib.Data.List.Forall2

/-!
# The grammar of tables

The texts that can be read as a table of key sources, and what they stand for. A field is a sequence
of items, each of which is a character by itself or a backslash with the character after it. Two
hexadecimal digits after a backslash and an `x` are items of their own, and still belong to the
escape: `decode` says what a field stands for, and the reader, which decodes while it looks for the
quote that ends the field, agrees with it.
-/

namespace Keyring.KeySource.Table

/-! ## Fields -/

/-- A sequence of items: characters other than quotes and backslashes, and backslashes with any
character after them. -/
inductive IsItems : List Char → Prop where
  | nil : IsItems []
  | plain {c : Char} {rest : List Char} (quote : c ≠ '"') (backslash : c ≠ '\\')
    (items : IsItems rest) : IsItems (c :: rest)
  | escaped (c : Char) {rest : List Char} (items : IsItems rest) : IsItems ('\\' :: c :: rest)

/-- What a field stands for. A backslash, an `x` and two hexadecimal digits stand for the character
of that number, any other backslash for the character after it, and all else for itself. -/
def decode : List Char → List Char
  | '\\' :: 'x' :: a :: b :: rest =>
    match Hex.digit? a, Hex.digit? b with
    | some high, some low => Char.ofNat (high * 16 + low) :: decode rest
    | _, _ => 'x' :: decode (a :: b :: rest)
  | '\\' :: c :: rest => c :: decode rest
  | c :: rest => c :: decode rest
  | [] => []

/-- A field with its quotes. -/
def quoted (items : List Char) : List Char := '"' :: (items ++ ['"'])

/-! ### Escapes by number -/

/-- The character that an escape names by its number, and what follows the digits. -/
def numbered? (c : Char) (rest : List Char) : Option (Char × List Char) :=
  match rest with
  | a :: b :: rest =>
    match Hex.digit? a, Hex.digit? b with
    | some high, some low =>
      if c = 'x' then some (Char.ofNat (high * 16 + low), rest) else none
    | _, _ => none
  | _ => none

theorem numbered?_eq_some {c d : Char} {rest after : List Char}
    (h : numbered? c rest = some (d, after)) :
    c = 'x' ∧ ∃ a b high low, rest = a :: b :: after ∧ Hex.digit? a = some high ∧
      Hex.digit? b = some low := by
  unfold numbered? at h
  split at h
  · rename_i a b tail
    split at h
    · rename_i high low ha hb
      split at h
      · cases h
        exact ⟨‹c = 'x'›, a, b, high, low, rfl, ha, hb⟩
      · cases h
    · cases h
  · cases h

theorem numbered?_eq_none_of_ne {c : Char} (h : c ≠ 'x') (rest : List Char) :
    numbered? c rest = none := by
  rw [Option.eq_none_iff_forall_ne_some]
  intro found hf
  exact h (numbered?_eq_some hf).1

theorem decode_escaped (c : Char) (rest : List Char) :
    decode ('\\' :: c :: rest) =
      match numbered? c rest with
      | some (d, rest) => d :: decode rest
      | none => c :: decode rest := by
  by_cases hc : c = 'x'
  · subst hc
    match rest with
    | [] => rfl
    | [a] => rfl
    | a :: b :: rest =>
      simp only [decode, numbered?, if_true]
      cases Hex.digit? a with
      | none => rfl
      | some high => cases Hex.digit? b <;> rfl
  · simp [decode, hc, numbered?_eq_none_of_ne]

theorem readField_escaped (c : Char) (rest : List Char) :
    readField ('\\' :: c :: rest) =
      match numbered? c rest with
      | some (d, rest) => (readField rest).map fun found => (d :: found.1, found.2)
      | none => (readField rest).map fun found => (c :: found.1, found.2) := by
  by_cases hc : c = 'x'
  · subst hc
    match rest with
    | [] => rfl
    | [a] => rfl
    | a :: b :: rest =>
      simp only [readField, numbered?, if_true]
      cases Hex.digit? a with
      | none => rfl
      | some high => cases Hex.digit? b <;> rfl
  · simp [readField, hc, numbered?_eq_none_of_ne]

/-- An escape by number does not reach beyond the quote that ends its field. -/
theorem numbered?_append (c : Char) (items rest : List Char) :
    numbered? c (items ++ '"' :: rest) =
      (numbered? c items).map fun found => (found.1, found.2 ++ '"' :: rest) := by
  -- The quote is no digit, so an escape with fewer than two digits before it has no number.
  have hquote : Hex.digit? '"' = none := by decide
  match items with
  | [] => cases rest <;> simp [numbered?, hquote]
  | [a] => cases ha : Hex.digit? a <;> simp [numbered?, hquote, ha]
  | a :: b :: items =>
    simp only [numbered?, List.cons_append]
    cases Hex.digit? a with
    | none => rfl
    | some high =>
      cases Hex.digit? b with
      | none => rfl
      | some low => by_cases hc : c = 'x' <;> simp [hc]

/-- A digit is an item by itself. -/
theorem ne_of_digit? {c : Char} {value : Nat} (h : Hex.digit? c = some value) :
    c ≠ '"' ∧ c ≠ '\\' := by
  have hquote : Hex.digit? '"' = none := by decide
  have hbackslash : Hex.digit? '\\' = none := by decide
  constructor
  · rintro rfl
    rw [hquote] at h
    cases h
  · rintro rfl
    rw [hbackslash] at h
    cases h

theorem IsItems.of_plain {c : Char} {rest : List Char} (h : IsItems (c :: rest)) (hb : c ≠ '\\') :
    c ≠ '"' ∧ IsItems rest := by
  cases h with
  | plain quote _ items => exact ⟨quote, items⟩
  | escaped d items => exact absurd rfl hb

theorem IsItems.of_escaped {c : Char} {rest : List Char} (h : IsItems ('\\' :: c :: rest)) :
    IsItems rest := by
  cases h with
  | plain _ backslash _ => exact absurd rfl backslash
  | escaped _ items => exact items

theorem numbered?_eq_none {c : Char} {rest : List Char}
    (h : ∀ a b tail high low, c = 'x' → rest = a :: b :: tail → Hex.digit? a = some high →
      Hex.digit? b = some low → False) : numbered? c rest = none := by
  rw [Option.eq_none_iff_forall_ne_some]
  intro found hf
  obtain ⟨hc, a, b, high, low, he, ha, hb⟩ := numbered?_eq_some hf
  exact h a b found.2 high low hc he ha hb

/-! ### Reading -/

theorem decode_plain {c : Char} (hb : c ≠ '\\') (rest : List Char) :
    decode (c :: rest) = c :: decode rest := by
  simp [decode, hb]

theorem readField_plain {c : Char} (hq : c ≠ '"') (hb : c ≠ '\\') (rest : List Char) :
    readField (c :: rest) = (readField rest).map fun found => (c :: found.1, found.2) := by
  simp [readField, hb]

/-- A text starts with the items of a field and the quote that ends it. -/
def Starts (text field rest : List Char) : Prop :=
  ∃ items, IsItems items ∧ text = items ++ '"' :: rest ∧ field = decode items

namespace Starts

variable {text field rest : List Char}

theorem plain {c : Char} (hq : c ≠ '"') (hb : c ≠ '\\') (h : Starts text field rest) :
    Starts (c :: text) (c :: field) rest := by
  obtain ⟨items, hitems, rfl, rfl⟩ := h
  exact ⟨c :: items, .plain hq hb hitems, rfl, (decode_plain hb items).symm⟩

theorem numbered {a b : Char} {high low : Nat} (ha : Hex.digit? a = some high)
    (hb : Hex.digit? b = some low) (h : Starts text field rest) :
    Starts ('\\' :: 'x' :: a :: b :: text) (Char.ofNat (high * 16 + low) :: field) rest := by
  obtain ⟨items, hitems, rfl, rfl⟩ := h
  have hdigits : IsItems (a :: b :: items) :=
    .plain (ne_of_digit? ha).1 (ne_of_digit? ha).2
      (.plain (ne_of_digit? hb).1 (ne_of_digit? hb).2 hitems)
  exact ⟨'\\' :: 'x' :: a :: b :: items, .escaped 'x' hdigits, rfl, by simp [decode, ha, hb]⟩

theorem unnumbered {c : Char} (hn : numbered? c text = none) (h : Starts text field rest) :
    Starts ('\\' :: c :: text) (c :: field) rest := by
  obtain ⟨items, hitems, rfl, rfl⟩ := h
  rw [numbered?_append, Option.map_eq_none_iff] at hn
  exact ⟨'\\' :: c :: items, .escaped c hitems, rfl, by rw [decode_escaped, hn]⟩

end Starts

theorem exists_of_map_eq_some {c : Char} {found : Option (List Char × List Char)}
    {field rest : List Char}
    (h : (found.map fun found => (c :: found.1, found.2)) = some (field, rest)) :
    ∃ tail, found = some (tail, rest) ∧ field = c :: tail := by
  cases found with
  | none => cases h
  | some found =>
    cases h
    exact ⟨found.1, rfl, rfl⟩

/-- The reader ends a field at the quote after its items. -/
theorem readField_quoted {items : List Char} (h : IsItems items) (rest : List Char) :
    readField (items ++ '"' :: rest) = some (decode items, rest) := by
  have hunnumbered : ∀ (c : Char) (items : List Char), numbered? c items = none →
      readField (items ++ '"' :: rest) = some (decode items, rest) →
        readField ('\\' :: c :: items ++ '"' :: rest) = some (c :: decode items, rest) := by
    intro c items hn hread
    rw [List.cons_append, List.cons_append, readField_escaped, numbered?_append, hn]
    simp only [Option.map_none, hread, Option.map_some]
  fun_induction decode items with
  | case1 a b items high low hl hh ih =>
    -- The grammar takes the two digits for items of their own, the reader takes them with the `x`.
    obtain ⟨_, hb⟩ := h.of_escaped.of_plain (ne_of_digit? hh).2
    obtain ⟨_, hitems⟩ := hb.of_plain (ne_of_digit? hl).2
    simp only [List.cons_append, readField, hh, hl, ih hitems]
    rfl
  | case2 a b items hnot ih =>
    refine hunnumbered _ _ (numbered?_eq_none ?_) (ih h.of_escaped)
    rintro _ _ _ high low _ he ha hb
    cases he
    exact hnot high low ha hb
  | case3 c items hnot ih =>
    refine hunnumbered _ _ (numbered?_eq_none ?_) (ih h.of_escaped)
    intro a b tail _ _ hc he _ _
    exact hnot a b tail hc he
  | case4 c items _ hpair ih =>
    cases h with
    | plain quote backslash hitems =>
      rw [List.cons_append, readField_plain quote backslash, ih hitems, Option.map_some]
    | escaped d _ => exact absurd rfl (hpair d _ rfl)
  | case5 => rfl

/-- What the reader takes for a field are items and a quote. -/
theorem starts_of_readField {text field rest : List Char}
    (h : readField text = some (field, rest)) : Starts text field rest := by
  fun_induction readField text generalizing field rest with
  | case1 => cases h
  | case2 tail =>
    cases h
    exact ⟨[], .nil, rfl, rfl⟩
  | case3 => cases h
  | case4 a b tail high low hl hh ih =>
    obtain ⟨found, hf, rfl⟩ := exists_of_map_eq_some h
    exact (ih hf).numbered hh hl
  | case5 a b tail hnot ih =>
    obtain ⟨found, hf, rfl⟩ := exists_of_map_eq_some h
    refine (ih hf).unnumbered (numbered?_eq_none ?_)
    rintro _ _ _ high low _ he ha hb
    cases he
    exact hnot high low ha hb
  | case6 c tail hnot ih =>
    obtain ⟨found, hf, rfl⟩ := exists_of_map_eq_some h
    refine (ih hf).unnumbered (numbered?_eq_none ?_)
    intro a b tail _ _ hc he _ _
    exact hnot a b tail hc he
  | case7 c tail hq hend _ hpair ih =>
    obtain ⟨found, hf, rfl⟩ := exists_of_map_eq_some h
    have hb : c ≠ '\\' := by
      intro hc
      cases tail with
      | nil => exact hend hc rfl
      | cons d rest => exact hpair d rest hc rfl
    exact (ih hf).plain hq hb

/-- The reader takes for a field what is one, and decodes it. -/
theorem readField_eq_some_iff {text field rest : List Char} :
    readField text = some (field, rest) ↔ Starts text field rest := by
  constructor
  · exact starts_of_readField
  · rintro ⟨items, hitems, rfl, rfl⟩
    exact readField_quoted hitems rest

/-! ## Records -/

/-- The line of a record: two fields with their quotes, and a comma with nothing around it. -/
def IsRecord (line first second : List Char) : Prop :=
  IsItems first ∧ IsItems second ∧ line = quoted first ++ ',' :: quoted second

theorem readRecord_eq_some_iff {line : List Char} {location credential : String} :
    readRecord line = some (location, credential) ↔
      ∃ first second, IsRecord line first second ∧ location = String.ofList (decode first) ∧
        credential = String.ofList (decode second) := by
  constructor
  · intro h
    unfold readRecord at h
    split at h
    · split at h
      · rename_i hfirst
        split at h
        · rename_i hsecond
          cases h
          obtain ⟨first, hf, rfl, rfl⟩ := readField_eq_some_iff.1 hfirst
          obtain ⟨second, hs, rfl, rfl⟩ := readField_eq_some_iff.1 hsecond
          exact ⟨first, second, ⟨hf, hs, by simp [quoted]⟩, rfl, rfl⟩
        · cases h
      · cases h
    · cases h
  · rintro ⟨first, second, ⟨hf, hs, rfl⟩, rfl, rfl⟩
    have hline : quoted first ++ ',' :: quoted second =
        '"' :: (first ++ '"' :: ',' :: '"' :: (second ++ ['"'])) := by
      simp [quoted]
    rw [hline]
    simp only [readRecord, readField_quoted hf, readField_quoted hs]

/-! ## Lines -/

/-- What a line without blanks at its ends stands for: nothing if it is empty or a comment, and the
source of its two fields if it is a record. -/
inductive Stands (line : List Char) : Option KeySource → Prop where
  | empty (h : line = []) : Stands line none
  | comment (h : line.head? = some '#') : Stands line none
  | record {first second : List Char} {source : KeySource} (h : IsRecord line first second)
    (location : source.location = Text.strip (String.ofList (decode first)))
    (credential : source.credential = String.ofList (decode second)) : Stands line (some source)

/-- A line without blanks at its ends that may stand in a table. -/
def Accepted (line : List Char) : Prop :=
  line = [] ∨ line.head? = some '#' ∨ ∃ first second, IsRecord line first second ∧
    Text.strip (String.ofList (decode first)) ≠ ""

theorem ofTexts_eq_ok_iff {location credential : String} {source : KeySource} :
    ofTexts location credential = .ok source ↔
      source.location = Text.strip location ∧ source.credential = credential := by
  rw [ofTexts_eq, ofStrings?]
  constructor
  · intro h
    split at h
    · rename_i hsome
      split at hsome
      · cases hsome
        cases h
        exact ⟨rfl, rfl⟩
      · cases hsome
    · cases h
  · obtain ⟨found, password, hstrip, hne⟩ := source
    rintro ⟨rfl, rfl⟩
    have hblank : Text.strip location ≠ "" := hne
    simp [hblank]

/-- The source on a line without blanks at its ends. -/
def readLine (number : Nat) (line : List Char) : Except ListFault (Option KeySource) :=
  if isSkipped line then .ok none
  else
    match readRecord line with
    | none => .error (.malformedRecord number)
    | some (location, credential) =>
      match ofTexts location credential with
      | .error issues => .error (.invalid issues)
      | .ok source => .ok (some source)

theorem readLines_cons (number : Nat) (line : List Char) (rest : List (List Char)) :
    readLines number (line :: rest) =
      match readLine number (Text.trim Text.isBlank line) with
      | .error fault => .error fault
      | .ok none => readLines (number + 1) rest
      | .ok (some source) => (readLines (number + 1) rest).map (source :: ·) := by
  simp only [readLines, readLine]
  cases isSkipped (Text.trim Text.isBlank line) with
  | true => rfl
  | false =>
    cases readRecord (Text.trim Text.isBlank line) with
    | none => rfl
    | some fields =>
      simp only [Bool.false_eq_true, if_false]
      cases ofTexts fields.1 fields.2 <;> rfl

theorem isSkipped_iff (line : List Char) :
    isSkipped line = true ↔ line = [] ∨ line.head? = some '#' := by
  simp [isSkipped]

theorem IsRecord.not_isSkipped {line first second : List Char} (h : IsRecord line first second) :
    isSkipped line = false := by
  obtain ⟨_, _, rfl⟩ := h
  rfl

theorem readLine_eq_ok_iff {number : Nat} {line : List Char} {meaning : Option KeySource} :
    readLine number line = .ok meaning ↔ Stands line meaning := by
  constructor
  · intro h
    unfold readLine at h
    split at h
    · rename_i hskipped
      cases h
      rcases (isSkipped_iff line).1 hskipped with he | hc
      · exact .empty he
      · exact .comment hc
    · split at h
      · cases h
      · rename_i hrecord
        split at h
        · cases h
        · rename_i htexts
          cases h
          obtain ⟨first, second, hr, rfl, rfl⟩ := readRecord_eq_some_iff.1 hrecord
          obtain ⟨hlocation, hcredential⟩ := ofTexts_eq_ok_iff.1 htexts
          exact .record hr hlocation hcredential
  · intro h
    cases h with
    | empty he => rw [readLine, if_pos ((isSkipped_iff line).2 (.inl he))]
    | comment hc => rw [readLine, if_pos ((isSkipped_iff line).2 (.inr hc))]
    | record hr hlocation hcredential =>
      have hread := readRecord_eq_some_iff.2 ⟨_, _, hr, rfl, rfl⟩
      have htexts := ofTexts_eq_ok_iff.2 ⟨hlocation, hcredential⟩
      simp only [readLine, hr.not_isSkipped, hread, htexts, Bool.false_eq_true, if_false]

theorem accepted_iff_exists_stands (line : List Char) :
    Accepted line ↔ ∃ meaning, Stands line meaning := by
  constructor
  · rintro (he | hc | ⟨first, second, hr, hne⟩)
    · exact ⟨none, .empty he⟩
    · exact ⟨none, .comment hc⟩
    · let source := ofLocation ⟨String.ofList (decode first), hne⟩ (String.ofList (decode second))
      have hs : Stands line (some source) := .record hr rfl rfl
      exact ⟨_, hs⟩
  · rintro ⟨meaning, hs⟩
    cases hs with
    | empty he => exact .inl he
    | comment hc => exact .inr (.inl hc)
    | @record first second source hr hlocation _ =>
      exact .inr (.inr ⟨first, second, hr, hlocation ▸ source.location_ne_empty⟩)

/-- A line that may not stand in a table is no record, or one whose location is blank. -/
theorem readLine_of_not_accepted (number : Nat) {line : List Char} (h : ¬ Accepted line) :
    ((¬ ∃ first second, IsRecord line first second) →
      readLine number line = .error (.malformedRecord number)) ∧
    ((∃ first second, IsRecord line first second) →
      readLine number line = .error (.invalid [⟨[.field "location"], .blankLocation⟩])) := by
  have hskipped : isSkipped line = false := by
    rw [← Bool.not_eq_true, isSkipped_iff]
    rintro (he | hc)
    · exact h (.inl he)
    · exact h (.inr (.inl hc))
  constructor
  · intro hnone
    have hread : readRecord line = none := by
      rw [Option.eq_none_iff_forall_ne_some]
      rintro ⟨location, credential⟩ hr
      obtain ⟨first, second, hrecord, _⟩ := readRecord_eq_some_iff.1 hr
      exact hnone ⟨first, second, hrecord⟩
    simp [readLine, hskipped, hread]
  · rintro ⟨first, second, hr⟩
    have hread := readRecord_eq_some_iff.2 ⟨_, _, hr, rfl, rfl⟩
    have hblank : Text.strip (String.ofList (decode first)) = "" := by
      by_contra hne
      exact h (.inr (.inr ⟨first, second, hr, hne⟩))
    simp [readLine, hskipped, hread, ofTexts_eq, ofStrings?, hblank]

/-! ## Tables -/

/-- The sources of the lines of a table are what they stand for, one after the other. -/
theorem readLines_eq_ok_iff {number : Nat} {lines : List (List Char)} {sources : List KeySource} :
    readLines number lines = .ok sources ↔
      ∃ meanings, List.Forall₂ Stands (lines.map (Text.trim Text.isBlank)) meanings ∧
        sources = meanings.filterMap id := by
  induction lines generalizing number sources with
  | nil =>
    constructor
    · intro h
      cases h
      exact ⟨[], .nil, rfl⟩
    · rintro ⟨meanings, hm, rfl⟩
      cases hm
      rfl
  | cons line rest ih =>
    rw [readLines_cons]
    constructor
    · intro h
      split at h
      · cases h
      · rename_i hline
        obtain ⟨meanings, hm, rfl⟩ := ih.1 h
        exact ⟨none :: meanings, .cons (readLine_eq_ok_iff.1 hline) hm, rfl⟩
      · rename_i source hline
        cases hr : readLines (number + 1) rest with
        | error fault =>
          rw [hr] at h
          cases h
        | ok found =>
          rw [hr] at h
          cases h
          obtain ⟨meanings, hm, rfl⟩ := ih.1 hr
          exact ⟨some source :: meanings, .cons (readLine_eq_ok_iff.1 hline) hm, rfl⟩
    · rintro ⟨meanings, hm, rfl⟩
      cases hm with
      | @cons _ meaning _ meanings hline hrest =>
        have hread : readLines (number + 1) rest = .ok (meanings.filterMap id) :=
          ih.2 ⟨meanings, hrest, rfl⟩
        rw [readLine_eq_ok_iff.2 hline]
        cases meaning with
        | none => exact hread
        | some source =>
          simp only [hread]
          rfl

/-- The first line that may not stand in a table decides how reading it fails. -/
theorem readLines_append {number : Nat} {before : List (List Char)} {line : List Char}
    (after : List (List Char))
    (hb : ∀ earlier ∈ before, Accepted (Text.trim Text.isBlank earlier)) {fault : ListFault}
    (hl : readLine (number + before.length) (Text.trim Text.isBlank line) = .error fault) :
    readLines number (before ++ line :: after) = .error fault := by
  induction before generalizing number with
  | nil =>
    rw [List.length_nil, Nat.add_zero] at hl
    rw [List.nil_append, readLines_cons, hl]
  | cons first rest ih =>
    obtain ⟨hfirst, hrest⟩ := List.forall_mem_cons.1 hb
    obtain ⟨meaning, hs⟩ := (accepted_iff_exists_stands _).1 hfirst
    have hfault : readLines (number + 1) (rest ++ line :: after) = .error fault := by
      refine ih hrest ?_
      rw [← hl, List.length_cons]
      congr 1
      omega
    rw [List.cons_append, readLines_cons, readLine_eq_ok_iff.2 hs]
    cases meaning with
    | none => exact hfault
    | some source =>
      simp only [hfault]
      rfl

theorem forall_accepted_iff (lines : List (List Char)) :
    (∀ line ∈ lines, Accepted line) ↔ ∃ meanings, List.Forall₂ Stands lines meanings := by
  induction lines with
  | nil => exact ⟨fun _ => ⟨[], .nil⟩, fun _ _ h => absurd h List.not_mem_nil⟩
  | cons line rest ih =>
    rw [List.forall_mem_cons, ih, accepted_iff_exists_stands]
    constructor
    · rintro ⟨⟨meaning, hline⟩, meanings, hrest⟩
      exact ⟨meaning :: meanings, .cons hline hrest⟩
    · rintro ⟨meanings, h⟩
      cases h with
      | cons hline hrest => exact ⟨⟨_, hline⟩, _, hrest⟩

/-- A table can be read exactly if all its lines, without the blanks at their ends, may stand in
one, and its sources are then those that the lines stand for, in order. Otherwise the first other
line decides how it fails, whatever follows: with the number of the line if it is no record, and for
its location if it is a record with a blank one. -/
theorem read_iff_accepted (text : List Char) :
    let lines := (Text.lines text).map (Text.trim Text.isBlank)
    ((∃ sources, read text = .ok sources) ↔ ∀ line ∈ lines, Accepted line) ∧
    (∀ sources, read text = .ok sources ↔
      ∃ meanings, List.Forall₂ Stands lines meanings ∧ sources = meanings.filterMap id) ∧
    ∀ before line after, lines = before ++ line :: after →
      (∀ earlier ∈ before, Accepted earlier) → ¬ Accepted line →
      ((¬ ∃ first second, IsRecord line first second) →
        read text = .error (.malformedRecord (before.length + 1))) ∧
      ((∃ first second, IsRecord line first second) →
        read text = .error (.invalid [⟨[.field "location"], .blankLocation⟩])) := by
  intro lines
  refine ⟨?_, fun _ => readLines_eq_ok_iff, ?_⟩
  · rw [forall_accepted_iff]
    constructor
    · rintro ⟨sources, h⟩
      obtain ⟨meanings, hm, _⟩ := readLines_eq_ok_iff.1 h
      exact ⟨meanings, hm⟩
    · rintro ⟨meanings, hm⟩
      exact ⟨_, readLines_eq_ok_iff.2 ⟨meanings, hm, rfl⟩⟩
  · intro before line after hlines hb hl
    obtain ⟨earlier, rest, htext, rfl, hrest⟩ := List.map_eq_append_iff.1 hlines
    obtain ⟨raw, others, rfl, rfl, _⟩ := List.map_eq_cons_iff.1 hrest
    have hread : ∀ fault,
        readLine (earlier.length + 1) (Text.trim Text.isBlank raw) = .error fault →
          read text = .error fault := by
      intro fault hfault
      rw [read, htext]
      refine readLines_append others (List.forall_mem_map.1 hb) ?_
      rwa [Nat.add_comm]
    obtain ⟨hmalformed, hblank⟩ := readLine_of_not_accepted (earlier.length + 1) hl
    rw [List.length_map]
    exact ⟨fun hr => hread _ (hmalformed hr), fun hr => hread _ (hblank hr)⟩

/-- Two digits are a number only after a backslash and an `x`, and a quote ends a field unless a
backslash stands before it. -/
example : (read "# keys\n \"a\\x2Fb\",\"\\\\x2f\\x4\\\"\" ".toList).map
    (·.map fun source => (source.location, source.credential)) =
      .ok [("a/b", "\\x2fx4\"")] := by
  rfl

end Keyring.KeySource.Table
