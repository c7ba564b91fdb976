import Keyring.Batch

/-!
# Texts of one line

A text without a line feed stands on one line wherever it is put. Numbers are such texts, and so is
whatever stands between quotes, where a line feed is escaped. Main statement: of all values only a
text can be shown with a line feed in it, and only where it is shown on its own.
-/

namespace Keyring

namespace Text

/-- No line feed is in the text. -/
def OneLine (text : String) : Prop := '\n' ∉ text.toList

instance (text : String) : Decidable (OneLine text) :=
  inferInstanceAs (Decidable ('\n' ∉ text.toList))

theorem OneLine.append {first second : String} (h : OneLine first) (h' : OneLine second) :
    OneLine (first ++ second) := by
  simp only [OneLine, String.toList_append, List.mem_append, not_or]
  exact ⟨h, h'⟩

theorem oneLine_ofList {text : List Char} (h : '\n' ∉ text) : OneLine (String.ofList text) := by
  rwa [OneLine, String.toList_ofList]

/-- What is left of a text without its blanks is on one line if the text is. -/
theorem OneLine.strip {text : String} (h : OneLine text) : OneLine (strip text) :=
  oneLine_ofList fun hm => h (mem_of_mem_trim hm)

theorem OneLine.intercalate {separator : String} (hs : OneLine separator) {parts : List String}
    (h : ∀ part ∈ parts, OneLine part) : OneLine (String.intercalate separator parts) := by
  rw [OneLine, String.toList_intercalate]
  induction parts with
  | nil => simp
  | cons part rest ih =>
    obtain ⟨hpart, hrest⟩ := List.forall_mem_cons.1 h
    cases rest with
    | nil => simpa [OneLine] using hpart
    | cons next others =>
      rw [List.map_cons, List.map_cons, List.intercalate_cons_cons, List.mem_append,
        List.mem_append, not_or, not_or]
      exact ⟨⟨hpart, hs⟩, ih hrest⟩

/-! ## Numbers -/

theorem newline_notMem_toDigits (n : Nat) : '\n' ∉ Nat.toDigits 10 n := by
  intro h
  have hdigit : '\n'.isDigit = true := Nat.isDigit_of_mem_toDigits (by decide) (by decide) h
  cases hdigit

theorem oneLine_nat (n : Nat) : OneLine (toString n) := by
  rw [OneLine, Nat.toString_eq_repr, Nat.toList_repr]
  exact newline_notMem_toDigits n

theorem oneLine_int (n : Int) : OneLine (toString n) := by
  cases n with
  | ofNat n => exact oneLine_nat n
  | negSucc n => exact .append (show OneLine "-" by decide) (oneLine_nat (n + 1))

/-! ## Quoted texts -/

theorem digit_ne_newline (value : Nat) : Hex.digit value ≠ '\n' := by
  have hall : ∀ n < 16, Hex.digit n ≠ '\n' := by decide
  by_cases h : value < 16
  · exact hall value h
  · have hlength : Hex.digits.length ≤ value := Nat.le_of_not_lt h
    have hout : Hex.digit value = '0' := by
      rw [Hex.digit, List.getD, List.getElem?_eq_none hlength]
      rfl
    rw [hout]
    decide

theorem newline_notMem_hexDigits (width n : Nat) : '\n' ∉ hexDigits width n := by
  induction width generalizing n with
  | zero => simp [hexDigits]
  | succ width ih =>
    simp only [hexDigits, List.mem_append, List.mem_singleton, not_or]
    exact ⟨ih _, (digit_ne_newline _).symm⟩

theorem newline_notMem_commonEscape {quote c : Char} (hq : quote ≠ '\n') {escape : List Char}
    (h : commonEscape quote c = some escape) : '\n' ∉ escape := by
  unfold commonEscape at h
  split at h
  · rename_i hc
    have hne : c ≠ '\n' := by
      rcases hc with rfl | rfl
      · exact hq
      · decide
    cases h
    simpa using hne.symm
  · repeat' split at h
    all_goals cases h
    all_goals decide

/-- A line feed is escaped. -/
theorem ne_newline_of_commonEscape {quote c : Char} (h : commonEscape quote c = none) :
    c ≠ '\n' := by
  rintro rfl
  unfold commonEscape at h
  split at h <;> cases h

theorem newline_notMem_quotedChar {quote : Char} (hq : quote ≠ '\n') (c : Char) :
    '\n' ∉ quotedChar quote c := by
  unfold quotedChar
  split
  · rename_i escape he
    exact newline_notMem_commonEscape hq he
  · rename_i he
    have hne := (ne_newline_of_commonEscape he).symm
    split
    · simpa using hne
    · split
      · simpa using newline_notMem_hexDigits 2 c.toNat
      · split
        · simpa using newline_notMem_hexDigits 4 c.toNat
        · simpa using newline_notMem_hexDigits 8 c.toNat

theorem newline_notMem_quotedByte {quote : Char} (hq : quote ≠ '\n') (b : UInt8) :
    '\n' ∉ quotedByte quote b := by
  unfold quotedByte
  dsimp only
  split
  · rename_i escape he
    exact newline_notMem_commonEscape hq he
  · rename_i he
    split
    · simpa using (ne_newline_of_commonEscape he).symm
    · simpa using newline_notMem_hexDigits 2 b.toNat

theorem quoteFor_ne_newline (text : List Char) : quoteFor text ≠ '\n' := by
  unfold quoteFor
  split <;> decide

/-- Quotes hold no line feed if none of the pieces between them does. -/
theorem newline_notMem_between {α : Type} {quote : Char} (hq : quote ≠ '\n')
    {piece : α → List Char} (h : ∀ a, '\n' ∉ piece a) (items : List α) :
    '\n' ∉ quote :: (items.flatMap piece ++ [quote]) := by
  have hall : '\n' ∉ items.flatMap piece := by
    intro hm
    obtain ⟨a, _, ha⟩ := List.mem_flatMap.1 hm
    exact h a ha
  simp [hq.symm, hall]

theorem oneLine_quote (text : String) : OneLine (quote text) :=
  have hq := quoteFor_ne_newline text.toList
  oneLine_ofList (newline_notMem_between hq (newline_notMem_quotedChar hq) text.toList)

theorem oneLine_quoteBytes (bytes : Bytes) : OneLine (quoteBytes bytes) := by
  have hq : quoteForBytes bytes ≠ '\n' := quoteFor_ne_newline _
  refine oneLine_ofList (List.not_mem_cons_of_ne_of_not_mem (by decide) ?_)
  exact newline_notMem_between hq (newline_notMem_quotedByte hq) bytes

theorem oneLine_quoteBuffer (bytes : Bytes) : OneLine (quoteBuffer bytes) := by
  have hq : quoteForBytes bytes ≠ '\n' := quoteFor_ne_newline _
  refine oneLine_ofList (List.not_mem_cons_of_ne_of_not_mem (by decide) ?_)
  refine newline_notMem_between hq (fun b => ?_) bytes
  split
  · decide
  · exact newline_notMem_quotedByte hq b

end Text

open Text

/-! ## Values -/

namespace Binary64

theorem newline_notMem_exponentChars (e : Int) : '\n' ∉ exponentChars e := by
  have hd := newline_notMem_toDigits e.natAbs
  unfold exponentChars
  dsimp only
  split <;> split <;> simpa using hd

theorem newline_notMem_layOut {digits : List Char} (h : '\n' ∉ digits) (point : Int) :
    '\n' ∉ layOut digits point := by
  have he := newline_notMem_exponentChars (point - 1)
  have htake : '\n' ∉ digits.take point.toNat := fun hm => h (List.mem_of_mem_take hm)
  have hdrop : '\n' ∉ digits.drop point.toNat := fun hm => h (List.mem_of_mem_drop hm)
  unfold layOut
  split
  · split <;> simp_all
  · split
    · simp [h]
    · dsimp only
      split <;> simp [htake, hdrop]

theorem oneLine_text (x : Binary64) : OneLine x.text := by
  cases x with
  | nan => decide
  | infinity negative => cases negative <;> decide
  | finite negative mantissa exponent =>
    have hsigned : ∀ body : List Char, '\n' ∉ body →
        OneLine (String.ofList (if negative then '-' :: body else body)) := by
      intro body hbody
      refine oneLine_ofList ?_
      split <;> simpa using hbody
    refine hsigned _ ?_
    split
    · decide
    · refine newline_notMem_layOut (fun hm => ?_) _
      have hkept := (List.dropWhile_suffix _).mem (List.mem_reverse.1 hm)
      exact newline_notMem_toDigits _ (List.mem_reverse.1 hkept)

end Binary64

theorem KeyId.oneLine_hex (id : KeyId) : OneLine id.hex := by
  refine oneLine_ofList fun h => ?_
  obtain ⟨b, _, hb⟩ := List.mem_flatMap.1 h
  rw [Hex.encodeByte, List.mem_cons, List.mem_singleton] at hb
  rcases hb with hb | hb
  · exact digit_ne_newline _ hb.symm
  · exact digit_ne_newline _ hb.symm

theorem KeyId.oneLine_quoted (id : KeyId) : OneLine id.quoted :=
  .append (.append (by decide) id.oneLine_hex) (by decide)

theorem BlockType.oneLine_quoted (type : BlockType) : OneLine type.quoted := by
  cases type <;> decide

theorem KeySource.oneLine_shownLocation (source : KeySource) : OneLine source.shownLocation :=
  .append (by decide) (oneLine_quote _)

theorem KeySource.oneLine_quoted (source : KeySource) : OneLine source.quoted :=
  .append (.append (by decide) source.oneLine_shownLocation) (by decide)

namespace Value

/-- Brackets around items with commas between them. -/
theorem oneLine_bracketed {opening closing : String} (ho : OneLine opening) (hc : OneLine closing)
    {parts : List String} (h : ∀ part ∈ parts, OneLine part) :
    OneLine (opening ++ joinComma parts ++ closing) :=
  .append (.append ho (.intercalate (by decide) h)) hc

mutual
/-- Inside a collection every value stands on one line. -/
theorem oneLine_quoted : ∀ value : Value, OneLine value.quoted
  | .null => by decide
  | .bool b => by cases b <;> decide
  | .int n => oneLine_int n
  | .float x => x.oneLine_text
  | .text s => oneLine_quote s
  | .buffer .fixed bytes => oneLine_quoteBytes bytes
  | .buffer .mutable bytes => .append (.append (by decide) (oneLine_quoteBuffer bytes)) (by decide)
  | .buffer .view _ => show OneLine "<memory>" by decide
  | .keyId id => id.oneLine_quoted
  | .blockType type => type.oneLine_quoted
  | .source origin => origin.oneLine_quoted
  | .list items => oneLine_bracketed (by decide) (by decide) (oneLine_quotedItems items)
  | .tuple [] => by decide
  | .tuple [item] => .append (.append (by decide) (oneLine_quoted item)) (by decide)
  | .tuple (first :: second :: rest) =>
    oneLine_bracketed (by decide) (by decide) (oneLine_quotedItems (first :: second :: rest))
  | .record fields => oneLine_bracketed (by decide) (by decide) (oneLine_quotedFields fields)

theorem oneLine_quotedItems : ∀ items : List Value, ∀ part ∈ quotedItems items, OneLine part
  | [] => by simp [quotedItems]
  | item :: rest => List.forall_mem_cons.2 ⟨oneLine_quoted item, oneLine_quotedItems rest⟩

theorem oneLine_quotedFields :
    ∀ fields : List (String × Value), ∀ part ∈ quotedFields fields, OneLine part
  | [] => by simp [quotedFields]
  | (name, value) :: rest =>
    List.forall_mem_cons.2
      ⟨.append (.append (oneLine_quote name) (by decide)) (oneLine_quoted value),
        oneLine_quotedFields rest⟩
end

/-- On its own only a text is shown as it is. -/
theorem oneLine_shown {value : Value} (h : ∀ s, value ≠ .text s) : OneLine value.shown := by
  cases value with
  | text s => exact absurd rfl (h s)
  | keyId id => exact id.oneLine_hex
  | blockType type => exact oneLine_nat type.code
  | source origin => exact origin.oneLine_shownLocation
  | _ => exact oneLine_quoted _

end Value

end Keyring
