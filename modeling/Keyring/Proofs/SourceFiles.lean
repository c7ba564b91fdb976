import Keyring.KeySource.File
import Keyring.Proofs.TextLines
import Mathlib.Tactic.SplitIfs

/-!
# Files of key sources and their texts

What is read from a file is what stands in its text. The name decides how the text is read, and a
table in a file comes to what it comes to without the file, although its newlines are written alike
before it is read.
-/

namespace Keyring.KeySource

/-! ## The end of a name -/

/-- The name ends in `.json`, in letters of either case, and has something before that. -/
def EndsInJson (name : List Char) : Prop :=
  ∃ stem ending, name = stem ++ ending ∧ stem ≠ [] ∧
    ending.map Char.toLower = ['.', 'j', 's', 'o', 'n']

theorem eq_dot_of_toLower {c : Char} (h : c.toLower = '.') : c = '.' := by
  unfold Char.toLower at h
  split at h
  · exfalso
    have hval : c.val + 32 = 46 := congrArg Char.val h
    grind
  · exact h

theorem extension_append {stem tail : List Char} (hs : stem ≠ []) (ht : tail ≠ [])
    (hdot : '.' ∉ tail) : extension (stem ++ '.' :: tail) = '.' :: tail := by
  have hlast : ((stem ++ '.' :: tail).reverse.takeWhile (· ≠ '.')).reverse = tail := by
    have hplain : ∀ c ∈ tail.reverse, decide (c ≠ '.') = true := by
      intro c hc
      have hne : c ≠ '.' := fun he => hdot (he ▸ List.mem_reverse.1 hc)
      simpa using hne
    rw [List.reverse_append, List.reverse_cons, List.append_assoc,
      List.takeWhile_append_of_pos hplain]
    simp
  have hlength : ¬ tail.length + 1 ≥ (stem ++ '.' :: tail).length := by
    have hpos := List.length_pos_iff.2 hs
    simp only [List.length_append, List.length_cons]
    omega
  simp only [extension, hlast, List.isEmpty_iff, ht, hlength, or_self, if_false]

theorem exists_stem_of_extension {name : List Char} (h : extension name ≠ []) :
    ∃ stem, stem ≠ [] ∧ name = stem ++ extension name := by
  have hsplit := List.takeWhile_append_dropWhile (p := (· ≠ '.')) (l := name.reverse)
  have hhead := Text.head?_dropWhile (fun c => c ≠ '.') name.reverse
  dsimp only [extension] at h ⊢
  split_ifs at h ⊢ with hshort
  · exact absurd rfl h
  · have hlength := congrArg List.length hsplit
    simp only [List.length_append, List.length_reverse] at hlength hshort
    cases hrest : name.reverse.dropWhile (· ≠ '.') with
    | nil =>
      rw [hrest, List.length_nil] at hlength
      omega
    | cons d stem =>
      rw [hrest] at hlength hsplit hhead
      obtain rfl : d = '.' := by simpa using hhead d rfl
      refine ⟨stem.reverse, ?_, ?_⟩
      · rintro hempty
        rw [List.reverse_eq_nil_iff] at hempty
        subst hempty
        simp only [List.length_cons, List.length_nil] at hlength
        omega
      · have hname := congrArg List.reverse hsplit
        simpa using hname.symm

/-- A file holds a JSON array if the last name of its path says so. -/
theorem isArrayFile_iff (path : String) : isArrayFile path = true ↔ EndsInJson (lastName path) := by
  rw [isArrayFile, decide_eq_true_iff]
  constructor
  · intro h
    have hne : extension (lastName path) ≠ [] := by
      intro hempty
      rw [hempty] at h
      cases h
    obtain ⟨stem, hs, hname⟩ := exists_stem_of_extension hne
    exact ⟨stem, extension (lastName path), hname, hs, h⟩
  · rintro ⟨stem, ending, hname, hs, hending⟩
    obtain ⟨dot, tail, rfl, hdot, htail⟩ := List.map_eq_cons_iff.1 hending
    obtain rfl := eq_dot_of_toLower hdot
    have hnone : '.' ∉ tail := by
      intro hmem
      have hlower : Char.toLower '.' ∈ tail.map Char.toLower := List.mem_map_of_mem hmem
      rw [htail] at hlower
      exact absurd hlower (by decide)
    have hne : tail ≠ [] := by
      rintro rfl
      cases htail
    rw [hname, extension_append hs hne hnone, hending]

/-! ## Content -/

/-- A table stays what it is when its newlines are written alike. -/
theorem Table.read_unifyNewlines (text : List Char) :
    Table.read (Text.unifyNewlines text) = Table.read text := by
  rw [Table.read, Text.lines_unifyNewlines, Table.read]

theorem load_of_read {files : FileSystem} {path : String} {content : Bytes}
    (h : files.read (tidyPath path) = .ok content) :
    load files path = readContent (tidyPath path) content := by
  simp only [load, h]

/-- A file whose name does not end in `.json`, in letters of either case, comes to what the text in
it comes to as a table, and a file whose name does to what its bytes come to as an array. No table
depends on how its newlines are written. -/
theorem load_eq_read :
    (∀ files path text, ¬ EndsInJson (lastName (tidyPath path)) →
      files.read (tidyPath path) = .ok (Bytes.ofText text) →
        load files path = (Table.read text.toList).mapError .invalidList) ∧
    (∀ files path content, EndsInJson (lastName (tidyPath path)) →
      files.read (tidyPath path) = .ok content →
        load files path = (readArrayBytes content).mapError .invalidList) ∧
    ∀ text, Table.read (Text.unifyNewlines text) = Table.read text := by
  refine ⟨?_, ?_, Table.read_unifyNewlines⟩
  · intro files path text hname hread
    have harray : isArrayFile (tidyPath path) = false := by
      rw [← Bool.not_eq_true, isArrayFile_iff]
      exact hname
    rw [load_of_read hread, readContent, harray, Bytes.toText?_ofText]
    simp only [Bool.false_eq_true, if_false, Table.read_unifyNewlines]
  · intro files path content hname hread
    rw [load_of_read hread, readContent, if_pos ((isArrayFile_iff _).2 hname)]

/-- The lines of a table in a file are counted by its carriage returns too, and the name of an array
may be in capitals. -/
theorem load_eq_read_two_files :
    load (FileSystem.initial.put ["tmp", "work", "keys.txt"]
        (.file (Bytes.ofText "\"a\",\"\"\r\n\"b\"\r"))) "keys.txt" =
      .error (.invalidList (.malformedRecord 2)) ∧
    load (FileSystem.initial.put ["tmp", "work", "KEYS.JSON"] (.file (Bytes.ofText "[]")))
        "./KEYS.JSON" = .ok [] := by
  constructor
  · have hname : ¬ EndsInJson (lastName (tidyPath "keys.txt")) :=
      mt (isArrayFile_iff _).2 (by decide)
    exact load_eq_read.1 _ _ "\"a\",\"\"\r\n\"b\"\r" hname rfl
  · have hname : EndsInJson (lastName (tidyPath "./KEYS.JSON")) := (isArrayFile_iff _).1 (by decide)
    exact load_eq_read.2.1 _ _ (Bytes.ofText "[]") hname rfl

end Keyring.KeySource
