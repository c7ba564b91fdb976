/-!
# Blank characters

The characters that count as blank at the ends of a line or of a field, and the text without them.
Main statements: what `strip` leaves is bare at both ends, and a text that is bare at both ends is
left alone.
-/

namespace Keyring.Text

/-- White space and the separators of ASCII: every character that Unicode counts as white space, and
U+001C to U+001F. -/
def isBlank (c : Char) : Bool :=
  let code := c.toNat
  (0x09 ≤ code && code ≤ 0x0d) || (0x1c ≤ code && code ≤ 0x20) || code = 0x85 || code = 0xa0
    || code = 0x1680 || (0x2000 ≤ code && code ≤ 0x200a) || code = 0x2028 || code = 0x2029
    || code = 0x202f || code = 0x205f || code = 0x3000

/-- White space as Unicode has it, which leaves out the four separators of ASCII. -/
def isWhiteSpace (c : Char) : Bool := isBlank c && !(0x1c ≤ c.toNat && c.toNat ≤ 0x1f)

/-- The text without the characters of a class at its end. -/
def trimEnd (p : Char → Bool) (text : List Char) : List Char := (text.reverse.dropWhile p).reverse

/-- The text without the characters of a class at both ends. -/
def trim (p : Char → Bool) (text : List Char) : List Char := trimEnd p (text.dropWhile p)

/-- No character of the class stands at either end. -/
def IsBare (p : Char → Bool) (text : List Char) : Prop :=
  (∀ c ∈ text.head?, p c = false) ∧ ∀ c ∈ text.getLast?, p c = false

theorem head?_dropWhile (p : Char → Bool) (text : List Char) :
    ∀ c ∈ (text.dropWhile p).head?, p c = false := by
  induction text with
  | nil => simp
  | cons a rest ih =>
    by_cases h : p a
    · simpa [h] using ih
    · simp [h]

theorem dropWhile_eq_self (p : Char → Bool) (text : List Char)
    (h : ∀ c ∈ text.head?, p c = false) : text.dropWhile p = text := by
  cases text with
  | nil => rfl
  | cons a rest => simp [h a (by simp)]

theorem getLast?_trimEnd (p : Char → Bool) (text : List Char) :
    ∀ c ∈ (trimEnd p text).getLast?, p c = false := by
  simpa [trimEnd] using head?_dropWhile p text.reverse

theorem trimEnd_eq_self (p : Char → Bool) (text : List Char)
    (h : ∀ c ∈ text.getLast?, p c = false) : trimEnd p text = text := by
  have : text.reverse.dropWhile p = text.reverse :=
    dropWhile_eq_self p _ (by simpa [List.head?_reverse] using h)
  simp [trimEnd, this]

/-- What is left after the end is trimmed is the start of the text. -/
theorem exists_trimEnd_append (p : Char → Bool) (text : List Char) :
    ∃ tail, text = trimEnd p text ++ tail := by
  refine ⟨(text.reverse.takeWhile p).reverse, ?_⟩
  rw [trimEnd, ← List.reverse_append, List.takeWhile_append_dropWhile, List.reverse_reverse]

theorem isBare_trim (p : Char → Bool) (text : List Char) : IsBare p (trim p text) := by
  refine ⟨?_, getLast?_trimEnd p _⟩
  intro c hc
  obtain ⟨tail, htail⟩ := exists_trimEnd_append p (text.dropWhile p)
  refine head?_dropWhile p text c ?_
  rw [htail]
  cases h : trimEnd p (text.dropWhile p) with
  | nil => simp [trim, h] at hc
  | cons a rest => simpa [trim, h] using hc

theorem trim_eq_self (p : Char → Bool) (text : List Char) (h : IsBare p text) :
    trim p text = text := by
  rw [trim, dropWhile_eq_self p text h.1, trimEnd_eq_self p text h.2]

theorem trim_trim (p : Char → Bool) (text : List Char) : trim p (trim p text) = trim p text :=
  trim_eq_self p _ (isBare_trim p text)

theorem mem_of_mem_trim {p : Char → Bool} {text : List Char} {c : Char} (h : c ∈ trim p text) :
    c ∈ text := by
  obtain ⟨tail, htail⟩ := exists_trimEnd_append p (text.dropWhile p)
  have hc : c ∈ text.dropWhile p := by
    rw [htail]
    exact List.mem_append_left tail h
  exact (List.dropWhile_suffix p).mem hc

/-- The text without blanks at its ends. -/
def strip (text : String) : String := String.ofList (trim isBlank text.toList)

@[simp] theorem toList_strip (text : String) : (strip text).toList = trim isBlank text.toList := by
  simp [strip]

theorem strip_eq_self {text : String} (h : IsBare isBlank text.toList) : strip text = text := by
  rw [strip, trim_eq_self isBlank _ h, String.ofList_toList]

theorem strip_strip (text : String) : strip (strip text) = strip text := by
  simp [strip, trim_trim]

end Keyring.Text
