import Keyring.Text.Lines

/-!
# How a text comes apart into lines

The splitter takes a carriage return and a line feed after it for one end of a line, so it looks at
two characters at a time. Three equations say what it does with a character that ends no line, with
such a pair and with any other end, and `lineInduction` is the induction along them. Main
statements: what stands before a line feed and what stands after it come apart on their own, and a
text has the lines that it has once all its newlines are written alike.
-/

namespace Keyring.Text

/-- The character ends its line together with the one after it. -/
def EndsJointly (c : Char) (rest : List Char) : Prop := c = '\r' ∧ rest.head? = some '\n'

theorem not_endsJointly_of_ne {c : Char} (h : c ≠ '\r') (rest : List Char) :
    ¬ EndsJointly c rest := fun hj => h hj.1

/-- Of the characters of a text, a line feed after it joins at most the last one. -/
theorem not_endsJointly_append {c : Char} {rest : List Char} (hj : ¬ EndsJointly c rest)
    (hend : ¬ (c = '\r' ∧ rest = [])) (after : List Char) :
    ¬ EndsJointly c (rest ++ '\n' :: after) := by
  cases rest with
  | nil => exact fun hjoint => hend ⟨hjoint.1, rfl⟩
  | cons d rest => exact hj

theorem ne_return_of_plain {c : Char} (h : isLineBreak c = false) : c ≠ '\r' := by
  rintro rfl
  exact absurd h (by decide)

/-! ## One step of the splitter -/

theorem linesFrom_plain {c : Char} (h : isLineBreak c = false) (current rest : List Char) :
    linesFrom current (c :: rest) = linesFrom (c :: current) rest := by
  cases rest with
  | nil => simp [linesFrom, h]
  | cons d rest => simp [linesFrom, h, ne_return_of_plain h]

theorem linesFrom_joint (current rest : List Char) :
    linesFrom current ('\r' :: '\n' :: rest) = current.reverse :: linesFrom [] rest := by
  simp [linesFrom]

theorem linesFrom_break {c : Char} {rest : List Char} (h : isLineBreak c = true)
    (hj : ¬ EndsJointly c rest) (current : List Char) :
    linesFrom current (c :: rest) = current.reverse :: linesFrom [] rest := by
  cases rest with
  | nil => simp [linesFrom, h]
  | cons d rest =>
    have hpair : ¬ (c = '\r' ∧ d = '\n') := by simpa [EndsJointly] using hj
    simp [linesFrom, h, hpair]

theorem linesFrom_newline (current rest : List Char) :
    linesFrom current ('\n' :: rest) = current.reverse :: linesFrom [] rest :=
  linesFrom_break (by decide) (not_endsJointly_of_ne (by decide) rest) current

/-- Induction along the splitter's steps. -/
@[elab_as_elim]
theorem lineInduction {motive : List Char → Prop} (nil : motive [])
    (plain : ∀ c rest, isLineBreak c = false → motive rest → motive (c :: rest))
    (joint : ∀ rest, motive rest → motive ('\r' :: '\n' :: rest))
    (ended : ∀ c rest, isLineBreak c = true → ¬ EndsJointly c rest → motive rest →
      motive (c :: rest))
    (text : List Char) : motive text := by
  have single : ∀ c rest, ¬ EndsJointly c rest → motive rest → motive (c :: rest) := by
    intro c rest hj hrest
    cases h : isLineBreak c with
    | false => exact plain c rest h hrest
    | true => exact ended c rest h hj hrest
  fun_induction unifyNewlines text with
  | case1 => exact nil
  | case2 c => exact single c [] (by simp [EndsJointly]) nil
  | case3 c d rest hpair ih =>
    obtain ⟨rfl, rfl⟩ := hpair
    exact joint rest ih
  | case4 c d rest hpair ih => exact single c (d :: rest) (by simpa [EndsJointly] using hpair) ih

/-! ## What stands on a line -/

theorem not_isLineBreak_of_mem_linesFrom {current text line : List Char}
    (hl : line ∈ linesFrom current text) (hc : ∀ c ∈ current, isLineBreak c = false) :
    ∀ c ∈ line, isLineBreak c = false := by
  have hcurrent : ∀ c ∈ current.reverse, isLineBreak c = false := by simpa using hc
  induction text using lineInduction generalizing current with
  | nil =>
    cases current with
    | nil => simp [linesFrom] at hl
    | cons a rest =>
      have hline : line = (a :: rest).reverse := by simpa [linesFrom] using hl
      exact hline ▸ hcurrent
  | plain c rest h ih =>
    rw [linesFrom_plain h] at hl
    have hcons : ∀ d ∈ c :: current, isLineBreak d = false := List.forall_mem_cons.2 ⟨h, hc⟩
    exact ih hl hcons (fun d hd => hcons d (List.mem_reverse.1 hd))
  | joint rest ih =>
    rw [linesFrom_joint, List.mem_cons] at hl
    rcases hl with rfl | hl
    · exact hcurrent
    · exact ih hl (by simp) (by simp)
  | ended c rest h hj ih =>
    rw [linesFrom_break h hj, List.mem_cons] at hl
    rcases hl with rfl | hl
    · exact hcurrent
    · exact ih hl (by simp) (by simp)

/-- No character on a line ends one. -/
theorem not_isLineBreak_of_mem_lines {text line : List Char} (h : line ∈ lines text) :
    ∀ c ∈ line, isLineBreak c = false :=
  not_isLineBreak_of_mem_linesFrom h (by simp)

/-! ## A line feed between two texts -/

theorem linesFrom_append_newline (current a b : List Char) :
    linesFrom current (a ++ '\n' :: b) = linesFrom current (a ++ ['\n']) ++ lines b := by
  induction a using lineInduction generalizing current with
  | nil => simp [linesFrom_newline, lines, linesFrom]
  | plain c rest h ih =>
    simp only [List.cons_append, linesFrom_plain h, ih]
  | joint rest ih =>
    simp only [List.cons_append, linesFrom_joint, ih]
  | ended c rest h hj ih =>
    by_cases hend : c = '\r' ∧ rest = []
    · -- The line feed ends the last line together with the carriage return before it.
      obtain ⟨rfl, rfl⟩ := hend
      simp [linesFrom_joint, lines, linesFrom]
    · simp only [List.cons_append, linesFrom_break h (not_endsJointly_append hj hend _), ih]

/-- The lines of two texts with a line feed between them are those of the first one, ended, and
those of the second. -/
theorem lines_append_newline (a b : List Char) :
    lines (a ++ '\n' :: b) = lines (a ++ ['\n']) ++ lines b :=
  linesFrom_append_newline [] a b

theorem linesFrom_concat_newline (current a : List Char) :
    linesFrom current (a ++ ['\n']) = linesFrom current a ∨
      linesFrom current (a ++ ['\n']) = linesFrom current a ++ [[]] := by
  induction a using lineInduction generalizing current with
  | nil =>
    cases current with
    | nil => exact .inr rfl
    | cons c rest => exact .inl (by simp [linesFrom_newline, linesFrom])
  | plain c rest h ih =>
    simp only [List.cons_append, linesFrom_plain h]
    exact ih (c :: current)
  | joint rest ih =>
    simp only [List.cons_append, linesFrom_joint, List.cons.injEq, true_and]
    exact ih []
  | ended c rest h hj ih =>
    by_cases hend : c = '\r' ∧ rest = []
    · -- The text ends in a carriage return, and the line feed makes its end no other one.
      obtain ⟨rfl, rfl⟩ := hend
      exact .inl (by simp [linesFrom_joint, linesFrom, h])
    · simp only [List.cons_append, linesFrom_break h hj,
        linesFrom_break h (not_endsJointly_append hj hend _), List.cons.injEq, true_and]
      exact ih []

/-- A line feed at the end of a text adds an empty line to it or nothing. -/
theorem lines_concat_newline (a : List Char) :
    lines (a ++ ['\n']) = lines a ∨ lines (a ++ ['\n']) = lines a ++ [[]] :=
  linesFrom_concat_newline [] a

theorem linesFrom_line (current : List Char) {line : List Char}
    (h : ∀ c ∈ line, isLineBreak c = false) (rest : List Char) :
    linesFrom current (line ++ '\n' :: rest) = (current.reverse ++ line) :: lines rest := by
  induction line generalizing current with
  | nil => simp [linesFrom_newline, lines]
  | cons c line ih =>
    obtain ⟨hc, hline⟩ := List.forall_mem_cons.1 h
    rw [List.cons_append, linesFrom_plain hc, ih (c :: current) hline]
    simp

/-- A text that starts with a line and its end has that line before all others. -/
theorem lines_line {line : List Char} (h : ∀ c ∈ line, isLineBreak c = false) (rest : List Char) :
    lines (line ++ '\n' :: rest) = line :: lines rest :=
  linesFrom_line [] h rest

/-! ## Newlines written alike -/

theorem unifyNewlines_joint (rest : List Char) :
    unifyNewlines ('\r' :: '\n' :: rest) = '\n' :: unifyNewlines rest := by
  simp [unifyNewlines]

theorem unifyNewlines_cons {c : Char} {rest : List Char} (hj : ¬ EndsJointly c rest) :
    unifyNewlines (c :: rest) = (if c = '\r' then '\n' else c) :: unifyNewlines rest := by
  cases rest with
  | nil => rfl
  | cons d rest =>
    have hpair : ¬ (c = '\r' ∧ d = '\n') := by simpa [EndsJointly] using hj
    simp [unifyNewlines, hpair]

theorem linesFrom_unifyNewlines (current text : List Char) :
    linesFrom current (unifyNewlines text) = linesFrom current text := by
  induction text using lineInduction generalizing current with
  | nil => rfl
  | plain c rest h ih =>
    have hc : c ≠ '\r' := ne_return_of_plain h
    rw [unifyNewlines_cons (not_endsJointly_of_ne hc rest), if_neg hc, linesFrom_plain h,
      linesFrom_plain h, ih]
  | joint rest ih => rw [unifyNewlines_joint, linesFrom_newline, linesFrom_joint, ih]
  | ended c rest h hj ih =>
    rw [unifyNewlines_cons hj, linesFrom_break h hj, ← ih []]
    by_cases hc : c = '\r'
    · rw [if_pos hc, linesFrom_newline]
    · rw [if_neg hc, linesFrom_break h (not_endsJointly_of_ne hc _)]

/-- A text has the same lines once its newlines are written alike. -/
theorem lines_unifyNewlines (text : List Char) : lines (unifyNewlines text) = lines text :=
  linesFrom_unifyNewlines [] text

end Keyring.Text
