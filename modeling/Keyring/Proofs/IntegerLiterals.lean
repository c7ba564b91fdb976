import Keyring.Decimal.Literal

/-!
# The grammar of integer literals

The texts that stand for an integer, and the integer that they stand for. The reader goes through
the marks of the characters and takes digits, with the underscores between them, as far as they go.
So what it takes is what the grammar has for digits, as long as something else comes after them.
-/

namespace Keyring.Decimal

/-! ## The grammar -/

/-- Digits of any script, with single underscores between them, and their values. -/
inductive IsDigits : List Char → List Nat → Prop where
  | last {c : Char} {d : Nat} (h : digit? c = some d) : IsDigits [c] [d]
  | next {c : Char} {d : Nat} {rest : List Char} {digits : List Nat} (h : digit? c = some d)
    (more : IsDigits rest digits) : IsDigits (c :: rest) (d :: digits)
  | underscore {c : Char} {d : Nat} {rest : List Char} {digits : List Nat} (h : digit? c = some d)
    (more : IsDigits rest digits) : IsDigits (c :: '_' :: rest) (d :: digits)

/-- The number with more digits after those that it has. -/
def withDigits (value : Nat) (digits : List Nat) : Nat :=
  digits.foldl (fun value d => value * 10 + d) value

/-- What may stand before digits, and what it makes of their value. -/
inductive IsSign : List Char → Int → Prop where
  | absent : IsSign [] 1
  | plus : IsSign ['+'] 1
  | minus : IsSign ['-'] (-1)

/-- The text of an integer: a sign and digits, with white space around. A text of more than 4300
digits is no literal, whatever their values are. -/
inductive IsLiteral : List Char → Int → Prop where
  | intro {before sign chars after : List Char} {factor : Int} {digits : List Nat}
    (hb : ∀ c ∈ before, Text.isWhiteSpace c = true) (ha : ∀ c ∈ after, Text.isWhiteSpace c = true)
    (hs : IsSign sign factor) (hd : IsDigits chars digits) (short : digits.length ≤ literalLimit) :
    IsLiteral (before ++ (sign ++ (chars ++ after))) (factor * withDigits 0 digits)

/-! ## Marks -/

namespace Mark

/-- The code points of white space outside ASCII. -/
def blankCodes : List Nat :=
  [0x85, 0xa0, 0x1680, 0x2028, 0x2029, 0x202f, 0x205f, 0x3000] ++ List.range' 0x2000 11

/-- White space is no digit. -/
theorem digit?_of_isWhiteSpace {c : Char} (h : Text.isWhiteSpace c = true) : digit? c = none := by
  have hzeros : ∀ code ∈ blankCodes,
      zeros.find? (fun first => first ≤ code ∧ code < first + 10) = none := by decide
  simp only [Text.isWhiteSpace, Text.isBlank, Bool.and_eq_true, Bool.or_eq_true, decide_eq_true_eq,
    Bool.not_eq_true', Bool.and_eq_false_iff, decide_eq_false_iff_not] at h
  unfold digit?
  split
  · rw [asciiDigit?, if_neg (by omega)]
  · have hm : c.toNat ∈ blankCodes := by
      simp only [blankCodes, List.mem_append, List.mem_cons, List.not_mem_nil, List.mem_range'_1]
      omega
    rw [hzeros _ hm]
    rfl

/-- What the mark of a character says about it. -/
theorem ofChar_cases (c : Char) :
    (∃ d, digit? c = some d ∧ ofChar c = .digit d) ∨ (c = '_' ∧ ofChar c = .underscore) ∨
      (c = '+' ∧ ofChar c = .plus) ∨ (c = '-' ∧ ofChar c = .minus) ∨
      (Text.isWhiteSpace c = true ∧ ofChar c = .blank) ∨
      (Text.isWhiteSpace c = false ∧ ofChar c = .other) := by
  unfold ofChar
  cases hd : digit? c with
  | some d => exact .inl ⟨d, rfl, rfl⟩
  | none =>
    by_cases hu : c = '_'
    · simp [hu]
    · by_cases hp : c = '+'
      · simp [hp]
      · by_cases hm : c = '-'
        · simp [hm]
        · cases hw : Text.isWhiteSpace c <;> simp [hu, hp, hm]

theorem ofChar_digit {c : Char} {d : Nat} (h : digit? c = some d) : ofChar c = .digit d := by
  simp [ofChar, h]

theorem ofChar_blank {c : Char} (h : Text.isWhiteSpace c = true) : ofChar c = .blank := by
  have hd := digit?_of_isWhiteSpace h
  rcases ofChar_cases c with ⟨d, hc, _⟩ | ⟨rfl, _⟩ | ⟨rfl, _⟩ | ⟨rfl, _⟩ | ⟨_, ho⟩ | ⟨hw, _⟩
  · rw [hd] at hc
    cases hc
  · exact absurd h (by decide)
  · exact absurd h (by decide)
  · exact absurd h (by decide)
  · exact ho
  · rw [h] at hw
    cases hw

theorem ofChar_eq_blank_iff {c : Char} : ofChar c = .blank ↔ Text.isWhiteSpace c = true := by
  constructor
  · intro h
    rcases ofChar_cases c with ⟨_, _, ho⟩ | ⟨_, ho⟩ | ⟨_, ho⟩ | ⟨_, ho⟩ | ⟨hw, _⟩ | ⟨_, ho⟩
    · simp [ho] at h
    · simp [ho] at h
    · simp [ho] at h
    · simp [ho] at h
    · exact hw
    · simp [ho] at h
  · exact ofChar_blank

theorem ofChar_ne_sign {c : Char} (hm : c ≠ '-') (hp : c ≠ '+') :
    ofChar c ≠ .minus ∧ ofChar c ≠ .plus := by
  rcases ofChar_cases c with ⟨_, _, ho⟩ | ⟨_, ho⟩ | ⟨hc, _⟩ | ⟨hc, _⟩ | ⟨_, ho⟩ | ⟨_, ho⟩
  · simp [ho]
  · simp [ho]
  · exact absurd hc hp
  · exact absurd hc hm
  · simp [ho]
  · simp [ho]

end Mark

/-! ## Digits -/

/-- Whether the digits before these marks end there. -/
def EndsDigits (marks : List Mark) : Prop :=
  ∀ mark ∈ marks.head?, mark ≠ .underscore ∧ ∀ d, mark ≠ .digit d

theorem endsDigits_nil : EndsDigits [] := fun _ h => by cases h

/-- A character is a digit, an underscore, or ends the digits before it. -/
theorem digit_or_ends (c : Char) (marks : List Mark) :
    (∃ d, digit? c = some d ∧ Mark.ofChar c = .digit d) ∨
      (c = '_' ∧ Mark.ofChar c = .underscore) ∨ EndsDigits (Mark.ofChar c :: marks) := by
  have hends : Mark.ofChar c ≠ .underscore → (∀ d, Mark.ofChar c ≠ .digit d) →
      EndsDigits (Mark.ofChar c :: marks) := by
    intro hu hd mark hm
    cases hm
    exact ⟨hu, hd⟩
  rcases Mark.ofChar_cases c with h | h | ⟨_, h⟩ | ⟨_, h⟩ | ⟨_, h⟩ | ⟨_, h⟩
  · exact .inl h
  · exact .inr (.inl h)
  all_goals exact .inr (.inr (hends (by simp [h]) (by simp [h])))

theorem readDigits_of_ends {marks : List Mark} (h : EndsDigits marks) (afterDigit : Bool)
    (count value : Nat) : readDigits afterDigit count value marks =
      if afterDigit then some (count, value, marks) else none := by
  cases marks with
  | nil => rfl
  | cons mark rest =>
    obtain ⟨hu, hd⟩ := h mark rfl
    cases mark with
    | digit d => exact absurd rfl (hd d)
    | underscore => exact absurd rfl hu
    | _ => rfl

/-- Digits are read as far as they go. -/
theorem readDigits_append {chars : List Char} {digits : List Nat} (h : IsDigits chars digits)
    {marks : List Mark} (hends : EndsDigits marks) (afterDigit : Bool) (count value : Nat) :
    readDigits afterDigit count value (chars.map Mark.ofChar ++ marks) =
      some (count + digits.length, withDigits value digits, marks) := by
  have hunderscore : Mark.ofChar '_' = .underscore := by decide
  induction h generalizing afterDigit count value with
  | last hd =>
    simp only [List.map_cons, List.map_nil, List.singleton_append, Mark.ofChar_digit hd, readDigits,
      readDigits_of_ends hends, if_true]
    rfl
  | next hd _ ih =>
    simp only [List.map_cons, List.cons_append, Mark.ofChar_digit hd, readDigits, ih,
      List.length_cons, Nat.add_assoc, Nat.add_comm 1]
    rfl
  | underscore hd _ ih =>
    simp only [List.map_cons, List.cons_append, Mark.ofChar_digit hd, hunderscore, readDigits, ih,
      List.length_cons, Nat.add_assoc, Nat.add_comm 1, if_true]
    rfl

/-- What is read is nothing, if a digit came before, or digits, perhaps after an underscore if a
digit came before. -/
theorem exists_of_readDigits {text : List Char} {afterDigit : Bool} {count value found total : Nat}
    {marks : List Mark}
    (h : readDigits afterDigit count value (text.map Mark.ofChar) = some (found, total, marks)) :
    (afterDigit = true ∧ found = count ∧ total = value ∧ marks = text.map Mark.ofChar) ∨
      ∃ chars digits after, IsDigits chars digits ∧
        (text = chars ++ after ∨ afterDigit = true ∧ text = '_' :: (chars ++ after)) ∧
        marks = after.map Mark.ofChar ∧ found = count + digits.length ∧
        total = withDigits value digits := by
  induction text generalizing afterDigit count value with
  | nil =>
    rw [List.map_nil, readDigits_of_ends endsDigits_nil] at h
    cases afterDigit <;> cases h
    exact .inl ⟨rfl, rfl, rfl, rfl⟩
  | cons c rest ih =>
    rcases digit_or_ends c (rest.map Mark.ofChar) with ⟨d, hd, hc⟩ | ⟨rfl, hc⟩ | hends
    · simp only [List.map_cons, hc, readDigits] at h
      right
      rcases ih h with ⟨_, rfl, rfl, rfl⟩ | ⟨chars, digits, after, hdigits, htext, rfl, rfl, rfl⟩
      · exact ⟨[c], [d], rest, .last hd, .inl rfl, rfl, rfl, rfl⟩
      · have hcount : count + 1 + digits.length = count + (d :: digits).length := by
          rw [List.length_cons]
          omega
        rcases htext with rfl | ⟨_, rfl⟩
        · exact ⟨c :: chars, d :: digits, after, .next hd hdigits, .inl rfl, rfl, hcount, rfl⟩
        · exact ⟨c :: '_' :: chars, d :: digits, after, .underscore hd hdigits, .inl rfl, rfl,
            hcount, rfl⟩
    · simp only [List.map_cons, hc, readDigits, Option.ite_none_right_eq_some] at h
      obtain ⟨hafter, h⟩ := h
      right
      -- After an underscore there have to be digits, and nothing between.
      rcases ih h with ⟨hfalse, _⟩ | ⟨chars, digits, after, hdigits, htext, rfl, rfl, rfl⟩
      · cases hfalse
      · rcases htext with rfl | ⟨hfalse, _⟩
        · exact ⟨chars, digits, after, hdigits, .inr ⟨hafter, rfl⟩, rfl, rfl, rfl⟩
        · cases hfalse
    · rw [List.map_cons, readDigits_of_ends hends] at h
      cases afterDigit <;> cases h
      exact .inl ⟨rfl, rfl, rfl, rfl⟩

/-! ## Literals -/

theorem all_blank_iff (text : List Char) :
    (text.map Mark.ofChar).all (· = .blank) = true ↔ ∀ c ∈ text, Text.isWhiteSpace c = true := by
  simp [Mark.ofChar_eq_blank_iff]

/-- A text is read as a magnitude if it has digits, no more than 4300 of them, and then white space
only. -/
theorem readMagnitude_eq_ok_iff {text : List Char} {value : Nat} :
    readMagnitude (text.map Mark.ofChar) = .ok value ↔
      ∃ chars digits after, text = chars ++ after ∧ IsDigits chars digits ∧
        digits.length ≤ literalLimit ∧ (∀ c ∈ after, Text.isWhiteSpace c = true) ∧
        value = withDigits 0 digits := by
  constructor
  · intro h
    unfold readMagnitude at h
    split at h
    · cases h
    · rename_i count total marks hr
      split at h
      · cases h
      · split at h
        · rename_i hlimit hblank
          cases h
          rcases exists_of_readDigits hr with
            ⟨hfalse, _⟩ | ⟨chars, digits, after, hdigits, htext, rfl, rfl, rfl⟩
          · cases hfalse
          · rcases htext with rfl | ⟨hfalse, _⟩
            · refine ⟨chars, digits, after, rfl, hdigits, ?_, (all_blank_iff after).1 hblank, rfl⟩
              omega
            · cases hfalse
        · cases h
  · rintro ⟨chars, digits, after, rfl, hdigits, hshort, hafter, rfl⟩
    have hends : EndsDigits (after.map Mark.ofChar) := by
      intro mark hm
      rw [List.head?_map, Option.mem_def, Option.map_eq_some_iff] at hm
      obtain ⟨c, hc, rfl⟩ := hm
      rw [Mark.ofChar_blank (hafter c (List.mem_of_mem_head? hc))]
      exact ⟨Mark.noConfusion, fun _ => Mark.noConfusion⟩
    have hlimit : ¬ 0 + digits.length > literalLimit := by omega
    rw [List.map_append, readMagnitude, readDigits_append hdigits hends]
    simp only [hlimit, (all_blank_iff after).2 hafter, if_true, if_false]

theorem dropWhile_blank (text : List Char) :
    (text.map Mark.ofChar).dropWhile (· = .blank) =
      (text.dropWhile Text.isWhiteSpace).map Mark.ofChar := by
  have hblank : (fun mark => decide (mark = .blank)) ∘ Mark.ofChar = Text.isWhiteSpace := by
    funext c
    rw [Function.comp_apply, Bool.eq_iff_iff, decide_eq_true_iff, Mark.ofChar_eq_blank_iff]
  rw [List.dropWhile_map, hblank]

/-- White space is passed over, and then a sign, if there is one. -/
theorem ofText_sign {before sign rest : List Char} {factor : Int}
    (hb : ∀ c ∈ before, Text.isWhiteSpace c = true) (hs : IsSign sign factor)
    (hr : sign = [] → ∀ c ∈ rest.head?, Text.isWhiteSpace c = false ∧ c ≠ '-' ∧ c ≠ '+') :
    ofText (before ++ (sign ++ rest)) =
      match readMagnitude (rest.map Mark.ofChar) with
      | .ok value => .ok (factor * value)
      | .error fault => .error fault := by
  have hone : ∀ read : Except LiteralFault Nat, read.map Int.ofNat =
      match read with
      | .ok value => .ok (1 * (value : Int))
      | .error fault => .error fault := by
    intro read
    cases read with
    | error fault => rfl
    | ok value => exact congrArg Except.ok (Int.one_mul _).symm
  have hplus : Mark.ofChar '+' = .plus := by decide
  have hminus : Mark.ofChar '-' = .minus := by decide
  have hhead : ∀ c ∈ (sign ++ rest).head?, Text.isWhiteSpace c = false := by
    intro c hc
    cases hs with
    | absent => exact (hr rfl c hc).1
    | plus =>
      cases hc
      decide
    | minus =>
      cases hc
      decide
  rw [ofText, readLiteral, dropWhile_blank, List.dropWhile_append_of_pos hb,
    Text.dropWhile_eq_self _ _ hhead, List.map_append]
  cases hs with
  | plus =>
    rw [List.map_singleton, hplus]
    exact hone _
  | minus =>
    rw [List.map_singleton, hminus]
    show Except.map (fun n => -n) ((readMagnitude (rest.map Mark.ofChar)).map Int.ofNat) = _
    cases readMagnitude (rest.map Mark.ofChar) with
    | error fault => rfl
    | ok value => exact congrArg Except.ok (Int.neg_one_mul _).symm
  | absent =>
    cases rest with
    | nil => rfl
    | cons c others =>
      obtain ⟨_, hm, hp⟩ := hr rfl c rfl
      obtain ⟨hm, hp⟩ := Mark.ofChar_ne_sign hm hp
      rw [List.map_nil, List.nil_append, List.map_cons]
      generalize Mark.ofChar c = mark at hm hp
      cases mark with
      | plus => exact absurd rfl hp
      | minus => exact absurd rfl hm
      | _ => exact hone _

/-- Every text has white space and a sign at its start, if only none. -/
theorem exists_sign (text : List Char) :
    ∃ before sign rest factor, text = before ++ (sign ++ rest) ∧
      (∀ c ∈ before, Text.isWhiteSpace c = true) ∧ IsSign sign factor ∧
      (sign = [] → ∀ c ∈ rest.head?, Text.isWhiteSpace c = false ∧ c ≠ '-' ∧ c ≠ '+') := by
  have hhead := Text.head?_dropWhile Text.isWhiteSpace text
  have hsplit := (List.takeWhile_append_dropWhile (p := Text.isWhiteSpace) (l := text)).symm
  have hbefore : ∀ c ∈ text.takeWhile Text.isWhiteSpace, Text.isWhiteSpace c = true :=
    List.all_eq_true.1 List.all_takeWhile
  generalize text.takeWhile Text.isWhiteSpace = before at hsplit hbefore
  generalize text.dropWhile Text.isWhiteSpace = tail at hsplit hhead
  by_cases hm : tail.head? = some '-'
  · obtain ⟨rest, rfl⟩ := List.head?_eq_some_iff.1 hm
    exact ⟨before, ['-'], rest, -1, hsplit, hbefore, .minus, fun h => by cases h⟩
  · by_cases hp : tail.head? = some '+'
    · obtain ⟨rest, rfl⟩ := List.head?_eq_some_iff.1 hp
      exact ⟨before, ['+'], rest, 1, hsplit, hbefore, .plus, fun h => by cases h⟩
    · refine ⟨before, [], tail, 1, hsplit, hbefore, .absent, ?_⟩
      intro _ c hc
      refine ⟨hhead c hc, ?_, ?_⟩
      · rintro rfl
        exact hm hc
      · rintro rfl
        exact hp hc

/-- A text stands for an integer exactly if it has the form of a literal. -/
theorem ofText_eq_ok_iff {text : List Char} {n : Int} :
    ofText text = .ok n ↔ IsLiteral text n := by
  constructor
  · intro h
    obtain ⟨before, sign, rest, factor, rfl, hb, hs, hr⟩ := exists_sign text
    rw [ofText_sign hb hs hr] at h
    cases hm : readMagnitude (rest.map Mark.ofChar) with
    | error fault => simp [hm] at h
    | ok value =>
      simp only [hm, Except.ok.injEq] at h
      obtain ⟨chars, digits, after, rfl, hdigits, hshort, hafter, rfl⟩ :=
        readMagnitude_eq_ok_iff.1 hm
      subst h
      exact .intro hb hafter hs hdigits hshort
  · rintro ⟨hb, hafter, hs, hdigits, hshort⟩
    have hm := readMagnitude_eq_ok_iff.2 ⟨_, _, _, rfl, hdigits, hshort, hafter, rfl⟩
    rw [ofText_sign hb hs, hm]
    intro _ c hc
    have hdigit : ∃ d, digit? c = some d := by
      cases hdigits <;> cases hc <;> exact ⟨_, ‹_›⟩
    obtain ⟨d, hd⟩ := hdigit
    refine ⟨?_, ?_, ?_⟩
    · rw [← Bool.not_eq_true]
      intro hw
      rw [Mark.digit?_of_isWhiteSpace hw] at hd
      cases hd
    · rintro rfl
      cases hd
    · rintro rfl
      cases hd

example : ofText " +1_000 ".toList = .ok 1000 := rfl

end Keyring.Decimal
