import Keyring.Proofs.KeyImport

/-!
# Reading up to a limit

A key file is read by asking for one byte more than the limit, so that a larger file is told from
one that fits. The count that is asked for has meanings of its own: minus one asks for all bytes,
less than that is no length, and what is no size of a byte string is turned down before anything is
read. Main statement: what is returned is the whole content of the file, whatever the limit is. A
file that opens is returned or refused for its size under each limit from zero on with which one
byte more is a signed number of 64 bits, except for the last thirty-three of these limits: as the
header of a byte string is counted in, one byte more is no size of one there.
-/

namespace Keyring.KeyFile

/-- What the result of reading a file up to a limit has to be. A file that cannot be opened is
refused, whatever the limit is. Of one that opens all is returned or nothing: it is returned under a
limit that it fits and refused under a smaller one, and under minus one and minus two it is always
refused. Below that the limit is no length, and a limit that is no signed number of 64 bits with one
byte more is too large. -/
structure IsExact (files : FileSystem) (location : String) (most : Int)
    (result : Except Keyring.Failure Bytes) : Prop where
  whole : ∀ found, result = .ok found → files.read location = .ok found
  unopened : ∀ fault, files.read location = .error fault → Raises result .keyInput
  returned : ∀ content, files.read location = .ok content →
    0 ≤ most → most ≤ Bytes.wordBound - 2 → (result = .ok content ↔ content.length ≤ most)
  oversized : ∀ content, files.read location = .ok content →
    0 ≤ most → most ≤ Bytes.wordBound - 2 → (Raises result .keyInput ↔ most < content.length)
  refused : ∀ content, files.read location = .ok content →
    most = -1 ∨ most = -2 → Raises result .keyInput
  negative : ∀ content, files.read location = .ok content →
    -(Bytes.wordBound : Int) - 1 ≤ most → most < -2 → result = .error (.unusable .negativeLength)
  outOfRange : ∀ content, files.read location = .ok content →
    (Bytes.wordBound : Int) - 1 ≤ most ∨ most < -(Bytes.wordBound : Int) - 1 →
      result = .error (.unusable .tooLarge)

variable {files : FileSystem} {location : String} {content : Bytes} {limit : Value} {most : Int}

/-- What a caller gets of a file that can be opened. -/
theorem atLocation_read_of_opened (h : files.read location = .ok content)
    (hlimit : limit.integer? = some most) :
    (read files location limit).mapError (Failure.atLocation location) =
      if most < -(Bytes.wordBound : Int) - 1 ∨ (Bytes.maxSize : Int) ≤ most then
        .error (.unusable .tooLarge)
      else if most < -2 then .error (.unusable .negativeLength)
      else if (content.length : Int) ≤ most then .ok content
      else .error (.keyFile location (.tooLarge limit.shown)) := by
  rw [read_of_opened h hlimit]
  simp only [apply_ite (Except.mapError (Failure.atLocation location))]
  rfl

/-- What a caller gets of a file that cannot be opened, whatever the limit is. -/
theorem atLocation_read_of_error {fault : FileSystem.Fault}
    (h : files.read location = .error fault) (hnul : '\x00' ∉ location.toList) (limit : Value) :
    (read files location limit).mapError (Failure.atLocation location) =
      .error (.keyFile location (.unreadable fault)) := by
  rw [read_of_error h hnul]
  rfl

/-- What is returned is never the start of a larger file. -/
theorem read_eq_of_atLocation {found : Bytes} (hnul : '\x00' ∉ location.toList)
    (hlimit : limit.integer? = some most)
    (h : (read files location limit).mapError (Failure.atLocation location) = .ok found) :
    files.read location = .ok found := by
  cases hr : files.read location with
  | error fault =>
    rw [atLocation_read_of_error hr hnul] at h
    cases h
  | ok content =>
    rw [atLocation_read_of_opened hr hlimit] at h
    split at h
    · cases h
    · split at h
      · cases h
      · split at h
        · cases h
          rfl
        · cases h

theorem isExact_of_error {fault : FileSystem.Fault} (h : files.read location = .error fault)
    {result : Except Keyring.Failure Bytes}
    (hresult : result = .error (.keyFile location (.unreadable fault))) (most : Int) :
    IsExact files location most result := by
  subst hresult
  have hclosed : ∀ content, files.read location ≠ .ok content := by
    intro content hc
    cases h.symm.trans hc
  constructor
  case whole =>
    intro found hf
    cases hf
  case unopened => exact fun _ _ => ⟨_, rfl, rfl⟩
  all_goals exact fun content hc => absurd hc (hclosed content)

/-- The limits under which nothing can be read are those at the upper end of the range, where one
byte more is no size of a byte string. -/
theorem isExact_of_opened (h : files.read location = .ok content) (hnul : '\x00' ∉ location.toList)
    (hlimit : limit.integer? = some most)
    (hmost : ¬ ((Bytes.maxSize : Int) ≤ most ∧ most ≤ Bytes.wordBound - 2)) :
    IsExact files location most
      ((read files location limit).mapError (Failure.atLocation location)) := by
  have hsize : Bytes.maxSize + 34 = Bytes.wordBound := rfl
  have hresult := atLocation_read_of_opened h hlimit
  have hopened : ∀ other, files.read location = .ok other → other = content :=
    fun other ho => Except.ok.inj (ho.symm.trans h)
  constructor
  case whole => exact fun found hf => read_eq_of_atLocation hnul hlimit hf
  case unopened =>
    intro fault hfault
    cases hfault.symm.trans h
  case returned =>
    intro other ho hlow hhigh
    obtain rfl := hopened other ho
    rw [hresult, if_neg (by omega), if_neg (by omega)]
    by_cases hl : (other.length : Int) ≤ most <;> simp [hl]
  case oversized =>
    intro other ho hlow hhigh
    obtain rfl := hopened other ho
    rw [hresult, if_neg (by omega), if_neg (by omega)]
    by_cases hl : (other.length : Int) ≤ most
    · simp [hl]
    · simp [hl, Int.not_le.1 hl, Failure.kind?, Fault.kind]
  case refused =>
    intro other _ hminus
    rw [hresult, if_neg (by omega), if_neg (by omega), if_neg (by omega)]
    exact ⟨_, rfl, rfl⟩
  case negative =>
    intro other _ hlow hhigh
    rw [hresult, if_neg (by omega), if_pos hhigh]
  case outOfRange =>
    intro other _ hout
    rw [hresult, if_pos (by omega)]

/-- Reading a file up to a limit, for a location without a null character. The result is exact if
and only if the file cannot be opened or the limit is not among the last thirty-three with which one
byte more is still a signed number of 64 bits. Under those the limit is too large to be used,
however small the file is. What is returned is the whole content under every limit, and under every
limit a file that cannot be opened is said to be unreadable. -/
theorem read_isExact_iff (files : FileSystem) (location : String) (limit : Value) (most : Int)
    (hnul : '\x00' ∉ location.toList) (hlimit : limit.integer? = some most) :
    let result := (read files location limit).mapError (Failure.atLocation location)
    (IsExact files location most result ↔
      ((∃ content, files.read location = .ok content) →
        ¬ ((Bytes.maxSize : Int) ≤ most ∧ most ≤ Bytes.wordBound - 2))) ∧
    ((∃ content, files.read location = .ok content) →
      (Bytes.maxSize : Int) ≤ most → most ≤ Bytes.wordBound - 2 →
        result = .error (.unusable .tooLarge)) ∧
    (∀ found, result = .ok found → files.read location = .ok found) ∧
    ∀ fault, files.read location = .error fault →
      result = .error (.keyFile location (.unreadable fault)) := by
  intro result
  have htooLarge : (∃ content, files.read location = .ok content) →
      (Bytes.maxSize : Int) ≤ most → result = .error (.unusable .tooLarge) := by
    rintro ⟨content, h⟩ hmost
    exact (atLocation_read_of_opened h hlimit).trans (if_pos (.inr hmost))
  have hunreadable : ∀ fault, files.read location = .error fault →
      result = .error (.keyFile location (.unreadable fault)) :=
    fun _ h => atLocation_read_of_error h hnul limit
  refine ⟨⟨?_, ?_⟩, fun hopen hmost _ => htooLarge hopen hmost,
    fun _ => read_eq_of_atLocation hnul hlimit, hunreadable⟩
  · intro hexact hopen hmost
    have hresult := htooLarge hopen hmost.1
    obtain ⟨content, h⟩ := hopen
    have hnatural : 0 ≤ most := Int.le_trans (Int.natCast_nonneg _) hmost.1
    -- Neither answer is given that the length of the file asks for.
    have hreturned := hexact.returned content h hnatural hmost.2
    have hoversized := hexact.oversized content h hnatural hmost.2
    rw [hresult] at hreturned hoversized
    by_cases hl : (content.length : Int) ≤ most
    · cases hreturned.2 hl
    · simp [Failure.kind?, hl] at hoversized
  · intro hmost
    cases hr : files.read location with
    | error fault => exact isExact_of_error hr (hunreadable fault hr) most
    | ok content => exact isExact_of_opened hr hnul hlimit (hmost ⟨content, hr⟩)

/-- A file of two bytes is read exactly up to two bytes, under the largest limit that can be used,
and under minus two, which asks for all of it and returns nothing. -/
theorem read_isExact_two_bytes :
    let reading (most : Int) :=
      (read Batch.smallFiles "a" (.int most)).mapError (Failure.atLocation "a")
    IsExact Batch.smallFiles "a" 2 (reading 2) ∧
      IsExact Batch.smallFiles "a" 9223372036854775773 (reading 9223372036854775773) ∧
      IsExact Batch.smallFiles "a" (-2) (reading (-2)) ∧
      reading 2 = .ok [3, 1] ∧ reading 9223372036854775773 = .ok [3, 1] ∧
      reading (-2) = .error (.keyFile "a" (.tooLarge "-2")) := by
  intro reading
  have hexact : ∀ most, ¬ ((Bytes.maxSize : Int) ≤ most ∧ most ≤ Bytes.wordBound - 2) →
      IsExact Batch.smallFiles "a" most (reading most) := fun most hmost =>
    (read_isExact_iff Batch.smallFiles "a" (.int most) most (by decide) rfl).1.2 fun _ => hmost
  exact ⟨hexact _ (by decide), hexact _ (by decide), hexact _ (by decide), rfl, rfl, rfl⟩

/-- A file of two bytes is neither read nor refused under a limit of 34 below 2 to the 63. -/
theorem two_bytes_past_largest_size :
    Batch.smallFiles.read "a" = .ok [3, 1] ∧
      (read Batch.smallFiles "a" (.int 9223372036854775774)).mapError (Failure.atLocation "a") =
        .error (.unusable .tooLarge) ∧
      ¬ IsExact Batch.smallFiles "a" 9223372036854775774
        ((read Batch.smallFiles "a" (.int 9223372036854775774)).mapError
          (Failure.atLocation "a")) := by
  refine ⟨rfl, rfl, ?_⟩
  intro h
  cases (h.returned [3, 1] rfl (by decide) (by decide)).2 (by decide)

end Keyring.KeyFile
