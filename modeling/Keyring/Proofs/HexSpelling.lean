import Keyring.Store

/-!
# Spellings of identifiers

An identifier can be given as itself, as its bytes, or as a text of hexadecimal digits. `Hex.Spells`
says which texts these are, as a grammar of pairs and of blanks around them; the decoder accepts
exactly those texts. Colons are not part of the grammar, since they are left out beforehand.
-/

namespace Keyring

namespace Hex

/-! ## Pairs of digits -/

/-- The text spells the bytes: a pair of digits for each of them, and blanks around the pairs. -/
inductive Spells : List Char → Bytes → Prop where
  | nil : Spells [] []
  | gap {c : Char} {text : List Char} {bytes : Bytes} (hc : isGap c = true)
    (h : Spells text bytes) : Spells (c :: text) bytes
  | pair {c d : Char} {hi lo : Nat} {text : List Char} {bytes : Bytes} (hc : digit? c = some hi)
    (hd : digit? d = some lo) (h : Spells text bytes) :
    Spells (c :: d :: text) (UInt8.ofNat (hi * 16 + lo) :: bytes)

/-- The blanks, one by one. -/
theorem isGap_iff {c : Char} :
    isGap c = true ↔
      c = ' ' ∨ c = '\t' ∨ c = '\n' ∨ c = '\x0b' ∨ c = '\x0c' ∨ c = '\r' := by
  simp [isGap, or_assoc]

/-- No blank is a digit. -/
theorem digit?_of_isGap {c : Char} (h : isGap c = true) : digit? c = none := by
  rcases isGap_iff.1 h with rfl | rfl | rfl | rfl | rfl | rfl <;> rfl

theorem toNat_lt_of_isGap {c : Char} (h : isGap c = true) : c.toNat < 128 := by
  rcases isGap_iff.1 h with rfl | rfl | rfl | rfl | rfl | rfl <;> decide

theorem toNat_lt_of_digit? {c : Char} {value : Nat} (h : digit? c = some value) :
    c.toNat < 128 := by
  unfold digit? at h
  split at h
  · rename_i hdigit
    exact Nat.lt_of_le_of_lt (show c.toNat ≤ '9'.toNat from hdigit.2) (by decide)
  · split at h
    · rename_i hlower
      exact Nat.lt_of_le_of_lt (show c.toNat ≤ 'f'.toNat from hlower.2) (by decide)
    · split at h
      · rename_i hupper
        exact Nat.lt_of_le_of_lt (show c.toNat ≤ 'F'.toNat from hupper.2) (by decide)
      · cases h

namespace Spells

variable {c d : Char} {text : List Char} {bytes : Bytes}

theorem nil_iff : Spells [] bytes ↔ bytes = [] := by
  constructor
  · intro h
    cases h
    rfl
  · rintro rfl
    exact .nil

/-- What is spelled after a blank is spelled with it. -/
theorem gap_iff (hc : isGap c = true) : Spells (c :: text) bytes ↔ Spells text bytes := by
  constructor
  · intro h
    cases h with
    | gap _ h => exact h
    | pair hd _ _ => simp [digit?_of_isGap hc] at hd
  · exact .gap hc

/-- What begins with no blank begins with a pair. -/
theorem pair_iff (hc : isGap c = false) :
    Spells (c :: d :: text) bytes ↔ ∃ hi lo rest, digit? c = some hi ∧ digit? d = some lo ∧
      Spells text rest ∧ bytes = UInt8.ofNat (hi * 16 + lo) :: rest := by
  constructor
  · intro h
    cases h with
    | gap hg _ => simp [hc] at hg
    | pair hhi hlo h => exact ⟨_, _, _, hhi, hlo, h, rfl⟩
  · rintro ⟨hi, lo, rest, hhi, hlo, h, rfl⟩
    exact .pair hhi hlo h

/-- A character that is no blank spells nothing on its own. -/
theorem not_single (hc : isGap c = false) (bytes : Bytes) : ¬ Spells [c] bytes := by
  intro h
  cases h with
  | gap hg _ => simp [hc] at hg

/-- Spellings are in ASCII. -/
theorem toNat_lt (h : Spells text bytes) : ∀ c ∈ text, c.toNat < 128 := by
  induction h with
  | nil => simp
  | gap hc _ ih => simpa [toNat_lt_of_isGap hc] using ih
  | pair hc hd _ ih => simpa [toNat_lt_of_digit? hc, toNat_lt_of_digit? hd] using ih

end Spells

/-- The decoder reads what is spelled, wherever it begins to count. -/
theorem decodeFrom_eq_ok_iff (pos : Nat) (text : List Char) (bytes : Bytes) :
    decodeFrom pos text = .ok bytes ↔ Spells text bytes := by
  fun_induction decodeFrom pos text generalizing bytes with
  | case1 pos =>
    rw [Spells.nil_iff]
    exact ⟨fun h => (Except.ok.inj h).symm, fun h => h ▸ rfl⟩
  | case2 pos c hc =>
    rw [Spells.gap_iff hc, Spells.nil_iff]
    exact ⟨fun h => (Except.ok.inj h).symm, fun h => h ▸ rfl⟩
  | case3 pos c hc _ | case4 pos c hc _ =>
    simpa using Spells.not_single (by simpa using hc) bytes
  | case5 pos c d rest hc ih => rw [Spells.gap_iff hc, ih]
  | case6 pos c d rest hc hnone => simp [Spells.pair_iff (by simpa using hc), hnone]
  | case7 pos c d rest hc _ hnone => simp [Spells.pair_iff (by simpa using hc), hnone]
  | case8 pos c d rest hc hi lo hlo hhi ih =>
    rw [Spells.pair_iff (by simpa using hc)]
    constructor
    · intro h
      cases hr : decodeFrom (pos + 2) rest with
      | error found =>
        rw [hr] at h
        cases h
      | ok tail =>
        rw [hr] at h
        cases h
        exact ⟨hi, lo, tail, hhi, hlo, (ih tail).1 hr, rfl⟩
    · rintro ⟨hi', lo', tail, hhi', hlo', h, rfl⟩
      cases hhi.symm.trans hhi'
      cases hlo.symm.trans hlo'
      rw [(ih tail).2 h]
      rfl

/-- A text decodes to the bytes that it spells. -/
theorem decode_eq_ok_iff (text : List Char) (bytes : Bytes) :
    decode text = .ok bytes ↔ Spells text bytes := by
  unfold decode
  split
  · rename_i pos hf
    refine ⟨fun h => (by cases h), fun h => ?_⟩
    have hascii : text.findIdx? (fun c => !(c.toNat < 128)) = none := by
      rw [List.findIdx?_eq_none_iff]
      intro c hc
      simpa using h.toNat_lt c hc
    rw [hascii] at hf
    cases hf
  · exact decodeFrom_eq_ok_iff 0 text bytes

end Hex

/-! ## Identifiers -/

namespace KeyId

theorem ofBytes_eq_ok_iff (bytes : Bytes) (id : KeyId) :
    ofBytes bytes = .ok id ↔ bytes = id.digest := by
  unfold ofBytes
  split
  · constructor
    · intro h
      exact congrArg digest (Except.ok.inj h)
    · rintro rfl
      rfl
  · rename_i hne
    refine ⟨fun h => (by cases h), ?_⟩
    rintro rfl
    exact absurd id.length_digest hne

/-- A text gives the identifier whose bytes it spells, once its colons are left out. -/
theorem ofHex_eq_ok_iff (text : String) (id : KeyId) :
    ofHex text = .ok id ↔ Hex.Spells (text.toList.filter (· ≠ ':')) id.digest := by
  rw [← Hex.decode_eq_ok_iff, ofHex]
  cases hd : Hex.decode (text.toList.filter (· ≠ ':')) with
  | error pos => simp
  | ok bytes => simp [ofBytes_eq_ok_iff]

end KeyId

namespace Value

/-- The value spells the identifier: it is the identifier, its bytes in any buffer, or a text of its
digits. -/
inductive Spells : Value → KeyId → Prop where
  | keyId (id : KeyId) : Spells (.keyId id) id
  | buffer (kind : BufferKind) (id : KeyId) : Spells (.buffer kind id.digest) id
  | text {text : String} {id : KeyId}
    (h : Hex.Spells (text.toList.filter (· ≠ ':')) id.digest) : Spells (.text text) id

/-- A value is read as the identifier that it spells, and as none where it spells none. -/
theorem toKeyId_eq_ok_iff (value : Value) (id : KeyId) :
    value.toKeyId = .ok id ↔ value.Spells id := by
  constructor
  · intro h
    cases value with
    | keyId found =>
      cases h
      exact .keyId id
    | buffer kind bytes =>
      cases (KeyId.ofBytes_eq_ok_iff bytes id).1 h
      exact .buffer kind id
    | text text => exact .text ((KeyId.ofHex_eq_ok_iff text id).1 h)
    | _ => cases h
  · intro h
    cases h with
    | keyId => rfl
    | buffer kind => exact (KeyId.ofBytes_eq_ok_iff _ _).2 rfl
    | text h => exact (KeyId.ofHex_eq_ok_iff _ _).2 h

end Value

end Keyring
