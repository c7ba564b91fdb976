import Keyring.Failure.Kind
import Keyring.Proofs.HexSpelling

/-!
# Identifiers as text

An identifier is written as forty lower-case digits. The texts that are read as the identifier are
exactly those that can be made of this one: the case of its digits is changed, blanks are put
around the pairs, and colons are put anywhere. All other texts are refused as no identifiers.
-/

namespace Keyring

namespace Hex

/-! ## The case of digits -/

theorem toLower_eq_self {c : Char} (h : ¬ c.toNat < 128) : c.toLower = c := by
  have hz : 'Z'.toNat < 128 := by decide
  unfold Char.toLower
  split
  · rename_i hupper
    have hc : c.toNat ≤ 'Z'.toNat := hupper.2
    omega
  · rfl

/-- A character has a value below sixteen if it is the digit of this value, in either case. -/
theorem digit?_eq_some_iff {c : Char} {value : Nat} (h : value < 16) :
    digit? c = some value ↔ c.toLower = digit value := by
  have hascii : ∀ n < 128, ∀ v < 16,
      digit? (Char.ofNat n) = some v ↔ (Char.ofNat n).toLower = digit v := by
    decide +kernel
  have hdigit : ∀ v < 16, (digit v).toNat < 128 := by decide
  by_cases hc : c.toNat < 128
  · have hiff := hascii c.toNat hc value h
    rwa [Char.ofNat_toNat] at hiff
  · -- A character outside ASCII is no digit, and has no other case.
    constructor
    · intro hd
      exact absurd (toNat_lt_of_digit? hd) hc
    · intro hl
      rw [toLower_eq_self hc] at hl
      exact absurd (hl ▸ hdigit value h) hc

theorem digit_mem_digits {value : Nat} (h : value < 16) : digit value ∈ digits := by
  have hall : ∀ n < 16, digit n ∈ digits := by decide
  exact hall value h

/-! ## Written bytes -/

theorem encodeByte_ofNat {hi lo : Nat} (hhi : hi < 16) (hlo : lo < 16) :
    encodeByte (UInt8.ofNat (hi * 16 + lo)) = [digit hi, digit lo] := by
  have hbyte : (UInt8.ofNat (hi * 16 + lo)).toNat = hi * 16 + lo := by
    rw [UInt8.toNat_ofNat']
    omega
  have hdiv : (hi * 16 + lo) / 16 = hi := by omega
  have hmod : (hi * 16 + lo) % 16 = lo := by omega
  rw [encodeByte, hbyte, hdiv, hmod]

theorem ofNat_halves (b : UInt8) : UInt8.ofNat (b.toNat / 16 * 16 + b.toNat % 16) = b := by
  have h : b.toNat / 16 * 16 + b.toNat % 16 = b.toNat := by omega
  rw [h, UInt8.ofNat_toNat]

theorem encodeChars_cons (b : UInt8) (bytes : Bytes) :
    encodeChars (b :: bytes) =
      digit (b.toNat / 16) :: digit (b.toNat % 16) :: encodeChars bytes := rfl

theorem halves_lt (b : UInt8) : b.toNat / 16 < 16 ∧ b.toNat % 16 < 16 := by
  have hb := b.toNat_lt
  omega

theorem length_encodeChars (bytes : Bytes) : (encodeChars bytes).length = 2 * bytes.length := by
  induction bytes with
  | nil => rfl
  | cons b rest ih =>
    rw [encodeChars_cons, List.length_cons, List.length_cons, List.length_cons, ih]
    omega

theorem mem_digits_of_mem_encodeChars {bytes : Bytes} {c : Char} (h : c ∈ encodeChars bytes) :
    c ∈ digits := by
  obtain ⟨b, _, hc⟩ := List.mem_flatMap.1 h
  rcases List.mem_cons.1 hc with rfl | hc
  · exact digit_mem_digits (halves_lt b).1
  · rw [List.mem_singleton] at hc
    exact hc ▸ digit_mem_digits (halves_lt b).2

/-! ## Blanks between pairs -/

/-- The text is made of characters by putting blanks before, between and after pairs of them. -/
inductive Spaced : List Char → List Char → Prop where
  | nil : Spaced [] []
  | gap {c : Char} {text characters : List Char} (hc : isGap c = true)
    (h : Spaced text characters) : Spaced (c :: text) characters
  | pair (c d : Char) {text characters : List Char} (h : Spaced text characters) :
    Spaced (c :: d :: text) (c :: d :: characters)

namespace Spaced

theorem refl_encodeChars (bytes : Bytes) : Spaced (encodeChars bytes) (encodeChars bytes) := by
  induction bytes with
  | nil => exact .nil
  | cons b rest ih => exact .pair _ _ ih

/-- Blanks between the digits of bytes, whatever their case, change nothing. -/
theorem spells {text characters : List Char} (h : Spaced text characters) {bytes : Bytes}
    (hb : characters.map Char.toLower = encodeChars bytes) : Spells text bytes := by
  induction h generalizing bytes with
  | nil =>
    cases bytes with
    | nil => exact .nil
    | cons b rest => cases hb
  | gap hc _ ih => exact .gap hc (ih hb)
  | pair c d _ ih =>
    cases bytes with
    | nil => cases hb
    | cons b rest =>
      obtain ⟨hhi, hlo⟩ := halves_lt b
      rw [encodeChars_cons, List.map_cons, List.map_cons, List.cons.injEq, List.cons.injEq] at hb
      obtain ⟨hc, hd, hrest⟩ := hb
      rw [← ofNat_halves b]
      exact .pair ((digit?_eq_some_iff hhi).2 hc) ((digit?_eq_some_iff hlo).2 hd) (ih hrest)

end Spaced

/-- A text spells bytes if it is made of their digits, in either case, by blanks between pairs. -/
theorem spells_iff_spaced {text : List Char} {bytes : Bytes} :
    Spells text bytes ↔
      ∃ characters, characters.map Char.toLower = encodeChars bytes ∧ Spaced text characters := by
  constructor
  · intro h
    induction h with
    | nil => exact ⟨[], rfl, .nil⟩
    | gap hc _ ih =>
      obtain ⟨characters, hlower, hspaced⟩ := ih
      exact ⟨characters, hlower, .gap hc hspaced⟩
    | @pair c d hi lo _ bytes hc hd _ ih =>
      obtain ⟨characters, hlower, hspaced⟩ := ih
      have hhi := lt_of_digit? hc
      have hlo := lt_of_digit? hd
      refine ⟨c :: d :: characters, ?_, .pair c d hspaced⟩
      rw [List.map_cons, List.map_cons, (digit?_eq_some_iff hhi).1 hc,
        (digit?_eq_some_iff hlo).1 hd, hlower]
      show _ = encodeByte _ ++ encodeChars bytes
      rw [encodeByte_ofNat hhi hlo]
      rfl
  · rintro ⟨characters, hlower, hspaced⟩
    exact hspaced.spells hlower

end Hex

/-! ## Identifiers -/

namespace KeyId

/-- The characters of a text that count where an identifier is expected: all but colons. -/
def significant (text : String) : List Char := text.toList.filter (· ≠ ':')

theorem toList_hex (id : KeyId) : id.hex.toList = Hex.encodeChars id.digest := by
  simp [hex, Hex.encode]

/-- No digit is a colon. -/
theorem significant_hex (id : KeyId) : significant id.hex = id.hex.toList := by
  rw [significant, List.filter_eq_self]
  intro c hc
  rw [toList_hex] at hc
  have hdigits : Hex.digits.all (· ≠ ':') = true := by decide
  exact List.all_eq_true.1 hdigits c (Hex.mem_digits_of_mem_encodeChars hc)

theorem ofHex_hex (id : KeyId) : ofHex id.hex = .ok id := by
  have hspells : Hex.Spells (significant id.hex) id.digest := by
    rw [significant_hex, toList_hex]
    refine Hex.spells_iff_spaced.2 ⟨_, ?_, .refl_encodeChars id.digest⟩
    have hlower : Hex.digits.all (fun d => d.toLower = d) = true := by decide
    refine (List.map_congr_left fun c hc => ?_).trans (List.map_id _)
    exact of_decide_eq_true (List.all_eq_true.1 hlower c (Hex.mem_digits_of_mem_encodeChars hc))
  exact (ofHex_eq_ok_iff id.hex id).2 hspells

theorem hex_injective {id other : KeyId} (h : id.hex = other.hex) : id = other := by
  have hid := ofHex_hex id
  rw [h, ofHex_hex other] at hid
  exact (Except.ok.inj hid).symm

/-- Texts of identifiers. A text is read as an identifier if it spells twenty bytes once its colons
are left out, and is refused as no identifier if it does not. It is read as the one with these
bytes; so the texts of an identifier are those that are made of its forty lower-case digits by
changing their case, putting blanks around pairs and colons anywhere. Its own text is one of them,
and the text of no other identifier. -/
theorem ofHex_iff_respelt (text : String) (id : KeyId) :
    ((∃ found, ofHex text = .ok found) ↔
      ∃ bytes : Bytes, bytes.length = 20 ∧ Hex.Spells (significant text) bytes) ∧
    (Raises (Store.readKeyId (.text text)) .invalidKeyId ↔ ¬ ∃ found, ofHex text = .ok found) ∧
    (ofHex text = .ok id ↔ Hex.Spells (significant text) id.digest) ∧
    (ofHex text = .ok id ↔ ∃ characters, characters.map Char.toLower = id.hex.toList ∧
      Hex.Spaced (significant text) characters) ∧
    ofHex id.hex = .ok id ∧ id.hex.length = 40 ∧ (∀ c ∈ id.hex.toList, c ∈ Hex.digits) ∧
    ∀ other : KeyId, other.hex = id.hex → other = id := by
  refine ⟨⟨?_, ?_⟩, ?_, ofHex_eq_ok_iff text id, ?_, ofHex_hex id, ?_, ?_, fun _ => hex_injective⟩
  · rintro ⟨found, hfound⟩
    exact ⟨found.digest, found.length_digest, (ofHex_eq_ok_iff text found).1 hfound⟩
  · rintro ⟨bytes, hlength, hspells⟩
    exact ⟨⟨bytes, hlength⟩, (ofHex_eq_ok_iff text ⟨bytes, hlength⟩).2 hspells⟩
  · show Raises ((ofHex text).mapError Failure.invalidKeyId) .invalidKeyId ↔ _
    cases ofHex text with
    | error invalid =>
      refine iff_of_true ⟨.invalidKeyId invalid, rfl, rfl⟩ ?_
      rintro ⟨found, hfound⟩
      cases hfound
    | ok found => exact iff_of_false (not_raises_ok found _) fun h => h ⟨found, rfl⟩
  · rw [toList_hex, ← Hex.spells_iff_spaced]
    exact ofHex_eq_ok_iff text id
  · rw [← String.length_toList, toList_hex, Hex.length_encodeChars, id.length_digest]
  · intro c hc
    rw [toList_hex] at hc
    exact Hex.mem_digits_of_mem_encodeChars hc

/-- Capitals, colons inside pairs and blanks around them make no difference; a blank inside a pair
does. -/
example :
    let id : KeyId := ⟨List.replicate 20 0xab, by decide⟩
    let pairs := String.ofList ((List.replicate 18 ['a', 'B']).flatten)
    ofHex (" A:b\tab" ++ pairs) = .ok id ∧ ofHex ("a bab" ++ pairs) = .error (.notHex 1) :=
  ⟨rfl, rfl⟩

end KeyId

end Keyring
