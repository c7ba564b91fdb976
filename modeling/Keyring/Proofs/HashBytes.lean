import Keyring.KeyId
import Mathlib.Data.Fintype.Basic
import Mathlib.Data.List.FinRange
import Mathlib.Tactic.FinCases

/-!
# The bytes of a hash

The hash of an identifier is the exclusive or of its five words. Since that operation does not carry
from one bit to the next, each byte of the hash is the exclusive or of the five bytes in its place.
Main statement: this formula, and what follows from it for the exclusive or of two identifiers, for
an exchange of groups of four bytes, and for a change of one byte.
-/

namespace Keyring.KeyId

/-! ## Bytes of words -/

/-- The word of four bytes, least significant byte first. -/
def wordOf (a b c d : UInt8) : UInt32 :=
  a.toUInt32 ||| (b.toUInt32 <<< 8) ||| (c.toUInt32 <<< 16) ||| (d.toUInt32 <<< 24)

/-- A byte of a word, counted from the least significant one. -/
def byteOf (word : UInt32) (place : Nat) : UInt8 := UInt8.ofNat (word.toNat >>> (8 * place))

/-- The number of a word is made up of its bytes. -/
theorem toNat_wordOf (a b c d : UInt8) :
    (wordOf a b c d).toNat =
      a.toNat + 256 * b.toNat + 65536 * c.toNat + 16777216 * d.toNat := by
  -- The bits of what is shifted lie above those of what is there.
  have hor : ∀ (low width high : Nat), low < 2 ^ width →
      low ||| high <<< width = high <<< width + low := by
    intro low width high h
    rw [Nat.or_comm, Nat.shiftLeft_add_eq_or_of_lt h]
  have ha := a.toNat_lt
  have hb := b.toNat_lt
  have hc := c.toNat_lt
  have hd := d.toNat_lt
  have hb' : b.toNat <<< 8 % 4294967296 = b.toNat <<< 8 := Nat.mod_eq_of_lt (by omega)
  have hc' : c.toNat <<< 16 % 4294967296 = c.toNat <<< 16 := Nat.mod_eq_of_lt (by omega)
  have hd' : d.toNat <<< 24 % 4294967296 = d.toNat <<< 24 := Nat.mod_eq_of_lt (by omega)
  calc (wordOf a b c d).toNat
      = a.toNat ||| b.toNat <<< 8 ||| c.toNat <<< 16 ||| d.toNat <<< 24 := by
        simp [wordOf, hb', hc', hd']
    _ = (b.toNat <<< 8 + a.toNat) ||| c.toNat <<< 16 ||| d.toNat <<< 24 := by
        rw [hor _ 8 _ ha]
    _ = (c.toNat <<< 16 + (b.toNat <<< 8 + a.toNat)) ||| d.toNat <<< 24 := by
        rw [hor _ 16 _ (by omega)]
    _ = d.toNat <<< 24 + (c.toNat <<< 16 + (b.toNat <<< 8 + a.toNat)) :=
        hor _ 24 _ (by omega)
    _ = a.toNat + 256 * b.toNat + 65536 * c.toNat + 16777216 * d.toNat := by omega

/-- The exclusive or of two words is taken byte by byte. -/
theorem byteOf_xor (a b : UInt32) (place : Nat) :
    byteOf (a ^^^ b) place = byteOf a place ^^^ byteOf b place := by
  apply UInt8.toNat_inj.1
  simp [byteOf, Nat.shiftRight_xor_distrib]

/-- The bytes of a word are those it was put together from. -/
theorem byteOf_wordOf (bytes : Fin 4 → UInt8) (place : Fin 4) :
    byteOf (wordOf (bytes 0) (bytes 1) (bytes 2) (bytes 3)) place = bytes place := by
  have h₀ := (bytes 0).toNat_lt
  have h₁ := (bytes 1).toNat_lt
  have h₂ := (bytes 2).toNat_lt
  have h₃ := (bytes 3).toNat_lt
  apply UInt8.toNat_inj.1
  rw [byteOf, UInt8.toNat_ofNat', toNat_wordOf]
  fin_cases place <;> simp <;> omega

/-- Words with the same bytes are the same. -/
theorem eq_of_byteOf_eq {a b : UInt32} (h : ∀ place : Fin 4, byteOf a place = byteOf b place) :
    a = b := by
  have hbyte : ∀ place : Fin 4,
      a.toNat >>> (8 * (place : Nat)) % 256 = b.toNat >>> (8 * (place : Nat)) % 256 := by
    intro place
    have heq := congrArg UInt8.toNat (h place)
    rwa [byteOf, byteOf, UInt8.toNat_ofNat', UInt8.toNat_ofNat'] at heq
  have h₀ : a.toNat % 256 = b.toNat % 256 := hbyte 0
  have h₁ : a.toNat >>> 8 % 256 = b.toNat >>> 8 % 256 := hbyte 1
  have h₂ : a.toNat >>> 16 % 256 = b.toNat >>> 16 % 256 := hbyte 2
  have h₃ : a.toNat >>> 24 % 256 = b.toNat >>> 24 % 256 := hbyte 3
  have ha := a.toNat_lt
  have hb := b.toNat_lt
  apply UInt32.toNat_inj.1
  omega

/-! ## Exclusive or of a list -/

/-- The exclusive or of words, byte by byte. -/
theorem byteOf_foldl (words : List UInt32) (start : UInt32) (place : Nat) :
    byteOf (words.foldl (· ^^^ ·) start) place =
      (words.map (byteOf · place)).foldl (· ^^^ ·) (byteOf start place) := by
  induction words generalizing start with
  | nil => rfl
  | cons word rest ih => rw [List.foldl_cons, ih, byteOf_xor, List.map_cons, List.foldl_cons]

/-- What bytes are added to can be told from the result. -/
theorem foldl_xor_inj {bytes : Bytes} {a b : UInt8} :
    bytes.foldl (· ^^^ ·) a = bytes.foldl (· ^^^ ·) b ↔ a = b := by
  induction bytes generalizing a b with
  | nil => rfl
  | cons byte rest ih => rw [List.foldl_cons, List.foldl_cons, ih, UInt8.xor_left_inj]

theorem foldl_zipWith_xor {as bs : Bytes} (h : as.length = bs.length) (a b : UInt8) :
    (List.zipWith (· ^^^ ·) as bs).foldl (· ^^^ ·) (a ^^^ b) =
      as.foldl (· ^^^ ·) a ^^^ bs.foldl (· ^^^ ·) b := by
  induction as generalizing bs a b with
  | nil =>
    cases bs with
    | nil => rfl
    | cons byte rest => cases h
  | cons first as ih =>
    cases bs with
    | nil => cases h
    | cons second bs =>
      have hswap : a ^^^ b ^^^ (first ^^^ second) = a ^^^ first ^^^ (b ^^^ second) := by ac_rfl
      simp only [List.zipWith_cons_cons, List.foldl_cons]
      rw [hswap, ih (Nat.succ.inj h)]

/-- Of a list in which one byte is changed the exclusive or is changed, too. -/
theorem foldl_set_xor_iff {bytes : Bytes} {i : Nat} (hi : i < bytes.length) (value start : UInt8) :
    (bytes.set i value).foldl (· ^^^ ·) start = bytes.foldl (· ^^^ ·) start ↔ value = bytes[i] := by
  induction bytes generalizing i start with
  | nil => cases hi
  | cons first rest ih =>
    cases i with
    | zero =>
      -- The rest is the same on both sides, and keeps what is put before it apart.
      simp only [List.set_cons_zero, List.foldl_cons, foldl_xor_inj, UInt8.xor_right_inj,
        List.getElem_cons_zero]
    | succ i =>
      simp only [List.set_cons_succ, List.foldl_cons, List.getElem_cons_succ]
      exact ih (Nat.lt_of_succ_lt_succ hi) _

/-! ## Bytes of an identifier -/

/-- A byte of an identifier. -/
def byte (id : KeyId) (i : Fin 20) : UInt8 :=
  id.digest.get ⟨i, by rw [id.length_digest]; exact i.isLt⟩

/-- The identifier with given bytes. -/
def ofFn (bytes : Fin 20 → UInt8) : KeyId := ⟨List.ofFn bytes, List.length_ofFn⟩

/-- Where the bytes of a group are: the five groups of four bytes follow one another. -/
def position (group : Fin 5) (place : Fin 4) : Fin 20 := ⟨4 * group + place, by omega⟩

/-- The group that a position is in. -/
def groupOf (i : Fin 20) : Fin 5 := ⟨i / 4, by omega⟩

/-- The place of a position in its group. -/
def placeOf (i : Fin 20) : Fin 4 := ⟨i % 4, by omega⟩

/-- The bytes in one place of all groups. -/
def column (id : KeyId) (place : Fin 4) : Bytes :=
  List.ofFn fun group : Fin 5 => id.byte (position group place)

/-- The word of a group. -/
def word (id : KeyId) (group : Fin 5) : UInt32 :=
  wordOf (id.byte (position group 0)) (id.byte (position group 1)) (id.byte (position group 2))
    (id.byte (position group 3))

/-- The bytewise exclusive or of two identifiers. -/
def xor (id other : KeyId) : KeyId :=
  ⟨Bytes.xor id.digest other.digest, by
    simp [Bytes.xor, id.length_digest, other.length_digest]⟩

/-- The identifier with the groups in another order. -/
def regroup (id : KeyId) (order : Equiv.Perm (Fin 5)) : KeyId :=
  ofFn fun i => id.byte (position (order (groupOf i)) (placeOf i))

/-- The identifier with another byte at a position. -/
def setByte (id : KeyId) (i : Fin 20) (value : UInt8) : KeyId :=
  ⟨id.digest.set i value, by rw [List.length_set, id.length_digest]⟩

@[simp] theorem groupOf_position (group : Fin 5) (place : Fin 4) :
    groupOf (position group place) = group := by
  ext
  show (4 * group + place : Nat) / 4 = group
  omega

@[simp] theorem placeOf_position (group : Fin 5) (place : Fin 4) :
    placeOf (position group place) = place := by
  ext
  show (4 * group + place : Nat) % 4 = place
  omega

@[simp] theorem position_groupOf_placeOf (i : Fin 20) : position (groupOf i) (placeOf i) = i := by
  ext
  show 4 * (i / 4 : Nat) + i % 4 = i
  omega

@[simp] theorem byte_ofFn (bytes : Fin 20 → UInt8) (i : Fin 20) :
    (ofFn bytes).byte i = bytes i := by
  simp only [byte, ofFn, List.get_ofFn]
  rfl

@[simp] theorem ofFn_byte (id : KeyId) : ofFn id.byte = id := by
  apply eq_of_digest_eq
  apply List.ext_getElem
  · rw [ofFn, List.length_ofFn, id.length_digest]
  · intro i _ _
    simp only [ofFn, List.getElem_ofFn, byte, List.get_eq_getElem]

@[simp] theorem byte_xor (id other : KeyId) (i : Fin 20) :
    (id.xor other).byte i = id.byte i ^^^ other.byte i := by
  simp [byte, xor, Bytes.xor]

@[simp] theorem byte_regroup (id : KeyId) (order : Equiv.Perm (Fin 5)) (group : Fin 5)
    (place : Fin 4) :
    (id.regroup order).byte (position group place) = id.byte (position (order group) place) := by
  rw [regroup, byte_ofFn, groupOf_position, placeOf_position]

theorem byte_setByte (id : KeyId) (i j : Fin 20) (value : UInt8) :
    (id.setByte i value).byte j = if i = j then value else id.byte j := by
  simp [byte, setByte, List.getElem_set, Fin.ext_iff]

theorem setByte_self (id : KeyId) (i : Fin 20) : id.setByte i (id.byte i) = id := by
  apply eq_of_digest_eq
  simp [setByte, byte]

@[simp] theorem length_column (id : KeyId) (place : Fin 4) : (id.column place).length = 5 :=
  List.length_ofFn

theorem getElem_column (id : KeyId) (place : Fin 4) {i : Nat} (hi : i < (id.column place).length) :
    (id.column place)[i] = id.byte (position ⟨i, length_column id place ▸ hi⟩ place) := by
  simp only [column, List.getElem_ofFn]

theorem column_xor (id other : KeyId) (place : Fin 4) :
    (id.xor other).column place =
      List.zipWith (· ^^^ ·) (id.column place) (other.column place) := by
  apply List.ext_getElem
  · rw [List.length_zipWith, length_column, length_column, length_column, Nat.min_self]
  · intro i _ _
    rw [List.getElem_zipWith, getElem_column, getElem_column, getElem_column, byte_xor]

/-- With a byte one entry of its column is changed. -/
theorem column_setByte (id : KeyId) (i : Fin 20) (value : UInt8) :
    (id.setByte i value).column (placeOf i) = (id.column (placeOf i)).set (groupOf i) value := by
  apply List.ext_getElem
  · rw [List.length_set, length_column, length_column]
  · intro group hgroup _
    rw [length_column] at hgroup
    have hposition : i = position ⟨group, hgroup⟩ (placeOf i) ↔ (groupOf i : Nat) = group := by
      constructor
      · intro h
        rw [h, groupOf_position]
      · rintro rfl
        exact (position_groupOf_placeOf i).symm
    rw [getElem_column, List.getElem_set, getElem_column, byte_setByte]
    simp only [hposition]

/-- The words of an identifier are those of its groups. -/
theorem wordsOf_digest (id : KeyId) : wordsOf id.digest = List.ofFn id.word := by
  have h : id.digest = List.ofFn id.byte := congrArg digest (ofFn_byte id).symm
  rw [h]
  rfl

/-! ## Bytes of the hash -/

/-- The order of the words does not matter to the hash. -/
theorem hash_eq_of_perm {id other : KeyId}
    (h : (wordsOf id.digest).Perm (wordsOf other.digest)) : id.hash = other.hash := by
  have hcomm : ∀ x ∈ wordsOf id.digest, ∀ y ∈ wordsOf id.digest, ∀ z : UInt32,
      z ^^^ x ^^^ y = z ^^^ y ^^^ x := by
    intro x _ y _ z
    rw [UInt32.xor_assoc, UInt32.xor_comm x y, ← UInt32.xor_assoc]
  exact h.foldl_eq' hcomm 0

/-- Each byte of the hash is the exclusive or of the bytes in its place. -/
theorem byteOf_hash (id : KeyId) (place : Fin 4) :
    byteOf id.hash place = (id.column place).foldl (· ^^^ ·) 0 := by
  have hword : ∀ group, byteOf (id.word group) place = id.byte (position group place) :=
    fun group => byteOf_wordOf (fun place => id.byte (position group place)) place
  have hcolumn : (wordsOf id.digest).map (byteOf · place) = id.column place := by
    rw [wordsOf_digest, List.map_ofFn, column]
    exact congrArg List.ofFn (funext hword)
  rw [hash, byteOf_foldl, hcolumn]
  simp [byteOf]

/-- The hash of an exclusive or is the exclusive or of the hashes. -/
theorem hash_xor (id other : KeyId) : (id.xor other).hash = id.hash ^^^ other.hash := by
  apply eq_of_byteOf_eq
  intro place
  have hlength : (id.column place).length = (other.column place).length := by
    rw [length_column, length_column]
  rw [byteOf_xor, byteOf_hash, byteOf_hash, byteOf_hash, column_xor]
  exact foldl_zipWith_xor hlength 0 0

/-- The order of the groups does not matter to the hash. -/
theorem hash_regroup (id : KeyId) (order : Equiv.Perm (Fin 5)) :
    (id.regroup order).hash = id.hash := by
  -- A word moves as a whole, so nothing has to be known of its bytes.
  apply hash_eq_of_perm
  have hword : (id.regroup order).word = id.word ∘ order := by
    funext group
    simp [word]
  rw [wordsOf_digest, wordsOf_digest, hword]
  exact order.ofFn_comp_perm id.word

/-- The hash of an identifier with one byte changed is another one. -/
theorem hash_setByte_iff (id : KeyId) (i : Fin 20) (value : UInt8) :
    (id.setByte i value).hash = id.hash ↔ value = id.byte i := by
  constructor
  · intro h
    have hgroup : groupOf i < (id.column (placeOf i)).length := by
      rw [length_column]
      exact (groupOf i).isLt
    have hbyte := congrArg (byteOf · (placeOf i)) h
    simp only [byteOf_hash, column_setByte] at hbyte
    rw [foldl_set_xor_iff hgroup, getElem_column, Fin.eta, position_groupOf_placeOf] at hbyte
    exact hbyte
  · rintro rfl
    rw [setByte_self]

/-- The hash of an identifier is a number of 32 bits, and each of its four bytes is the exclusive or
of five bytes of the identifier, four positions apart. So the hash of the exclusive or of two
identifiers is that of their hashes; the hash stays the same in whatever order the groups of four
bytes are put; and the hash of an identifier with one byte changed is always another one. -/
theorem hash_bytes (id : KeyId) :
    id.hash.toNat < 0x100000000 ∧
    (∀ place : Fin 4, byteOf id.hash place =
      id.byte (position 0 place) ^^^ id.byte (position 1 place) ^^^ id.byte (position 2 place) ^^^
        id.byte (position 3 place) ^^^ id.byte (position 4 place)) ∧
    (∀ other : KeyId, (id.xor other).hash = id.hash ^^^ other.hash) ∧
    (∀ order : Equiv.Perm (Fin 5), (id.regroup order).hash = id.hash) ∧
    ∀ (i : Fin 20) (value : UInt8), (id.setByte i value).hash = id.hash ↔ value = id.byte i := by
  refine ⟨id.hash.toNat_lt, ?_, hash_xor id, hash_regroup id, hash_setByte_iff id⟩
  intro place
  rw [byteOf_hash]
  simp [column]

example : (ofFn fun i => UInt8.ofNat i).hash = 0x13121110 := by decide

end Keyring.KeyId
