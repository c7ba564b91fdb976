import Keyring.Hex

/-!
# Key identifiers

The name of a public key: the twenty bytes of a digest of its written form. Identifiers are read
from bytes or from hexadecimal text, and are looked up in tables by a hash that folds their words.
-/

namespace Keyring

/-- An identifier: a digest of twenty bytes. -/
structure KeyId where
  digest : Bytes
  length_digest : digest.length = 20
  deriving DecidableEq

namespace KeyId

/-- The size of an identifier in bytes. -/
def size : Nat := 20

/-- Why something is no identifier. -/
inductive Invalid where
  | notBytes (typeName : String)
  | wrongSize (length : Nat)
  | notHex (position : Nat)
  deriving DecidableEq

/-- What is said about it. -/
def Invalid.message : Invalid → String
  | .notBytes typeName => s!"Key ID must be bytes, got {typeName}"
  | .wrongSize length => s!"Key ID must be exactly {size} bytes, got {length}"
  | .notHex position =>
    s!"Invalid key ID hex: non-hexadecimal number found in fromhex() arg at position {position}"

theorem eq_of_digest_eq {a b : KeyId} (h : a.digest = b.digest) : a = b := by
  cases a
  cases b
  cases h
  rfl

/-- The identifier of twenty bytes. -/
def ofBytes (bytes : Bytes) : Except Invalid KeyId :=
  if h : bytes.length = 20 then .ok ⟨bytes, h⟩ else .error (.wrongSize bytes.length)

/-- The identifier of twenty pairs of hexadecimal digits, in which colons count for nothing. -/
def ofHex (text : String) : Except Invalid KeyId :=
  match Hex.decode (text.toList.filter (· ≠ ':')) with
  | .error position => .error (.notHex position)
  | .ok bytes => ofBytes bytes

/-- The hexadecimal text of an identifier. -/
def hex (id : KeyId) : String := Hex.encode id.digest

/-- An identifier as it is shown where its kind matters. -/
def quoted (id : KeyId) : String := s!"KeyId('{id.hex}')"

/-- The 32-bit words of a byte string, least significant byte first. -/
def wordsOf : Bytes → List UInt32
  | a :: b :: c :: d :: rest =>
    (a.toUInt32 ||| (b.toUInt32 <<< 8) ||| (c.toUInt32 <<< 16) ||| (d.toUInt32 <<< 24))
      :: wordsOf rest
  | _ => []

/-- The exclusive or of the five words. -/
def hash (id : KeyId) : UInt32 := (wordsOf id.digest).foldl (· ^^^ ·) 0

/-- Whether two identifiers name the same key; the hash rules most others out at once. -/
def sameAs (a b : KeyId) : Bool := a.hash == b.hash && a.digest == b.digest

theorem sameAs_iff (a b : KeyId) : a.sameAs b = true ↔ a = b := by
  constructor
  · intro h
    simp only [sameAs, Bool.and_eq_true, beq_iff_eq] at h
    cases a; cases b; simp_all
  · rintro rfl
    simp [sameAs]

/-! ## Tables -/

/-- A table with identifiers for keys, in the order in which they were first put in. -/
abbrev Table (α : Type) := List (KeyId × α)

namespace Table

variable {α : Type}

/-- What is stored under an identifier. -/
def find? (table : Table α) (id : KeyId) : Option α :=
  match table with
  | [] => none
  | (key, value) :: rest => if key.sameAs id then some value else find? rest id

/-- Puts a value under an identifier. One that is in the table keeps its place. -/
def insert (table : Table α) (id : KeyId) (value : α) : Table α :=
  match table with
  | [] => [(id, value)]
  | (key, old) :: rest =>
    if key.sameAs id then (key, value) :: rest else (key, old) :: insert rest id value

theorem find?_insert (table : Table α) (id other : KeyId) (value : α) :
    (table.insert id value).find? other = if other = id then some value else table.find? other := by
  induction table with
  | nil =>
    by_cases h : other = id
    · simp [insert, find?, h, (sameAs_iff id id).2 rfl]
    · have : id.sameAs other = false := by
        rw [Bool.eq_false_iff, ne_eq, sameAs_iff]
        exact fun e => h e.symm
      simp [insert, find?, h, this]
  | cons entry rest ih =>
    obtain ⟨key, old⟩ := entry
    by_cases h : key = id
    · subst h
      by_cases ho : other = key
      · simp [insert, find?, ho, (sameAs_iff key key).2 rfl]
      · have : key.sameAs other = false := by
          rw [Bool.eq_false_iff, ne_eq, sameAs_iff]
          exact fun e => ho e.symm
        simp [insert, find?, ho, this, (sameAs_iff key key).2 rfl]
    · have hk : key.sameAs id = false := by rw [Bool.eq_false_iff, ne_eq, sameAs_iff]; exact h
      by_cases ho : key = other
      · subst ho
        simp [insert, find?, hk, h, (sameAs_iff key key).2 rfl]
      · have : key.sameAs other = false := by rw [Bool.eq_false_iff, ne_eq, sameAs_iff]; exact ho
        simp [insert, find?, hk, this, ih]

/-- The identifiers in the table, in order. -/
def keys (table : Table α) : List KeyId := table.map (·.1)

/-- The stored values, in order. -/
def values (table : Table α) : List α := table.map (·.2)

end Table

end KeyId

end Keyring
