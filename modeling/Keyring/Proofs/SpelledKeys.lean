import Keyring.Proofs.HashBytes
import Keyring.Proofs.HexSpelling
import Keyring.Proofs.KeyTable
import Mathlib.Data.Finset.Card

/-!
# Tables that are filled by spellings

Labels are put into a table under identifiers that are spelled in any way: as themselves, as bytes
or as texts. The table has then a label for each twenty bytes that were spelled, the one that was
put in last. That a hash is looked at before the bytes changes nothing: identifiers with the same
bytes have the same hash, and those whose hashes collide, as they do whenever words are only
exchanged, are told apart by their bytes.
-/

namespace Keyring

/-! ## The bytes of a spelling -/

namespace Value

/-- The bytes of the identifier that a value spells. -/
def digest? (value : Value) : Option Bytes :=
  match value.toKeyId with
  | .error _ => none
  | .ok id => some id.digest

theorem digest?_of_toKeyId {value : Value} {id : KeyId} (h : value.toKeyId = .ok id) :
    value.digest? = some id.digest := by
  rw [digest?, h]

theorem Spells.toKeyId_eq {value : Value} {id : KeyId} (h : value.Spells id) :
    value.toKeyId = .ok id :=
  (value.toKeyId_eq_ok_iff id).2 h

end Value

/-- What a value spells is read as such. -/
theorem Store.readKeyId_of_spells {value : Value} {id : KeyId} (h : value.Spells id) :
    readKeyId value = .ok id := by
  rw [readKeyId, h.toKeyId_eq]
  rfl

namespace KeyId

/-! ## Equality -/

theorem digest_injective {id other : KeyId} : id.digest = other.digest ↔ id = other :=
  ⟨eq_of_digest_eq, congrArg digest⟩

/-- Nothing but the identifier is equal to it. -/
theorem equalsKeyId_iff {value : Value} {id : KeyId} :
    value.equalsKeyId id = true ↔ value = .keyId id := by
  cases value with
  | keyId other => simp [Value.equalsKeyId, digest_injective]
  | _ => simp [Value.equalsKeyId]

namespace Table

variable {α : Type}

/-! ## Labels under spellings -/

/-- The table with a label under the identifier that a value spells. -/
def put (table : Table α) (value : Value) (label : α) : Except Failure (Table α) :=
  (Store.readKeyId value).map (table.insert · label)

/-- The table after labels are put in, one after the other. -/
def putAll (table : Table α) : List (Value × α) → Except Failure (Table α)
  | [] => .ok table
  | (value, label) :: rest =>
    match table.put value label with
    | .error failure => .error failure
    | .ok changed => putAll changed rest

/-- The label under the identifier that a value spells. -/
def lookUp (table : Table α) (value : Value) : Except Failure (Option α) :=
  (Store.readKeyId value).map table.find?

/-- The label that comes last among those for some bytes. -/
def latest? (entries : List (Value × α)) (digest : Bytes) : Option α :=
  (entries.reverse.find? fun entry => entry.1.digest? = some digest).map Prod.snd

/-- The bytes that are spelled. -/
def digests (entries : List (Value × α)) : Finset Bytes :=
  (entries.filterMap fun entry => entry.1.digest?).toFinset

theorem latest?_cons (entry : Value × α) (rest : List (Value × α)) (digest : Bytes) :
    latest? (entry :: rest) digest =
      (latest? rest digest).or (if entry.1.digest? = some digest then some entry.2 else none) := by
  rw [latest?, List.reverse_cons, List.find?_append, latest?]
  cases rest.reverse.find? fun later => decide (later.1.digest? = some digest) with
  | some later => rfl
  | none =>
    by_cases h : entry.1.digest? = some digest <;> simp [h]

theorem latest?_eq_none_iff {entries : List (Value × α)} {digest : Bytes} :
    latest? entries digest = none ↔ digest ∉ digests entries := by
  simp [latest?, digests]

/-! ## What is in the table -/

/-- The first label goes under the identifier that its value spells, and the others follow. -/
theorem putAll_cons_eq_ok {table filled : Table α} {value : Value} {label : α}
    {rest : List (Value × α)} (h : putAll table ((value, label) :: rest) = .ok filled) :
    ∃ id, value.toKeyId = .ok id ∧ putAll (table.insert id label) rest = .ok filled := by
  rw [putAll, put, Store.readKeyId] at h
  cases hv : value.toKeyId with
  | error invalid =>
    rw [hv] at h
    cases h
  | ok id =>
    rw [hv] at h
    exact ⟨id, rfl, h⟩

/-- What spells identifiers can be put in. -/
theorem putAll_of_spells {entries : List (Value × α)}
    (hs : ∀ entry ∈ entries, ∃ id, entry.1.Spells id) (table : Table α) :
    ∃ filled, putAll table entries = .ok filled := by
  induction entries generalizing table with
  | nil => exact ⟨table, rfl⟩
  | cons entry rest ih =>
    obtain ⟨⟨id, hid⟩, hrest⟩ := List.forall_mem_cons.1 hs
    have hput : table.put entry.1 entry.2 = .ok (table.insert id entry.2) := by
      rw [put, Store.readKeyId_of_spells hid]
      rfl
    obtain ⟨filled, hfilled⟩ := ih hrest (table.insert id entry.2)
    exact ⟨filled, by simp only [putAll, hput, hfilled]⟩

/-- An identifier leads to the label that was put in last for its bytes, and to what there was
before if there is none. -/
theorem find?_putAll {entries : List (Value × α)} {table filled : Table α}
    (h : putAll table entries = .ok filled) (id : KeyId) :
    filled.find? id = (latest? entries id.digest).or (table.find? id) := by
  induction entries generalizing table with
  | nil =>
    cases h
    rfl
  | cons entry rest ih =>
    obtain ⟨value, label⟩ := entry
    obtain ⟨found, hv, hrest⟩ := putAll_cons_eq_ok h
    rw [ih hrest, latest?_cons, find?_insert, Value.digest?_of_toKeyId hv, Option.or_assoc]
    by_cases he : id = found
    · simp [he]
    · have hd : ¬ found.digest = id.digest := fun hd => he (eq_of_digest_eq hd.symm)
      simp [he, hd]

theorem nodup_insert {table : Table α} (h : table.keys.Nodup) (id : KeyId) (label : α) :
    (table.insert id label).keys.Nodup := by
  rw [keys_insert]
  split
  · exact h
  · rename_i hm
    rw [← List.concat_eq_append]
    exact h.concat hm

/-- No identifier gets a second entry. -/
theorem nodup_putAll {entries : List (Value × α)} {table filled : Table α}
    (h : putAll table entries = .ok filled) (hn : table.keys.Nodup) : filled.keys.Nodup := by
  induction entries generalizing table with
  | nil =>
    cases h
    exact hn
  | cons entry rest ih =>
    obtain ⟨value, label⟩ := entry
    obtain ⟨found, _, hrest⟩ := putAll_cons_eq_ok h
    exact ih hrest (nodup_insert hn found label)

/-- A table that was empty has as many entries as there are different bytes among the spellings. -/
theorem length_putAll {entries : List (Value × α)} {filled : Table α}
    (h : putAll [] entries = .ok filled) : filled.length = (digests entries).card := by
  have hmem : ∀ id : KeyId, id ∈ filled.keys ↔ id.digest ∈ digests entries := by
    intro id
    rw [← not_iff_not, ← find?_eq_none_iff, ← latest?_eq_none_iff, find?_putAll h id]
    simp [find?]
  have hdigests : (filled.keys.map digest).toFinset = digests entries := by
    ext bytes
    simp only [List.mem_toFinset, List.mem_map]
    constructor
    · rintro ⟨id, hid, rfl⟩
      exact (hmem id).1 hid
    · intro hb
      obtain ⟨entry, -, he⟩ := List.mem_filterMap.1 (List.mem_toFinset.1 hb)
      unfold Value.digest? at he
      split at he
      · cases he
      · rename_i id _
        cases he
        exact ⟨id, (hmem id).2 hb, rfl⟩
  have hnodup : (filled.keys.map digest).Nodup :=
    (nodup_putAll h List.nodup_nil).map fun _ _ => eq_of_digest_eq
  rw [← hdigests, List.toFinset_card_of_nodup hnodup, List.length_map, keys, List.length_map]

/-- Labels that are put in under spellings of identifiers. The table has an entry for each twenty
bytes among the spellings, and whatever spells an identifier leads to the label that was put in last
for its bytes, or to none. Equal identifiers have equal hashes. Identifiers that have their words in
different orders have equal hashes, too, and are told apart, as are any two with different bytes: a
label for the one leaves the other as it was. An identifier is equal to no bytes and no text. -/
theorem putAll_lookUp (entries : List (Value × α))
    (hs : ∀ entry ∈ entries, ∃ id, entry.1.Spells id) :
    ∃ table : Table α, putAll [] entries = .ok table ∧
      table.length = (digests entries).card ∧
      (∀ value id, value.Spells id →
        table.lookUp value = .ok (latest? entries id.digest)) ∧
      (∀ id other : KeyId, (Value.keyId other).equalsKeyId id = true → id.hash = other.hash) ∧
      (∀ id other : KeyId, (wordsOf id.digest).Perm (wordsOf other.digest) →
        id.hash = other.hash) ∧
      (∀ id other : KeyId, id.digest ≠ other.digest →
        id.sameAs other = false ∧ (Value.keyId other).equalsKeyId id = false ∧
          ∀ label, (table.insert id label).find? other = table.find? other) ∧
      ∀ (value : Value) (id : KeyId), value.equalsKeyId id = true ↔ value = .keyId id := by
  obtain ⟨table, htable⟩ := putAll_of_spells hs []
  refine ⟨table, htable, length_putAll htable, ?_, ?_, fun _ _ => hash_eq_of_perm, ?_,
    fun _ _ => equalsKeyId_iff⟩
  · intro value id hv
    rw [lookUp, Store.readKeyId_of_spells hv]
    show Except.ok (table.find? id) = _
    rw [find?_putAll htable id]
    simp [find?]
  · intro id other he
    obtain rfl : other = id := by simpa using equalsKeyId_iff.1 he
    rfl
  · intro id other hd
    have hne : other ≠ id := fun e => hd (congrArg digest e.symm)
    have hne' : id ≠ other := fun e => hne e.symm
    refine ⟨by simp [sameAs_eq_decide, hne'], ?_, fun label => by rw [find?_insert, if_neg hne]⟩
    rw [← Bool.not_eq_true, equalsKeyId_iff]
    simpa using hne

/-- The identifier of the bytes from zero to nineteen. -/
def ascending : KeyId := ⟨(List.range 20).map UInt8.ofNat, by decide⟩

/-- The identifier with the words of `ascending` in the opposite order. -/
def turned : KeyId :=
  ⟨[16, 17, 18, 19, 12, 13, 14, 15, 8, 9, 10, 11, 4, 5, 6, 7, 0, 1, 2, 3], by decide⟩

/-- Two identifiers with one hash in a table, spelled in all ways, one of them twice. -/
theorem putAll_lookUp_colliding :
    let entries := [(Value.keyId ascending, 1), (Value.buffer .view turned.digest, 2),
      (Value.text ascending.hex, 3)]
    (∀ entry ∈ entries, ∃ id, entry.1.Spells id) ∧ ascending.hash = turned.hash ∧
      ∃ table : Table Nat, putAll [] entries = .ok table ∧ table.length = 2 ∧
        table.lookUp (.buffer .mutable ascending.digest) = .ok (some 3) ∧
        table.lookUp (.keyId turned) = .ok (some 2) := by
  intro entries
  have htext : (Value.text ascending.hex).Spells ascending :=
    (Value.toKeyId_eq_ok_iff _ _).1 rfl
  have hs : ∀ entry ∈ entries, ∃ id, entry.1.Spells id := by
    intro entry he
    simp only [entries, List.mem_cons, List.not_mem_nil, or_false] at he
    rcases he with rfl | rfl | rfl
    · exact ⟨_, .keyId _⟩
    · exact ⟨_, .buffer _ _⟩
    · exact ⟨_, htext⟩
  obtain ⟨table, htable, hlength, hlook, _, hperm, _⟩ := putAll_lookUp entries hs
  refine ⟨hs, hperm _ _ (by decide), table, htable, ?_, ?_, ?_⟩
  · rw [hlength]
    rfl
  · rw [hlook _ _ (.buffer .mutable ascending)]
    rfl
  · rw [hlook _ _ (.keyId turned)]
    rfl

end Table

end KeyId

end Keyring
