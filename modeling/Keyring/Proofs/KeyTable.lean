import Keyring.KeyId

/-!
# Entries of tables

A table keeps its identifiers in the order in which they were first put in. As long as none of them
is in it twice, looking an identifier up and finding its entry in the list come to the same.
-/

namespace Keyring.KeyId

theorem sameAs_eq_decide (a b : KeyId) : a.sameAs b = decide (a = b) := by
  rw [Bool.eq_iff_iff, sameAs_iff, decide_eq_true_iff]

namespace Table

variable {α : Type}

theorem mem_keys_of_mem {table : Table α} {id : KeyId} {value : α} (h : (id, value) ∈ table) :
    id ∈ table.keys :=
  List.mem_map.2 ⟨(id, value), h, rfl⟩

theorem find?_eq_none_iff {table : Table α} {id : KeyId} :
    table.find? id = none ↔ id ∉ table.keys := by
  induction table with
  | nil => simp [find?, keys]
  | cons entry rest ih =>
    obtain ⟨key, value⟩ := entry
    by_cases h : key = id
    · simp [find?, keys, sameAs_eq_decide, h]
    · have hk : id ≠ key := fun e => h e.symm
      simpa [find?, keys, sameAs_eq_decide, h, hk] using ih

theorem mem_of_find? {table : Table α} {id : KeyId} {value : α} (h : table.find? id = some value) :
    (id, value) ∈ table := by
  induction table with
  | nil => simp [find?] at h
  | cons entry rest ih =>
    obtain ⟨key, old⟩ := entry
    by_cases hk : key = id
    · subst hk
      simp only [find?, sameAs_eq_decide, decide_true, if_true, Option.some.injEq] at h
      subst h
      exact List.mem_cons_self
    · simp only [find?, sameAs_eq_decide, hk, decide_false, Bool.false_eq_true, if_false] at h
      exact List.mem_cons_of_mem _ (ih h)

theorem find?_of_mem {table : Table α} (hn : table.keys.Nodup) {id : KeyId} {value : α}
    (h : (id, value) ∈ table) : table.find? id = some value := by
  induction table with
  | nil => cases h
  | cons entry rest ih =>
    obtain ⟨key, old⟩ := entry
    obtain ⟨hkey, hrest⟩ := List.nodup_cons.1 (show (key :: keys rest).Nodup from hn)
    rcases List.mem_cons.1 h with he | hr
    · cases he
      simp [find?, sameAs_eq_decide]
    · have hk : key ≠ id := fun e => hkey (e ▸ mem_keys_of_mem hr)
      simpa [find?, sameAs_eq_decide, hk] using ih hrest hr

theorem keys_insert (table : Table α) (id : KeyId) (value : α) :
    (table.insert id value).keys =
      if id ∈ table.keys then table.keys else table.keys ++ [id] := by
  induction table with
  | nil => simp [insert, keys]
  | cons entry rest ih =>
    obtain ⟨key, old⟩ := entry
    by_cases h : key = id
    · simp [insert, keys, sameAs_eq_decide, h]
    · have hk : id ≠ key := fun e => h e.symm
      have hi : keys (insert ((key, old) :: rest) id value) = key :: keys (insert rest id value) := by
        simp [insert, keys, sameAs_eq_decide, h]
      have hc : keys ((key, old) :: rest) = key :: keys rest := rfl
      rw [hi, ih, hc]
      by_cases hm : id ∈ keys rest <;> simp [hm, hk]

end Table

end Keyring.KeyId
