/-
  GraphicsBuffer.Proofs.Table

  Tables whose keys are distinct, which is what insertions and erasures keep. In such a table an
  entry that is found is the only one of its key, so taking it out leaves all others.
-/

import GraphicsBuffer.Table
import Mathlib.Data.List.Perm.Basic

namespace GraphicsBuffer.Table

variable {κ α : Type} [DecidableEq κ]

/-! ## Looking up -/

theorem find?_insert (t : Table κ α) (k l : κ) (a : α) :
    (t.insert k a).find? l = if l = k then some a else t.find? l := by
  by_cases h : l = k
  · rw [if_pos h, h, find?_insert_self]
  · rw [if_neg h, find?_insert_of_ne t a h]

theorem find?_erase (t : Table κ α) (k l : κ) :
    (t.erase k).find? l = if l = k then none else t.find? l := by
  by_cases h : l = k
  · rw [if_pos h, h, find?_erase_self]
  · rw [if_neg h, find?_erase_of_ne t h]

theorem find?_insert_eq_update (t : Table κ α) (k : κ) (a : α) :
    (t.insert k a).find? = Function.update t.find? k (some a) :=
  funext fun l => (find?_insert t k l a).trans (Function.update_apply _ _ _ _).symm

theorem find?_erase_eq_update (t : Table κ α) (k : κ) :
    (t.erase k).find? = Function.update t.find? k none :=
  funext fun l => (find?_erase t k l).trans (Function.update_apply _ _ _ _).symm

/-- What is found after an insertion is the new value, or was there before. -/
theorem find?_insert_eq_some {t : Table κ α} {k l : κ} {a b : α}
    (h : (t.insert k a).find? l = some b) : (l = k ∧ b = a) ∨ (l ≠ k ∧ t.find? l = some b) := by
  rw [find?_insert] at h
  by_cases h_key : l = k
  · rw [if_pos h_key] at h
    exact .inl ⟨h_key, (Option.some.inj h).symm⟩
  · rw [if_neg h_key] at h
    exact .inr ⟨h_key, h⟩

theorem find?_erase_eq_some {t : Table κ α} {k l : κ} {b : α}
    (h : (t.erase k).find? l = some b) : l ≠ k ∧ t.find? l = some b := by
  rw [find?_erase] at h
  by_cases h_key : l = k
  · rw [if_pos h_key] at h
    exact nomatch h
  · rw [if_neg h_key] at h
    exact ⟨h_key, h⟩

theorem mem_entries_of_find? {t : Table κ α} {k : κ} {a : α} (h : t.find? k = some a) :
    (k, a) ∈ t.entries := by
  obtain ⟨entry, h_entry, rfl⟩ := Option.map_eq_some_iff.mp h
  have h_key : entry.1 = k := by simpa using List.find?_some h_entry
  rw [← h_key]
  exact List.mem_of_find?_eq_some h_entry

theorem mem_values_of_find? {t : Table κ α} {k : κ} {a : α} (h : t.find? k = some a) :
    a ∈ t.values := List.mem_map.mpr ⟨_, mem_entries_of_find? h, rfl⟩

theorem not_mem_keys_of_find? {t : Table κ α} {k : κ} (h : t.find? k = none) : k ∉ t.keys := by
  intro h_mem
  obtain ⟨entry, h_entry, h_key⟩ := List.mem_map.mp h_mem
  rw [find?, Option.map_eq_none_iff, List.find?_eq_none] at h
  exact h entry h_entry (by simpa using h_key)

theorem erase_of_find?_eq_none {t : Table κ α} {k : κ} (h : t.find? k = none) : t.erase k = t := by
  have h_keys := not_mem_keys_of_find? h
  unfold erase
  congr 1
  rw [List.filter_eq_self]
  intro entry h_entry
  simp only [ne_eq, decide_not, Bool.not_eq_true', decide_eq_false_iff_not]
  rintro rfl
  exact h_keys (List.mem_map.mpr ⟨entry, h_entry, rfl⟩)

theorem values_insert (t : Table κ α) (k : κ) (a : α) :
    (t.insert k a).values = (t.erase k).values ++ [a] := by
  simp [values, insert]

theorem keys_insert (t : Table κ α) (k : κ) (a : α) :
    (t.insert k a).keys = (t.erase k).keys ++ [k] := by
  simp [keys, insert]

/-! ## Distinct keys -/

/-- No key occurs twice. -/
def Distinct (t : Table κ α) : Prop := t.keys.Nodup

namespace Distinct

variable {t : Table κ α} {k : κ} {a b : α}

omit [DecidableEq κ] in
theorem empty : Distinct (∅ : Table κ α) := List.nodup_nil

theorem erase (h : t.Distinct) (k : κ) : (t.erase k).Distinct :=
  List.Nodup.sublist (List.filter_sublist.map _) h

theorem insert (h : t.Distinct) (k : κ) (a : α) : (t.insert k a).Distinct := by
  -- the key goes to the end, and the keys before it are those of the table without it
  rw [Distinct, keys_insert, List.nodup_append]
  refine ⟨h.erase k, List.pairwise_singleton _ k, ?_⟩
  rintro l h_mem l' h_last rfl
  rw [List.mem_singleton.mp h_last] at h_mem
  exact not_mem_keys_of_find? (find?_erase_self t k) h_mem

/-- An entry that is found and the table without it make up the table. -/
theorem entries_perm (h : t.Distinct) (h_find : t.find? k = some a) :
    t.entries.Perm ((k, a) :: (t.erase k).entries) := by
  obtain ⟨entries⟩ := t
  -- on the entries; the entry that is found is the first, or is found in the rest
  induction entries with
  | nil => exact nomatch h_find
  | cons entry rest ih =>
    obtain ⟨h_head, h_rest⟩ := List.nodup_cons.mp h
    by_cases h_key : entry.1 = k
    · obtain rfl : entry = (k, a) := by
        have h_value : entry.2 = a := by simpa [find?, List.find?_cons, h_key] using h_find
        rw [← h_key, ← h_value]
      -- with distinct keys, erasing takes nothing else out
      have h_gone : (⟨rest⟩ : Table κ α).find? k = none := by
        rw [find?, Option.map_eq_none_iff, List.find?_eq_none]
        intro other h_other h_same
        exact h_head (List.mem_map.mpr ⟨other, h_other, by simpa using h_same⟩)
      have h_erase := congrArg Table.entries (erase_of_find?_eq_none h_gone)
      simp only [Table.erase] at h_erase ⊢
      rw [List.filter_cons_of_neg (by simp), h_erase]
    · have h_find : (⟨rest⟩ : Table κ α).find? k = some a := by
        simpa [find?, List.find?_cons, h_key] using h_find
      have h_perm := (ih h_rest h_find).cons entry
      simp only [Table.erase, List.filter_cons, h_key, ne_eq, not_false_eq_true, decide_true,
        if_true]
      exact h_perm.trans (List.Perm.swap _ _ _)

/-- Every entry is found under its key. -/
theorem find?_of_mem_entries (h : t.Distinct) (h_mem : (k, a) ∈ t.entries) : t.find? k = some a := by
  rcases h_find : t.find? k with _ | b
  · exact absurd (List.mem_map.mpr ⟨(k, a), h_mem, rfl⟩) (not_mem_keys_of_find? h_find)
  rcases List.mem_cons.mp ((h.entries_perm h_find).subset h_mem) with h_first | h_rest
  · rw [(Prod.mk.inj h_first).2]
  · exact absurd rfl (of_decide_eq_true (List.mem_filter.mp h_rest).2)

theorem values_perm (h : t.Distinct) (h_find : t.find? k = some a) :
    t.values.Perm (a :: (t.erase k).values) :=
  (h.entries_perm h_find).map Prod.snd

theorem keys_perm (h : t.Distinct) (h_find : t.find? k = some a) :
    t.keys.Perm (k :: (t.erase k).keys) :=
  (h.entries_perm h_find).map Prod.fst

theorem size_erase (h : t.Distinct) (h_find : t.find? k = some a) :
    (t.erase k).size + 1 = t.size := ((h.entries_perm h_find).length_eq).symm

end Distinct

theorem size_insert_of_find?_eq_none {t : Table κ α} {k : κ} (a : α) (h : t.find? k = none) :
    (t.insert k a).size = t.size + 1 := by
  rw [size, insert, erase_of_find?_eq_none h, List.length_append]
  rfl

/-- A new value for a key leaves the keys as they are, up to their order. -/
theorem Distinct.keys_insert_perm {t : Table κ α} {k : κ} {a : α} (h : t.Distinct)
    (h_find : t.find? k = some a) (b : α) : (t.insert k b).keys.Perm t.keys := by
  rw [keys_insert]
  exact (List.perm_append_singleton _ _).trans (h.keys_perm h_find).symm

theorem keys_insert_of_find?_eq_none {t : Table κ α} {k : κ} (a : α) (h : t.find? k = none) :
    (t.insert k a).keys = t.keys ++ [k] := by
  rw [keys_insert, erase_of_find?_eq_none h]

/-- The keys of a table are those under which a value is found. -/
theorem mem_keys_iff {t : Table κ α} {k : κ} : k ∈ t.keys ↔ ∃ a, t.find? k = some a := by
  constructor
  · intro h_mem
    by_contra h_none
    push Not at h_none
    exact not_mem_keys_of_find? (Option.eq_none_iff_forall_ne_some.mpr h_none) h_mem
  · rintro ⟨a, h_find⟩
    exact List.mem_map.mpr ⟨_, mem_entries_of_find? h_find, rfl⟩

theorem values_erase_subset {t : Table κ α} {k : κ} {a : α} (h : a ∈ (t.erase k).values) :
    a ∈ t.values := (List.filter_sublist.map Prod.snd).subset h

end GraphicsBuffer.Table
