/-
  GraphicsBuffer.Table

  Finite tables as association lists. A key has at most one value; a new entry goes to the end, so
  a table whose keys are made by a counter lists them in increasing order.
-/

namespace GraphicsBuffer

/-- Values by key, in the order in which they were last set. -/
structure Table (κ α : Type) where
  entries : List (κ × α) := []

namespace Table

variable {κ α : Type} [DecidableEq κ]

instance : EmptyCollection (Table κ α) := ⟨⟨[]⟩⟩

instance : Inhabited (Table κ α) := ⟨∅⟩

/-- The value of a key. -/
def find? (t : Table κ α) (k : κ) : Option α :=
  (t.entries.find? fun entry => entry.1 = k).map (·.2)

/-- Whether a key has a value. -/
def contains (t : Table κ α) (k : κ) : Bool := (t.find? k).isSome

/-- Takes a key and its value out. -/
def erase (t : Table κ α) (k : κ) : Table κ α := ⟨t.entries.filter fun entry => entry.1 ≠ k⟩

/-- Sets the value of a key. -/
def insert (t : Table κ α) (k : κ) (a : α) : Table κ α := ⟨(t.erase k).entries ++ [(k, a)]⟩

/-- How many keys have a value. -/
def size (t : Table κ α) : Nat := t.entries.length

/-- The keys in order. -/
def keys (t : Table κ α) : List κ := t.entries.map (·.1)

/-- The values in order. -/
def values (t : Table κ α) : List α := t.entries.map (·.2)

/-! ## What the operations do to `find?` -/

@[simp] theorem find?_empty (k : κ) : (∅ : Table κ α).find? k = none := rfl

theorem find?_erase_self (t : Table κ α) (k : κ) : (t.erase k).find? k = none := by
  simp [find?, erase]

theorem find?_erase_of_ne (t : Table κ α) {k l : κ} (h : l ≠ k) :
    (t.erase k).find? l = t.find? l := by
  unfold find? erase
  congr 1
  induction t.entries with
  | nil => rfl
  | cons entry rest ih =>
    by_cases hk : entry.1 = k
    · have hl : entry.1 ≠ l := fun e => h (e.symm.trans hk)
      simpa [List.filter_cons, hk, List.find?_cons, hl, h.symm] using ih
    · by_cases hl : entry.1 = l <;> simp_all

theorem find?_insert_self (t : Table κ α) (k : κ) (a : α) : (t.insert k a).find? k = some a := by
  have none_erased : (t.erase k).entries.find? (fun entry => entry.1 = k) = none := by
    simpa [find?] using find?_erase_self t k
  simp [find?, insert, List.find?_append, none_erased]

theorem find?_insert_of_ne (t : Table κ α) {k l : κ} (a : α) (h : l ≠ k) :
    (t.insert k a).find? l = t.find? l := by
  rw [← find?_erase_of_ne t h]
  simp [find?, insert, List.find?_append, h.symm]

end Table

end GraphicsBuffer
