/-
  GraphicsBuffer.Proofs.Kernel

  How the kernel goes on: memories never go away or shrink, and mappings stay until they are taken
  away. A mapping that is made gets a number of its own.
-/

import GraphicsBuffer.Kernel
import GraphicsBuffer.Proofs.Table

namespace GraphicsBuffer.Kernel

/-- A later state of a kernel in which no memory is gone or has shrunk and every mapping that had
    been made is still there. -/
structure Grows (k k' : Kernel) : Prop where
  memories : ∀ (id : MemoryId) (m : Memory), k.memories[id]? = some m →
    ∃ m' : Memory, k'.memories[id]? = some m' ∧ m.size ≤ m'.size
  mappings : ∀ id mapping, id < k.nextMapping → k.mappings.find? id = some mapping →
    k'.mappings.find? id = some mapping
  nextMapping : k.nextMapping ≤ k'.nextMapping

variable {k k' : Kernel}

theorem Grows.refl (k : Kernel) : Grows k k :=
  ⟨fun _ m h => ⟨m, h, Nat.le_refl _⟩, fun _ _ _ h => h, Nat.le_refl _⟩

/-- The end of a memory is found exactly if the memory is there. -/
theorem endOf_memory_eq_ok_iff {id : MemoryId} {n : Nat} :
    k.endOf (.memory id) = .ok n ↔ ∃ m, k.memories[id]? = some m ∧ m.size = n := by
  rcases h_memory : k.memories[id]? with _ | m
  · simp [Kernel.endOf, h_memory]
  · simp [Kernel.endOf, h_memory]

/-- A duplicate of a descriptor refers to the same thing. -/
theorem duplicate_eq_ok {d d' : Descriptor} (h : duplicate d = .ok d') : d = d' := by
  cases d with
  | closed => exact nomatch h
  | memory id => exact Except.ok.inj h
  | nullDevice => exact Except.ok.inj h
  | pipe => exact Except.ok.inj h

/-- What a descriptor refers to does not get shorter. -/
theorem Grows.endOf (h : Grows k k') {d : Descriptor} {n : Nat} (h_end : k.endOf d = .ok n) :
    ∃ n', k'.endOf d = .ok n' ∧ n ≤ n' := by
  cases d with
  | memory id =>
    obtain ⟨m, h_memory, rfl⟩ := endOf_memory_eq_ok_iff.mp h_end
    obtain ⟨m', h_memory', h_size⟩ := h.memories id m h_memory
    exact ⟨m'.size, endOf_memory_eq_ok_iff.mpr ⟨m', h_memory', rfl⟩, h_size⟩
  | nullDevice => exact ⟨n, h_end, Nat.le_refl _⟩
  | pipe => exact nomatch h_end
  | closed => exact nomatch h_end

/-! ## Memories -/

/-- No memory is gone or has shrunk. Mappings may come and go. -/
def MemoriesLast (k k' : Kernel) : Prop :=
  ∀ (id : MemoryId) (m : Memory), k.memories[id]? = some m →
    ∃ m' : Memory, k'.memories[id]? = some m' ∧ m.size ≤ m'.size

theorem MemoriesLast.refl (k : Kernel) : MemoriesLast k k := fun _ m h => ⟨m, h, Nat.le_refl _⟩

theorem MemoriesLast.trans {k'' : Kernel} (h : MemoriesLast k k') (h' : MemoriesLast k' k'') :
    MemoriesLast k k'' := by
  intro id m h_memory
  obtain ⟨m', h_memory', h_le⟩ := h id m h_memory
  obtain ⟨m'', h_memory'', h_le'⟩ := h' id m' h_memory'
  exact ⟨m'', h_memory'', Nat.le_trans h_le h_le'⟩

/-- A memory that is added has the size that was asked for, and all others stay. -/
theorem addMemory_spec (k : Kernel) (name : List UInt8) (size : Nat) (writeSealed : Bool) :
    Grows k (k.addMemory name size writeSealed).2 ∧
      (k.addMemory name size writeSealed).2.endOf (.memory k.memories.length) = .ok size := by
  -- the memory goes to the end of the list, behind all that have been made
  refine ⟨⟨fun id m h_memory => ⟨m, ?_, Nat.le_refl _⟩, fun _ _ _ h => h, Nat.le_refl _⟩, ?_⟩
  · obtain ⟨h_lt, -⟩ := List.getElem?_eq_some_iff.mp h_memory
    exact (List.getElem?_append_left h_lt).trans h_memory
  · exact endOf_memory_eq_ok_iff.mpr ⟨_, List.getElem?_concat_length, rfl⟩

/-! ## Mappings -/

/-- Only memories can be mapped. -/
theorem mappable_spec {d : Descriptor} {length : Nat} {access : Access} {memory : MemoryId}
    (h : k.mappable d length access = .ok memory) : d = .memory memory := by
  unfold mappable at h
  cases d with
  | memory id =>
    simp only at h
    split at h
    · exact nomatch h
    split at h
    · exact nomatch h
    split at h
    · exact nomatch h
    · exact congrArg _ (Except.ok.inj h)
  | nullDevice =>
    simp only at h
    split at h
    · exact nomatch h
    split at h <;> exact nomatch h
  | pipe =>
    simp only at h
    split at h
    · exact nomatch h
    split at h <;> exact nomatch h
  | closed => exact nomatch h

/-- A mapping that is made covers the bytes that were asked for, under the next number. -/
theorem map_spec {d : Descriptor} {length : Nat} {access : Access} {id : MappingId}
    (h : k.map d length access = .ok (id, k')) :
    id = k.nextMapping ∧ k'.nextMapping = k.nextMapping + 1 ∧ Grows k k' ∧
      ∃ memory, d = .memory memory ∧ k'.mappings.find? id = some ⟨memory, length, access⟩ := by
  unfold Kernel.map at h
  split at h
  · exact nomatch h
  split at h
  · exact nomatch h
  rcases h_mappable : k.mappable d length access with e | memory
  · rw [h_mappable] at h
    exact nomatch h
  · rw [h_mappable] at h
    obtain ⟨rfl, rfl⟩ := Prod.mk.inj (Except.ok.inj h)
    -- an older mapping has a smaller number, so the new one does not hide it
    refine ⟨rfl, rfl, ⟨fun _ m h_m => ⟨m, h_m, Nat.le_refl _⟩, fun id' mapping h_lt h_find => ?_,
      Nat.le_succ _⟩, memory, mappable_spec h_mappable, Table.find?_insert_self _ _ _⟩
    exact (Table.find?_insert_of_ne _ _ (Nat.ne_of_lt h_lt)).trans h_find

theorem unmap_endOf (k : Kernel) (id : MappingId) (d : Descriptor) :
    (k.unmap id).endOf d = k.endOf d := by
  cases d <;> rfl

end GraphicsBuffer.Kernel
