/-
  GraphicsBuffer.Proofs.Kernel.Touch

  Reading and writing through mappings. An address behind which all of a memory lies stays one for
  as long as the mapping is there: neither what an allocator does to the kernel nor a write changes
  the size of a memory or gives the number of a mapping out again.
-/

import GraphicsBuffer.Proofs.World.Acts

namespace GraphicsBuffer.Kernel

variable {k k' : Kernel} {a : Address} {id : MemoryId}

/-! ## What touching needs -/

theorem reach?_eq_some_iff {record : MemoryMapping} {m : Memory} : k.reach? a = some (record, m) ↔
    k.mappings.find? a.mapping = some record ∧ k.memories[record.memory]? = some m := by
  simp only [reach?, Option.bind_eq_bind, Option.bind_eq_some_iff, Option.pure_def]
  constructor
  · rintro ⟨record', h_record, m', h_memory, h_eq⟩
    obtain ⟨rfl, rfl⟩ := Prod.mk.inj (Option.some.inj h_eq)
    exact ⟨h_record, h_memory⟩
  · rintro ⟨h_record, h_memory⟩
    exact ⟨record, h_record, m, h_memory, rfl⟩

theorem touchable_eq_ok_iff [PageSize] {access : Access} {offset count : Nat}
    {record : MemoryMapping} {m : Memory} : k.touchable a access offset count = .ok (record, m) ↔
      k.mappings.find? a.mapping = some record ∧ k.memories[record.memory]? = some m ∧
        access ⊆ record.access ∧ offset + count ≤ m.room record.length - a.offset := by
  rw [← and_assoc, ← reach?_eq_some_iff, touchable]
  constructor
  · intro h_touch
    split at h_touch
    · exact nomatch h_touch
    next h_reach =>
    split at h_touch
    · exact nomatch h_touch
    next h_access =>
    split at h_touch
    · exact nomatch h_touch
    next h_inside =>
    obtain ⟨rfl, rfl⟩ := Prod.mk.inj (Except.ok.inj h_touch)
    exact ⟨h_reach, by simpa using h_access, Nat.not_lt.mp h_inside⟩
  · rintro ⟨h_reach, h_access, h_inside⟩
    simp only [h_reach, h_access, decide_true, Bool.not_true, Bool.false_eq_true, if_false,
      if_neg (Nat.not_lt.mpr h_inside)]

theorem load_eq_ok [PageSize] {offset count : Nat} {bytes : List UInt8}
    (h_load : k.load a offset count = .ok bytes) : ∃ record m,
      k.mappings.find? a.mapping = some record ∧ k.memories[record.memory]? = some m ∧
        bytes = m.read (a.offset + offset) count := by
  unfold load at h_load
  rcases h_touch : k.touchable a Access.read offset count with why | ⟨record, m⟩
  · rw [h_touch] at h_load
    exact nomatch h_load
  · rw [h_touch] at h_load
    obtain ⟨h_record, h_memory, -⟩ := touchable_eq_ok_iff.mp h_touch
    exact ⟨record, m, h_record, h_memory, (Except.ok.inj h_load).symm⟩

/-- A write changes the bytes of one memory and nothing else. -/
theorem store_eq_ok [PageSize] {offset : Nat} {bytes : List UInt8}
    (h_store : k.store a offset bytes = .ok k') : ∃ record m,
      k.mappings.find? a.mapping = some record ∧ k.memories[record.memory]? = some m ∧
        k' = { k with
          memories := k.memories.set record.memory (m.write (a.offset + offset) bytes) } := by
  unfold store at h_store
  rcases h_touch : k.touchable a Access.write offset bytes.length with why | ⟨record, m⟩
  · rw [h_touch] at h_store
    exact nomatch h_store
  · rw [h_touch] at h_store
    obtain ⟨h_record, h_memory, -⟩ := touchable_eq_ok_iff.mp h_touch
    exact ⟨record, m, h_record, h_memory, (Except.ok.inj h_store).symm⟩

/-! ## What lasts -/

/-- No memory is gone or of another size, and a mapping with a number that had been given out was
    there before. Mappings may come and go, and bytes may change. -/
structure Lasts (k k' : Kernel) : Prop where
  memory : ∀ {id : MemoryId} {m : Memory}, k.memories[id]? = some m →
    ∃ m' : Memory, k'.memories[id]? = some m' ∧ m'.size = m.size
  nextMapping : k.nextMapping ≤ k'.nextMapping
  mapping : ∀ {id record}, id < k.nextMapping → k'.mappings.find? id = some record →
    k.mappings.find? id = some record

/-- What an allocator does leaves the memories as they are. -/
theorem Acts.memory (h : Acts k k') {m : Memory} (h_memory : k.memories[id]? = some m) :
    k'.memories[id]? = some m := by
  obtain ⟨made, h_memories, -⟩ := h.memories
  obtain ⟨h_lt, -⟩ := List.getElem?_eq_some_iff.mp h_memory
  rw [h_memories, List.getElem?_append_left h_lt, h_memory]

theorem Acts.lasts (h : Acts k k') : Lasts k k' where
  memory h_memory := ⟨_, h.memory h_memory, rfl⟩
  nextMapping := h.nextMapping_le
  mapping h_given h_find := h.mapping_before h_given h_find

/-- The memories after a write to one of them. -/
theorem memory_set {m : Memory} {offset : Nat} {bytes : List UInt8}
    (h_memory : k.memories[id]? = some m) (l : MemoryId) :
    (k.memories.set id (m.write offset bytes))[l]? =
      if l = id then some (m.write offset bytes) else k.memories[l]? := by
  obtain ⟨h_lt, -⟩ := List.getElem?_eq_some_iff.mp h_memory
  rw [List.getElem?_set]
  by_cases h_eq : l = id
  · rw [if_pos h_eq.symm, if_pos h_eq, if_pos h_lt]
  · rw [if_neg (Ne.symm h_eq), if_neg h_eq]

theorem lasts_of_store [PageSize] {offset : Nat} {bytes : List UInt8}
    (h_store : k.store a offset bytes = .ok k') : Lasts k k' := by
  obtain ⟨record, m, -, h_memory, rfl⟩ := store_eq_ok h_store
  refine ⟨fun {l m'} h_l => ?_, Nat.le_refl _, fun _ h_find => h_find⟩
  show ∃ m'', (k.memories.set _ _)[l]? = some m'' ∧ _
  rw [memory_set h_memory]
  by_cases h_eq : l = record.memory
  · rw [if_pos h_eq]
    subst h_eq
    obtain rfl := Option.some.inj (h_memory.symm.trans h_l)
    exact ⟨_, rfl, rfl⟩
  · rw [if_neg h_eq]
    exact ⟨m', h_l, rfl⟩

theorem Lasts.endOf (h : Lasts k k') {d : Descriptor} {n : Nat} (h_end : k.endOf d = .ok n) :
    k'.endOf d = .ok n := by
  cases d with
  | memory id =>
    obtain ⟨m, h_memory, rfl⟩ := endOf_memory_eq_ok_iff.mp h_end
    obtain ⟨m', h_memory', h_size⟩ := h.memory h_memory
    exact endOf_memory_eq_ok_iff.mpr ⟨m', h_memory', h_size⟩
  | nullDevice => exact h_end
  | pipe => exact nomatch h_end
  | closed => exact nomatch h_end

/-! ## Addresses of memories -/

/-- An address is the start of a memory, all of which is mapped there; or nothing is mapped there
    any more, and nothing will be again. -/
structure Opens (k : Kernel) (a : Address) (id : MemoryId) : Prop where
  offset : a.offset = 0
  given : a.mapping < k.nextMapping
  whole : ∃ m : Memory, k.memories[id]? = some m ∧ ∀ record,
    k.mappings.find? a.mapping = some record → record.memory = id ∧ record.length = m.size

theorem Opens.lasts (h : Opens k a id) (h_lasts : Lasts k k') : Opens k' a id where
  offset := h.offset
  given := Nat.lt_of_lt_of_le h.given h_lasts.nextMapping
  whole := by
    obtain ⟨m, h_memory, h_record⟩ := h.whole
    obtain ⟨m', h_memory', h_size⟩ := h_lasts.memory h_memory
    refine ⟨m', h_memory', fun record h_find => ?_⟩
    rw [h_size]
    exact h_record record (h_lasts.mapping h.given h_find)

/-- What is read at the address are bytes of the memory. -/
theorem Opens.load [PageSize] (h : Opens k a id) {offset count : Nat} {bytes : List UInt8}
    (h_load : k.load a offset count = .ok bytes) :
    ∃ m, k.memories[id]? = some m ∧ bytes = m.read offset count := by
  obtain ⟨record, m, h_record, h_memory, rfl⟩ := load_eq_ok h_load
  obtain ⟨_, -, h_whole⟩ := h.whole
  obtain ⟨rfl, -⟩ := h_whole record h_record
  rw [h.offset, Nat.zero_add]
  exact ⟨m, h_memory, rfl⟩

/-- What is written at the address is written to the memory. -/
theorem Opens.store [PageSize] (h : Opens k a id) {offset : Nat} {bytes : List UInt8}
    (h_store : k.store a offset bytes = .ok k') : ∃ m, k.memories[id]? = some m ∧
      k' = { k with memories := k.memories.set id (m.write offset bytes) } := by
  obtain ⟨record, m, h_record, h_memory, rfl⟩ := store_eq_ok h_store
  obtain ⟨_, -, h_whole⟩ := h.whole
  obtain ⟨rfl, -⟩ := h_whole record h_record
  rw [h.offset, Nat.zero_add]
  exact ⟨m, h_memory, rfl⟩

/-- While the mapping is there, every byte of the memory can be touched in the ways that it was made
    for. -/
theorem Opens.touchable [PageSize] (h : Opens k a id) {m : Memory}
    (h_memory : k.memories[id]? = some m)
    {record : MemoryMapping} (h_record : k.mappings.find? a.mapping = some record) {access : Access}
    (h_access : access ⊆ record.access) {offset count : Nat} (h_inside : offset + count ≤ m.size) :
    k.touchable a access offset count = .ok (record, m) := by
  obtain ⟨m', h_memory', h_whole⟩ := h.whole
  obtain rfl := Option.some.inj (h_memory.symm.trans h_memory')
  obtain ⟨rfl, h_length⟩ := h_whole record h_record
  -- a memory as long as its mapping has room for all of its bytes, and for no part of a page more
  have h_room : m.room record.length = m.size := by
    rw [Memory.room, h_length, Nat.min_eq_left (Page.le_ceil _)]
  refine touchable_eq_ok_iff.mpr ⟨h_record, h_memory, h_access, ?_⟩
  rw [h_room, h.offset, Nat.sub_zero]
  exact h_inside

end GraphicsBuffer.Kernel
