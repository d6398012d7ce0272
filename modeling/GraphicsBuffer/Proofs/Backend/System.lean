/-
  GraphicsBuffer.Proofs.Backend.System

  The allocator on shared memory keeps its buffers inside their memories. A buffer's rows hold its
  pixels, its memory holds its rows, and a mapping of it covers its memory as it was measured when
  the buffer was made. All of it is established from checked products, for buffers that are made
  here and for buffers on memory that comes from elsewhere alike.
-/

import GraphicsBuffer.Proofs.Backend.Admission

namespace GraphicsBuffer

open Kernel (Grows)

/-- The bytes of a buffer hold its rows. -/
theorem le_bufferSize [PageSize] {stride height : UInt32} {size : UInt64}
    (h : bufferSize stride height = .ok size) : stride.toNat * height.toNat ≤ size.toNat := by
  obtain ⟨bytes, h_bytes, h_value⟩ := bufferSize_eq_ok stride height
  obtain rfl := Except.ok.inj (h_bytes.symm.trans h)
  rw [h_value]
  exact Page.le_ceil _

namespace SystemBuffer

/-! ## Sound buffers -/

/-- What holds of every buffer of a system. -/
structure Sound (k : Kernel) (b : SystemBuffer) : Prop where
  /-- A row holds the pixels of the image. -/
  rows : b.extent.width.toNat * b.bytesPerPixel.toNat ≤ b.stride.toNat
  /-- The memory, as it was measured, holds the rows. -/
  room : b.stride.toNat * b.extent.height.toNat ≤ b.size
  /-- The memory has not shrunk since. -/
  memory : ∃ n, k.endOf b.descriptor = .ok n ∧ b.size ≤ n
  /-- The mapping in use covers the memory as it was measured. -/
  mapped : ∀ id, b.mapping = some id → id < k.nextMapping ∧ ∃ memory access,
    b.descriptor = .memory memory ∧ k.mappings.find? id = some ⟨memory, b.size, access⟩

namespace Sound

variable {k k' : Kernel} {b b' : SystemBuffer}

theorem mono (h : b.Sound k) (h_grows : Grows k k') : b.Sound k' where
  rows := h.rows
  room := h.room
  memory := by
    obtain ⟨n, h_end, h_size⟩ := h.memory
    obtain ⟨n', h_end', h_le⟩ := h_grows.endOf h_end
    exact ⟨n', h_end', Nat.le_trans h_size h_le⟩
  mapped id h_mapping := by
    obtain ⟨h_lt, memory, access, h_descriptor, h_find⟩ := h.mapped id h_mapping
    exact ⟨Nat.lt_of_lt_of_le h_lt h_grows.nextMapping, memory, access, h_descriptor,
      h_grows.mappings id _ h_lt h_find⟩

/-- The end of a mapping that the buffer does not use leaves it sound. -/
theorem unmap_other (h : b.Sound k) {id : MappingId} (h_other : b.mapping ≠ some id) :
    b.Sound (k.unmap id) where
  rows := h.rows
  room := h.room
  memory := by
    rw [Kernel.unmap_endOf]
    exact h.memory
  mapped id' h_mapping := by
    obtain ⟨h_lt, memory, access, h_descriptor, h_find⟩ := h.mapped id' h_mapping
    have h_ne : id' ≠ id := by
      rintro rfl
      exact h_other h_mapping
    exact ⟨h_lt, memory, access, h_descriptor, (Table.find?_erase_of_ne _ h_ne).trans h_find⟩

/-- A buffer that is mapped no longer is still sound. -/
theorem withoutMapping (h : b.Sound k) : Sound k { b with mapping := none } :=
  ⟨h.rows, h.room, h.memory, nofun⟩

/-- The bytes of a region from the origin to a corner inside the buffer lie inside its memory. The
    last row may end before the stride does. -/
theorem region_le (h : b.Sound k) {corner : Corner} (h_fits : corner.fits b.extent = true)
    (h_bottom : 0 < corner.bottom.toNat) :
    (corner.bottom.toNat - 1) * b.stride.toNat + corner.right.toNat * b.bytesPerPixel.toNat
      ≤ b.size := by
  simp only [Corner.fits, Bool.and_eq_true, decide_eq_true_eq, UInt32.le_iff_toNat_le] at h_fits
  obtain ⟨h_right, h_height⟩ := h_fits
  calc (corner.bottom.toNat - 1) * b.stride.toNat + corner.right.toNat * b.bytesPerPixel.toNat
      ≤ (corner.bottom.toNat - 1) * b.stride.toNat + b.stride.toNat :=
        Nat.add_le_add_left (Nat.le_trans (Nat.mul_le_mul_right _ h_right) h.rows) _
    _ = corner.bottom.toNat * b.stride.toNat := by
        rw [← Nat.succ_mul, Nat.succ_eq_add_one, Nat.sub_add_cancel h_bottom]
    _ ≤ b.extent.height.toNat * b.stride.toNat := Nat.mul_le_mul_right _ h_height
    _ = b.stride.toNat * b.extent.height.toNat := Nat.mul_comm _ _
    _ ≤ b.size := h.room

end Sound

/-! ## Operations on one buffer -/

variable {k k' : Kernel} {b b' : SystemBuffer}

/-- A buffer that is made is sound. -/
theorem create_spec [PageSize] {size : Extent} {layout : FourCC}
    (h : create k size layout = .ok (b, k')) :
    b.Sound k' ∧ Grows k k' ∧ b.mapping = none := by
  obtain ⟨bytes, -, h_makeable, rfl, rfl⟩ := create_eq_ok_iff.mp h
  obtain ⟨h_grows, h_end⟩ := k.addMemory_spec memoryName (tight k size bytes).size false
  -- the stride is the length of a row, and the memory was made as long as needed
  have h_stride : (size.width * bytes).toNat = size.width.toNat * bytes.toNat :=
    (Arithmetic.mul32_of_lt "width" "bytes_per_pixel" h_makeable.row).2
  have h_room : (size.width * bytes).toNat * size.height.toNat ≤ (tight k size bytes).size := by
    rw [h_stride]
    exact Page.le_ceil _
  exact ⟨⟨Nat.le_of_eq h_stride.symm, h_room, ⟨_, h_end, Nat.le_refl _⟩, nofun⟩, h_grows, rfl⟩

/-- What a buffer on memory from elsewhere is: laid out as was asked for, on the memory that was
    asked for, all of it. -/
structure Wraps (k : Kernel) (request : ImportRequest) (b : SystemBuffer) : Prop where
  descriptor : request.descriptor = some b.descriptor
  memory : k.endOf b.descriptor = .ok b.size
  extent : b.extent = request.size
  stride : b.stride = request.stride
  unmapped : b.mapping = none

theorem ofRequest_wraps [PageSize] {request : ImportRequest} (h : ofRequest k request = .ok b) :
    Wraps k request b := by
  obtain ⟨d, length, bytes, h_measured, -, -, rfl⟩ := ofRequest_eq_ok_iff.mp h
  exact ⟨h_measured.given, h_measured.ends, rfl, rfl, rfl⟩

/-- A buffer that is wrapped around memory leaves the kernel as it is. -/
theorem ofRequest_of_map [PageSize] {request : ImportRequest}
    (h : (ofRequest k request).map (fun b => (b, k)) = .ok (b, k')) :
    ofRequest k request = .ok b ∧ k' = k := by
  rcases h_request : ofRequest k request with f | made
  · rw [h_request] at h
    exact nomatch h
  · rw [h_request] at h
    obtain ⟨rfl, rfl⟩ := Prod.mk.inj (Except.ok.inj h)
    exact ⟨rfl, rfl⟩

/-- A buffer on memory from elsewhere is sound, whatever the description that came with it. -/
theorem ofRequest_spec [PageSize] {request : ImportRequest} (h : ofRequest k request = .ok b) :
    b.Sound k ∧ b.mapping = none := by
  obtain ⟨d, length, bytes, h_measured, -, h_fits, rfl⟩ := ofRequest_eq_ok_iff.mp h
  -- the check of the stride gives the rows, that of the memory gives the room for them
  have h_room : request.stride.toNat * request.size.height.toNat ≤ length :=
    Nat.le_trans (Page.le_ceil _) h_fits.memory
  exact ⟨⟨h_fits.stride, h_room, ⟨length, h_measured.ends, Nat.le_refl _⟩, nofun⟩, rfl⟩

/-- The buffer with no mapping in use. -/
def unmapped (b : SystemBuffer) : SystemBuffer := { b with mapping := none }

theorem unmap_buffer (k : Kernel) (b : SystemBuffer) : (b.unmap k).1 = b.unmapped := by
  obtain ⟨descriptor, size, extent, bytesPerPixel, stride, _ | mapping⟩ := b <;> rfl

/-- What a buffer does that is mapped: the kernel maps all of its memory. -/
theorem map_eq_ok {region : Rect} {access : Access} {mapping : BackendMapping}
    (h : b.map k region access = .ok (mapping, b', k')) :
    ∃ id, k.map b.descriptor b.size access = .ok (id, k') ∧ mapping.address.mapping = id ∧
      b' = { b with mapping := some id } := by
  unfold SystemBuffer.map at h
  split at h
  · exact nomatch h
  split at h
  · exact nomatch h
  split at h
  · exact nomatch h
  split at h
  · split at h
    · exact nomatch h
    next id _ h_map =>
    obtain ⟨rfl, h_left⟩ := Prod.mk.inj (Except.ok.inj h)
    obtain ⟨rfl, rfl⟩ := Prod.mk.inj h_left
    exact ⟨id, h_map, rfl, rfl⟩
  · exact nomatch h

/-- A mapping that is made for the region up to a corner starts at the first byte of the memory, and
    the corner lies inside the buffer. -/
theorem map_spec {corner : Corner} {access : Access} {mapping : BackendMapping}
    (h : b.map k corner.fromOrigin access = .ok (mapping, b', k')) (h_sound : b.Sound k) :
    b'.Sound k' ∧ Grows k k' ∧ b' = { b with mapping := some mapping.address.mapping } ∧
      mapping.address.mapping = k.nextMapping ∧ mapping.address.offset = 0 ∧
      mapping.stride = b.stride ∧ corner.fits b.extent = true := by
  unfold SystemBuffer.map at h
  split at h
  · cases h
  rcases h_right : Arithmetic.add32 "x" corner.fromOrigin.x "width" corner.fromOrigin.width with
    e | right
  · simp only [h_right] at h
    cases h
  rcases h_bottom : Arithmetic.add32 "y" corner.fromOrigin.y "height" corner.fromOrigin.height with
    e | bottom
  · simp only [h_right, h_bottom] at h
    cases h
  -- from the origin, the corner of the region is the corner itself
  have h_corner : Corner.mk right bottom = corner := by
    obtain ⟨-, h_x⟩ := Arithmetic.add32_eq_ok_iff.mp h_right
    obtain ⟨-, h_y⟩ := Arithmetic.add32_eq_ok_iff.mp h_bottom
    obtain ⟨r, l⟩ := corner
    simp only [Corner.fromOrigin, UInt32.toNat_zero, Nat.zero_add, UInt32.toNat_inj] at h_x h_y
    rw [h_x, h_y]
  by_cases h_fits : corner.fits b.extent = true
  · rcases h_map : k.map b.descriptor b.size access with e | ⟨id, kernel⟩
    · simp only [h_right, h_bottom, h_corner, if_pos h_fits, h_map] at h
      cases h
    · simp only [h_right, h_bottom, h_corner, if_pos h_fits, h_map] at h
      obtain ⟨rfl, h_left⟩ := Prod.mk.inj (Except.ok.inj h)
      obtain ⟨rfl, rfl⟩ := Prod.mk.inj h_left
      obtain ⟨h_id, h_next, h_grows, memory, h_descriptor, h_find⟩ := Kernel.map_spec h_map
      have h_later := h_sound.mono h_grows
      refine ⟨⟨h_later.rows, h_later.room, h_later.memory, fun id' h_id' => ?_⟩, h_grows, rfl, h_id,
        by simp [offsetOf, Corner.fromOrigin], rfl, h_fits⟩
      obtain rfl : id = id' := Option.some.inj h_id'
      exact ⟨by rw [h_next, h_id]; exact Nat.lt_succ_self _, memory, access, h_descriptor, h_find⟩
  · simp only [h_right, h_bottom, h_corner, if_neg h_fits] at h
    cases h

end SystemBuffer

/-! ## All buffers -/

namespace SystemState

/-- What holds of the buffers of a system whose numbers lie below `next`. -/
structure Sound (s : SystemState) (next : BufferId) : Prop where
  buffers : ∀ id b, s.buffers.find? id = some b → id < next ∧ b.Sound s.kernel
  /-- No mapping is in use by two buffers. -/
  separate : ∀ id l b b' mapping, s.buffers.find? id = some b → s.buffers.find? l = some b' →
    b.mapping = some mapping → b'.mapping = some mapping → id = l

/-- A change from outside that leaves the buffers alone: no memory of theirs is shorter than it was
    measured, and no mapping of theirs is taken away or replaced. Anything else may happen to other
    memories and mappings. -/
structure Undisturbed (s s' : SystemState) : Prop where
  buffers : s'.buffers = s.buffers
  memory : ∀ id b, s.buffers.find? id = some b →
    ∃ n, s'.kernel.endOf b.descriptor = .ok n ∧ b.size ≤ n
  mappings : ∀ id b mapping, s.buffers.find? id = some b → b.mapping = some mapping →
    s'.kernel.mappings.find? mapping = s.kernel.mappings.find? mapping
  nextMapping : s.kernel.nextMapping ≤ s'.kernel.nextMapping

/-- A buffer that is not mapped leaves the allocator as it was. -/
theorem map_failed {s s' : SystemState} {id : BufferId} {region : Rect}
    {access : Access} {f : Failure} (h_map : s.map id region access = (.error f, s')) : s' = s := by
  unfold SystemState.map at h_map
  rcases h_find : s.buffers.find? id with _ | b
  · rw [h_find] at h_map
    exact (Prod.mk.inj h_map).2.symm
  rcases h_call : b.map s.kernel region access with g | ⟨mapping, b', kernel⟩
  · simp only [h_find, h_call] at h_map
    exact (Prod.mk.inj h_map).2.symm
  · simp only [h_find, h_call] at h_map
    cases (Prod.mk.inj h_map).1

/-- All buffers but one are the same in two states. -/
def SameExcept (id : BufferId) (s s' : SystemState) : Prop :=
  ∀ l, l ≠ id → s'.buffers.find? l = s.buffers.find? l

namespace SameExcept

variable {id : BufferId} {s s' s'' : SystemState}

theorem refl (id : BufferId) (s : SystemState) : SameExcept id s s := fun _ _ => rfl

theorem trans (h : SameExcept id s s') (h' : SameExcept id s' s'') : SameExcept id s s'' :=
  fun l h_ne => (h' l h_ne).trans (h l h_ne)

theorem set (s : SystemState) (id : BufferId) (b : SystemBuffer) (kernel : Kernel) :
    SameExcept id s (s.set id b kernel) :=
  fun _ h_ne => Table.find?_insert_of_ne _ _ h_ne

theorem unmap (s : SystemState) (id : BufferId) : SameExcept id s (s.unmap id) := by
  unfold SystemState.unmap
  rcases s.buffers.find? id with _ | b
  · exact refl id s
  · exact set s id _ _

theorem destroy (s : SystemState) (id : BufferId) : SameExcept id s (s.destroy id) :=
  (unmap s id).trans fun _ h_ne => Table.find?_erase_of_ne _ h_ne

theorem add (s : SystemState) (id : BufferId) (made : Outcome (SystemBuffer × Kernel)) :
    SameExcept id s (s.add id made).2 := by
  rcases made with f | ⟨b, kernel⟩
  · exact refl id s
  · exact set s id b kernel

theorem map (s : SystemState) (id : BufferId) (region : Rect) (access : Access) :
    SameExcept id s (s.map id region access).2 := by
  unfold SystemState.map
  rcases s.buffers.find? id with _ | b
  · exact refl id s
  simp only
  rcases b.map s.kernel region access with f | ⟨mapping, b', kernel⟩
  · exact refl id s
  · exact set s id b' kernel

end SameExcept

namespace Sound

variable {s : SystemState} {next : BufferId}

/-- A buffer may be put in place whose mapping, if it has one, is newer than the kernel was. -/
theorem set (h : s.Sound next) {id next' : BufferId} {b : SystemBuffer} {kernel : Kernel}
    (h_next : next ≤ next') (h_id : id < next') (h_grows : Grows s.kernel kernel)
    (h_b : b.Sound kernel) (h_fresh : ∀ l, b.mapping = some l → s.kernel.nextMapping ≤ l) :
    (s.set id b kernel).Sound next' where
  buffers l b' h_find := by
    rcases Table.find?_insert_eq_some h_find with ⟨rfl, rfl⟩ | ⟨-, h_before⟩
    · exact ⟨h_id, h_b⟩
    · obtain ⟨h_lt, h_sound⟩ := h.buffers l b' h_before
      exact ⟨Nat.lt_of_lt_of_le h_lt h_next, h_sound.mono h_grows⟩
  separate l l' b' b'' mapping h_find h_find' h_b' h_b'' := by
    -- the mapping of the new buffer, if it has one, is newer than all that were in use
    have h_old : ∀ {l b}, s.buffers.find? l = some b → b.mapping = some mapping →
        mapping < s.kernel.nextMapping := fun h_before h_mapping =>
      ((h.buffers _ _ h_before).2.mapped mapping h_mapping).1
    rcases Table.find?_insert_eq_some h_find with ⟨rfl, rfl⟩ | ⟨-, h_before⟩
    · rcases Table.find?_insert_eq_some h_find' with ⟨rfl, -⟩ | ⟨-, h_before'⟩
      · rfl
      · exact absurd (h_old h_before' h_b'') (Nat.not_lt.mpr (h_fresh mapping h_b'))
    · rcases Table.find?_insert_eq_some h_find' with ⟨rfl, rfl⟩ | ⟨-, h_before'⟩
      · exact absurd (h_old h_before h_b') (Nat.not_lt.mpr (h_fresh mapping h_b''))
      · exact h.separate l l' b' b'' mapping h_before h_before' h_b' h_b''

/-- A change from outside that leaves the buffers undisturbed keeps them sound. -/
theorem undisturbed (h : s.Sound next) {s' : SystemState} (h_kept : Undisturbed s s') :
    s'.Sound next := by
  refine ⟨fun id b h_find => ?_, fun id l b b' mapping => ?_⟩
  · rw [h_kept.buffers] at h_find
    obtain ⟨h_lt, h_b⟩ := h.buffers id b h_find
    refine ⟨h_lt, h_b.rows, h_b.room, h_kept.memory id b h_find, fun mapping h_mapping => ?_⟩
    obtain ⟨h_old, h_mapped⟩ := h_b.mapped mapping h_mapping
    rw [h_kept.mappings id b mapping h_find h_mapping]
    exact ⟨Nat.lt_of_lt_of_le h_old h_kept.nextMapping, h_mapped⟩
  · rw [h_kept.buffers]
    exact h.separate id l b b' mapping

theorem unmap (h : s.Sound next) (id : BufferId) : (s.unmap id).Sound next := by
  unfold SystemState.unmap
  rcases h_find : s.buffers.find? id with _ | b
  · exact h
  obtain ⟨h_lt, h_b⟩ := h.buffers id b h_find
  rcases h_mapping : b.mapping with _ | mapping
  · simp only [SystemBuffer.unmap, h_mapping]
    exact h.set (Nat.le_refl _) h_lt (Grows.refl _) h_b (by simp [h_mapping])
  · simp only [SystemBuffer.unmap, h_mapping]
    refine ⟨fun l b' h_l => ?_, fun l l' b' b'' mapping' h_l h_l' h_b' h_b'' => ?_⟩
    · -- every buffer stays sound: the mapping that goes is in use by no other
      rcases Table.find?_insert_eq_some h_l with ⟨rfl, rfl⟩ | ⟨h_ne, h_before⟩
      · exact ⟨h_lt, h_b.withoutMapping.unmap_other nofun⟩
      · refine ⟨(h.buffers l b' h_before).1, (h.buffers l b' h_before).2.unmap_other ?_⟩
        exact fun h_same => h_ne (h.separate l id b' b mapping h_before h_find h_same h_mapping)
    · -- no mapping becomes shared, since none is made
      rcases Table.find?_insert_eq_some h_l with ⟨-, rfl⟩ | ⟨-, h_before⟩
      · exact nomatch h_b'
      rcases Table.find?_insert_eq_some h_l' with ⟨-, rfl⟩ | ⟨-, h_before'⟩
      · exact nomatch h_b''
      exact h.separate l l' b' b'' mapping' h_before h_before' h_b' h_b''

theorem destroy (h : s.Sound next) (id : BufferId) : (s.destroy id).Sound next := by
  have h_unmapped := h.unmap id
  refine ⟨fun l b h_l => h_unmapped.buffers l b (Table.find?_erase_eq_some h_l).2,
    fun l l' b b' mapping h_l h_l' => ?_⟩
  exact h_unmapped.separate l l' b b' mapping (Table.find?_erase_eq_some h_l).2
    (Table.find?_erase_eq_some h_l').2

/-- What adding a buffer with the next number does, if what is added is sound. -/
theorem add {s' : SystemState} (h : s.Sound next) {made : Outcome (SystemBuffer × Kernel)}
    (h_made : ∀ b kernel, made = .ok (b, kernel) →
      b.Sound kernel ∧ Grows s.kernel kernel ∧ b.mapping = none)
    {answer : Outcome Unit} (h_add : s.add next made = (answer, s')) :
    (∃ f, answer = .error f ∧ s' = s) ∨
      (answer = .ok () ∧ s'.Sound (next + 1) ∧ SameExcept next s s' ∧
        ∃ b, s'.buffers.find? next = some b) := by
  rcases made with f | ⟨b, kernel⟩
  · obtain ⟨rfl, rfl⟩ := Prod.mk.inj h_add
    exact .inl ⟨f, rfl, rfl⟩
  · obtain ⟨rfl, rfl⟩ := Prod.mk.inj h_add
    obtain ⟨h_b, h_grows, h_mapping⟩ := h_made b kernel rfl
    refine .inr ⟨rfl, ?_, SameExcept.set s next b kernel, b, Table.find?_insert_self _ _ _⟩
    exact h.set (Nat.le_succ _) (Nat.lt_succ_self _) h_grows h_b (by simp [h_mapping])

/-- What asking for a mapping up to a corner does. -/
theorem map (h : s.Sound next) {s' : SystemState} {id : BufferId} {corner : Corner}
    {access : Access} {given : Outcome BackendMapping}
    (h_map : s.map id corner.fromOrigin access = (given, s')) :
    s'.Sound next ∧
      (∀ b, s.buffers.find? id = some b → ∃ b', s'.buffers.find? id = some b') ∧
      ∀ mapping, given = .ok mapping → ∃ b, s'.buffers.find? id = some b ∧
        b.mapping = some mapping.address.mapping ∧ mapping.address.offset = 0 ∧
        mapping.stride = b.stride ∧ corner.fits b.extent = true := by
  unfold SystemState.map at h_map
  rcases h_find : s.buffers.find? id with _ | b
  · simp only [h_find] at h_map
    obtain ⟨rfl, rfl⟩ := Prod.mk.inj h_map
    exact ⟨h, by simp, by simp [SystemState.absent]⟩
  rcases h_call : b.map s.kernel corner.fromOrigin access with f | ⟨mapping, b', kernel⟩
  · simp only [h_find, h_call] at h_map
    obtain ⟨rfl, rfl⟩ := Prod.mk.inj h_map
    exact ⟨h, fun b' _ => ⟨b, h_find⟩, by simp⟩
  · simp only [h_find, h_call] at h_map
    obtain ⟨rfl, rfl⟩ := Prod.mk.inj h_map
    obtain ⟨h_lt, h_b⟩ := h.buffers id b h_find
    obtain ⟨h_b', h_grows, h_same, h_number, h_offset, h_stride, h_fits⟩ :=
      SystemBuffer.map_spec h_call h_b
    have h_mapping : b'.mapping = some mapping.address.mapping := by rw [h_same]
    refine ⟨h.set (Nat.le_refl _) h_lt h_grows h_b' fun l h_l => ?_,
      fun _ _ => ⟨b', Table.find?_insert_self _ _ _⟩, fun mapping' h_given => ?_⟩
    · obtain rfl : mapping.address.mapping = l := Option.some.inj (h_mapping.symm.trans h_l)
      exact Nat.le_of_eq h_number.symm
    · obtain rfl := Except.ok.inj h_given
      exact ⟨b', Table.find?_insert_self _ _ _, h_mapping, h_offset, by rw [h_stride, h_same],
        by rw [h_same]; exact h_fits⟩

end Sound

theorem unmap_find? (s : SystemState) {id : BufferId} {b : SystemBuffer}
    (h_find : s.buffers.find? id = some b) : ∃ b', (s.unmap id).buffers.find? id = some b' := by
  simp only [unmap, h_find]
  exact ⟨_, Table.find?_insert_self _ _ _⟩

end SystemState

end GraphicsBuffer
