/-
  GraphicsBuffer.Proofs.Backend.Pixels

  Pixels through mappings. A mapping shows the pixels of a region at the distances that they have
  from its first pixel; they lie in the memory, wherever the region lies in the buffer. So what is
  written to a pixel through one mapping is read from it through every other one of the same memory
  with the same rows, and no other pixel changes (`pixels_addressed`).
-/

import GraphicsBuffer.Proofs.Backend.Bench

namespace GraphicsBuffer

/-! ## Reading what was written -/

namespace Memory

variable {m m' : Memory} {i j offset count : Nat} {bytes : List UInt8}

/-- A byte before or after the bytes that are written stays as it is. -/
theorem contents_write_apart (m : Memory) (h : i < offset ∨ offset + bytes.length ≤ i) :
    (m.write offset bytes).contents i = m.contents i := by
  show (if offset ≤ i then (bytes[i - offset]?).getD (m.contents i) else m.contents i) = _
  rcases h with h_before | h_after
  · exact if_neg (Nat.not_le.mpr h_before)
  · have h_past : bytes.length ≤ i - offset := by omega
    rw [List.getElem?_eq_none h_past, Option.getD_none, ite_self]

/-- Each byte that is written is there. -/
theorem contents_write_inside (m : Memory) (offset : Nat) (h_lt : j < bytes.length) :
    (m.write offset bytes).contents (offset + j) = bytes[j] := by
  show (if offset ≤ offset + j then (bytes[offset + j - offset]?).getD _ else _) = _
  rw [if_pos (Nat.le_add_right _ _), Nat.add_sub_cancel_left, List.getElem?_eq_getElem h_lt,
    Option.getD_some]

theorem read_congr (h : ∀ j < count, m'.contents (i + j) = m.contents (i + j)) :
    m'.read i count = m.read i count :=
  List.map_congr_left fun j h_mem => h j (List.mem_range.mp h_mem)

/-- What lies before or after the bytes that are written is read as before. -/
theorem read_write_apart (h : offset + bytes.length ≤ i ∨ i + count ≤ offset) :
    (m.write offset bytes).read i count = m.read i count := by
  apply read_congr
  intro j h_lt
  exact m.contents_write_apart (by omega)

/-- The bytes that are written are read there. -/
theorem read_write_self (m : Memory) (offset : Nat) (bytes : List UInt8) :
    (m.write offset bytes).read offset bytes.length = bytes := by
  apply List.ext_getElem
  · rw [read, List.length_map, List.length_range]
  · intro j _ h_lt
    simp only [read, List.getElem_map, List.getElem_range]
    exact m.contents_write_inside offset h_lt

end Memory

namespace Bench

variable {s s' : State} {t : BenchStep} {b : String} {place : Place} {k : Kernel}
  {region : Rect} {access way : Access} {mapping : BackendMapping} {memory : MemoryId} {m : Memory}
  {p : Pixel} {c count : Nat} {bytes : List UInt8} {steps : List BenchStep}

/-! ## Memories of buffers -/

namespace Place.Sound

/-- The memory of a buffer is as long as it was when it was measured, or longer. -/
theorem memory_of (h : place.Sound k) (h_descriptor : place.buffer.descriptor = .memory memory) :
    ∃ m : Memory, k.memories[memory]? = some m ∧ place.buffer.size ≤ m.size := by
  obtain ⟨n, h_end, h_size⟩ := h.buffer.memory
  rw [h_descriptor] at h_end
  obtain ⟨m, h_memory, rfl⟩ := Kernel.endOf_memory_eq_ok_iff.mp h_end
  exact ⟨m, h_memory, h_size⟩

/-- The mapping of a buffer that is mapped is there. -/
theorem record (h : place.Sound k) (h_uses : place.mapping = some mapping) :
    ∃ memory access, place.buffer.descriptor = .memory memory ∧
      k.mappings.find? mapping.address.mapping = some ⟨memory, place.buffer.size, access⟩ := by
  have h_mapping : place.buffer.mapping = some mapping.address.mapping := by
    rw [← h.mapping, h_uses]
    rfl
  exact (h.buffer.mapped _ h_mapping).2

/-- A buffer with pixels has a memory. -/
theorem memory_of_pixel (h : place.Sound k) (h_pixel : place.buffer.extent.Has p) :
    ∃ id, place.buffer.descriptor = .memory id := by
  obtain ⟨n, h_end, h_size⟩ := h.buffer.memory
  have h_inside := h.ample.pixel_inside h_pixel
  have h_some : 0 < place.buffer.raster.pixel := h.ample.pixel
  cases h_descriptor : place.buffer.descriptor with
  | memory id => exact ⟨id, rfl⟩
  | nullDevice =>
    -- its end is found at once, so nothing of the pixel fits
    rw [h_descriptor] at h_end
    obtain rfl : 0 = n := Except.ok.inj h_end
    omega
  | pipe =>
    rw [h_descriptor] at h_end
    exact nomatch h_end
  | closed =>
    rw [h_descriptor] at h_end
    exact nomatch h_end

end Place.Sound

/-! ## Windows -/

/-- A mapping of a buffer for a region of it. -/
structure Window (k : Kernel) (buffer : SystemBuffer) (region : Rect) (access : Access)
    (mapping : BackendMapping) (memory : MemoryId) : Prop where
  descriptor : buffer.descriptor = .memory memory
  record : k.mappings.find? mapping.address.mapping = some ⟨memory, buffer.size, access⟩
  offset : mapping.address.offset = buffer.raster.start region.origin
  inside : region.EndsIn buffer.extent

/-- A buffer uses a mapping that a step of the run gave out for a region and an access. -/
structure MappedFor [PageSize] (steps : List BenchStep) (b : String) (region : Rect)
    (access : Access) (place : Place) (mapping : BackendMapping) : Prop where
  found : (run steps).buffers.find? b = some place
  uses : place.mapping = some mapping
  given : ∃ earlier later, steps = earlier ++ .map b region access :: later ∧
    (step (run earlier) (.map b region access)).1 = .mapped mapping

/-- As long as the mapping is in use, whatever steps follow, it shows the region. -/
theorem MappedFor.window [PageSize] (h : MappedFor steps b region access place mapping) :
    ∃ memory, Window (run steps).kernel place.buffer region access mapping memory := by
  obtain ⟨earlier, later, rfl, h_map⟩ := h.given
  obtain ⟨before, buffer, kernel, h_before, h_region, h_next⟩ := step_map_eq h_map
  obtain ⟨h_id, h_count, -, memory, h_descriptor, h_record⟩ := Kernel.map_spec h_region.whole
  have h_given : mapping.address.mapping < kernel.nextMapping := by
    rw [h_count, h_id]
    exact Nat.lt_succ_self _
  have h_found := h.found
  obtain ⟨memory', access', h_descriptor', h_record'⟩ :=
    ((sound_run _).places b place h_found).record h.uses
  rw [run_append] at h_found h_record' ⊢
  -- the mapping was new, so the buffer that uses it now is the one that was mapped
  have h_lasts := lasts_foldl ((run earlier).next (.map b region access)) later
  have h_same := place_before_foldl _ later h_found h.uses (h_next ▸ h_given)
  have h_record'' := h_lasts.mapping (h_next ▸ h_given) h_record'
  rw [h_next] at h_same h_record''
  obtain rfl := Option.some.inj (h_same.symm.trans (Table.find?_insert_self _ _ _))
  obtain rfl := h_region.after
  obtain rfl := congrArg MemoryMapping.access (Option.some.inj (h_record''.symm.trans h_record))
  exact ⟨memory', h_descriptor', h_record', h_region.offset, h_region.inside⟩

namespace Window

variable (h : Window k place.buffer region access mapping memory) (h_sound : place.Sound k)
  (h_memory : k.memories[memory]? = some m) (h_pixel : region.Has p)
include h h_pixel

/-- From the address of the mapping a part of a pixel is where it lies in the memory. -/
theorem offset_eq : mapping.address.offset + (place.buffer.raster.start (p.from region) + c) =
    place.buffer.raster.start p + c := by
  rw [h.offset, ← Nat.add_assoc, Raster.start_from _ h_pixel]

variable [PageSize]
include h_sound h_memory

/-- Every part of a pixel of the region can be touched. -/
theorem touchable (h_way : way ⊆ access) (h_part : c + count ≤ place.buffer.raster.pixel) :
    k.touchable mapping.address way (place.buffer.raster.start (p.from region) + c) count =
      .ok (⟨memory, place.buffer.size, access⟩, m) := by
  obtain ⟨m', h_memory', h_size⟩ := h_sound.memory_of h.descriptor
  obtain rfl := Option.some.inj (h_memory.symm.trans h_memory')
  have h_room : m.room place.buffer.size = place.buffer.size :=
    Nat.min_eq_left (Nat.le_trans h_size (Page.le_ceil _))
  have h_inside := h_sound.ample.pixel_inside (h.inside.has h_pixel)
  have h_start := h.offset_eq (c := c) h_pixel
  refine Kernel.touchable_eq_ok_iff.mpr ⟨h.record, h_memory, h_way, ?_⟩
  show _ ≤ m.room place.buffer.size - _
  rw [h_room]
  omega

theorem load (h_read : Access.read ⊆ access) (h_part : c + count ≤ place.buffer.raster.pixel) :
    k.load mapping.address (place.buffer.raster.start (p.from region) + c) count =
      .ok (m.read (place.buffer.raster.start p + c) count) := by
  rw [Kernel.load, h.touchable h_sound h_memory h_pixel h_read h_part, ← h.offset_eq h_pixel]
  rfl

theorem store (h_write : Access.write ⊆ access)
    (h_part : c + bytes.length ≤ place.buffer.raster.pixel) :
    k.store mapping.address (place.buffer.raster.start (p.from region) + c) bytes =
      .ok { k with
        memories := k.memories.set memory (m.write (place.buffer.raster.start p + c) bytes) } := by
  rw [Kernel.store, h.touchable h_sound h_memory h_pixel h_write h_part, ← h.offset_eq h_pixel]
  rfl

end Window

/-! ## Runs that spare bytes -/

/-- A step writes to no byte of a range of a memory. -/
def Spares (d : Descriptor) (i count : Nat) (s : State) (t : BenchStep) : Prop :=
  ∀ b offset bytes place mapping, t = .touch b (.write offset bytes) →
    s.buffers.find? b = some place → place.mapping = some mapping → place.buffer.descriptor = d →
      mapping.address.offset + offset + bytes.length ≤ i ∨
        i + count ≤ mapping.address.offset + offset

/-- Then the bytes stay as they are. -/
theorem read_next [PageSize] {i : Nat} (h_sound : s.Sound)
    (h_spares : Spares (.memory memory) i count s t)
    (h_memory : s.kernel.memories[memory]? = some m) :
    ∃ m' : Memory, (s.next t).kernel.memories[memory]? = some m' ∧
      m'.read i count = m.read i count := by
  rcases (next_transition s t).keeps with h_keeps | ⟨b, place, mapping, offset, bytes, h_touch,
    h_find, h_uses, h_store⟩
  · exact ⟨m, h_keeps.memory h_memory, rfl⟩
  -- a write goes to the memory of the buffer that is mapped
  obtain ⟨written, access, h_descriptor, h_record⟩ := (h_sound.places b place h_find).record h_uses
  obtain ⟨record, m', h_record', h_memory', h_kernel⟩ := Kernel.store_eq_ok h_store
  obtain rfl := Option.some.inj (h_record.symm.trans h_record')
  rw [h_kernel]
  show ∃ m'' : Memory, (s.kernel.memories.set _ _)[memory]? = some m'' ∧ _
  rw [Kernel.memory_set h_memory']
  by_cases h_same : memory = written
  · subst h_same
    obtain rfl := Option.some.inj (h_memory.symm.trans h_memory')
    rw [if_pos rfl]
    exact ⟨_, rfl, Memory.read_write_apart
      (h_spares b offset bytes place mapping h_touch h_find h_uses h_descriptor)⟩
  · rw [if_neg h_same]
    exact ⟨m, h_memory, rfl⟩

theorem read_foldl [PageSize] {i : Nat} (h_sound : s.Sound)
    (h_spares : Obeys State.next (Spares (.memory memory) i count) s steps)
    (h_memory : s.kernel.memories[memory]? = some m) :
    ∃ m' : Memory, (steps.foldl State.next s).kernel.memories[memory]? = some m' ∧
      m'.read i count = m.read i count := by
  -- carried along: the buffers are sound, and the bytes are the ones from the start
  have h_run := h_spares.invariant (I := fun s => s.Sound ∧ ∃ m' : Memory,
    s.kernel.memories[memory]? = some m' ∧ m'.read i count = m.read i count) ?_
    ⟨h_sound, m, h_memory, rfl⟩
  · exact h_run.2
  · rintro s t ⟨h_sound, m', h_memory', h_read⟩ h_spares
    obtain ⟨m'', h_memory'', h_read'⟩ := read_next h_sound h_spares h_memory'
    exact ⟨h_sound.transition (next_transition s t), m'', h_memory'', h_read'.trans h_read⟩

/-! ## Pixels of a run -/

/-- The bytes of a pixel, in the memory of a buffer. -/
def State.pixel? (s : State) (place : Place) (p : Pixel) : Option (List UInt8) :=
  (s.kernel.memory? place.buffer.descriptor).map
    (·.read (place.buffer.raster.start p) place.buffer.raster.pixel)

/-- Reads a part of a pixel through a mapping for a region. -/
def readPart (b : String) (place : Place) (region : Rect) (p : Pixel) (c count : Nat) : BenchStep :=
  .touch b (.read (place.buffer.raster.start (p.from region) + c) count)

/-- Writes a part of a pixel through a mapping for a region. -/
def writePart (b : String) (place : Place) (region : Rect) (p : Pixel) (c : Nat)
    (bytes : List UInt8) : BenchStep :=
  .touch b (.write (place.buffer.raster.start (p.from region) + c) bytes)

/-- Two buffers have rows and pixels of the same length on the same memory. -/
structure SharesRows (place other : Place) : Prop where
  descriptor : other.buffer.descriptor = place.buffer.descriptor
  raster : other.buffer.raster = place.buffer.raster

/-- What a part of a pixel that is written does. -/
structure WritesPart [PageSize] (steps : List BenchStep) (t : BenchStep) (place : Place) (p : Pixel)
    (c : Nat) (bytes : List UInt8) : Prop where
  answer : (step (run steps) t).1 = .touched .written
  /-- No other pixel changes, of any buffer with these rows on this memory or of any buffer on
      another memory. -/
  others : ∀ b other q, (run steps).buffers.find? b = some other → other.buffer.extent.Has q →
    (other.buffer.descriptor = place.buffer.descriptor → SharesRows place other ∧ q ≠ p) →
      ((run steps).next t).pixel? other q = (run steps).pixel? other q
  /-- The bytes are read through every mapping that shows the pixel, as long as they are not written
      again. -/
  readBack : ∀ later b region access other mapping,
    Obeys State.next (Spares place.buffer.descriptor (place.buffer.raster.start p + c) bytes.length)
      ((run steps).next t) later →
    MappedFor (steps ++ t :: later) b region access other mapping → SharesRows place other →
    Access.read ⊆ access → region.Has p →
      (step (run (steps ++ t :: later)) (readPart b other region p c bytes.length)).1 =
        .touched (.bytes bytes)

/-- What is true of the pixels of all buffers after some steps. -/
structure AddressesPixels [PageSize] (steps : List BenchStep) : Prop where
  /-- They lie inside their memories. -/
  inside : ∀ b place p, (run steps).buffers.find? b = some place → place.buffer.extent.Has p →
    ∃ m, (run steps).kernel.memory? place.buffer.descriptor = some m ∧
      place.buffer.raster.start p + place.buffer.raster.pixel ≤ m.size
  /-- They do not overlap. -/
  apart : ∀ b place p q, (run steps).buffers.find? b = some place → place.buffer.extent.Has p →
    place.buffer.extent.Has q → p ≠ q →
      place.buffer.raster.start p + place.buffer.raster.pixel ≤ place.buffer.raster.start q ∨
        place.buffer.raster.start q + place.buffer.raster.pixel ≤ place.buffer.raster.start p
  /-- They are read through mappings, -/
  reads : ∀ b region access place mapping p, MappedFor steps b region access place mapping →
    Access.read ⊆ access → region.Has p →
      ∃ bytes, (run steps).pixel? place p = some bytes ∧
        (step (run steps) (readPart b place region p 0 place.buffer.raster.pixel)).1 =
          .touched (.bytes bytes)
  /-- and written through mappings, in parts or as a whole. -/
  writes : ∀ b region access place mapping p c bytes,
    MappedFor steps b region access place mapping → Access.write ⊆ access → region.Has p →
    c + bytes.length ≤ place.buffer.raster.pixel →
      WritesPart steps (writePart b place region p c bytes) place p c bytes

theorem pixel?_of_memory (h_descriptor : place.buffer.descriptor = .memory memory) (s : State)
    (p : Pixel) : s.pixel? place p = s.kernel.memories[memory]?.map
      (·.read (place.buffer.raster.start p) place.buffer.raster.pixel) := by
  rw [State.pixel?, h_descriptor]
  rfl

/-- A touch of a buffer that is mapped is one of the memory at the mapping's address. -/
theorem step_touch_eq [PageSize] (h_find : s.buffers.find? b = some place)
    (h_uses : place.mapping = some mapping) (touch : Touch) :
    step s (.touch b touch) = (.touched (s.kernel.touch mapping.address touch).1,
      { s with kernel := (s.kernel.touch mapping.address touch).2 }) := by
  simp only [step, withMapping, withBuffer, h_find, h_uses]

section Mapped

variable [PageSize] (h_mapped : MappedFor steps b region access place mapping)
  (h_pixel : region.Has p)
include h_mapped h_pixel

/-- A part of a pixel is read where it lies in the memory. -/
theorem MappedFor.read_eq (h_read : Access.read ⊆ access)
    (h_descriptor : place.buffer.descriptor = .memory memory)
    (h_memory : (run steps).kernel.memories[memory]? = some m)
    (h_part : c + count ≤ place.buffer.raster.pixel) :
    (step (run steps) (readPart b place region p c count)).1 =
      .touched (.bytes (m.read (place.buffer.raster.start p + c) count)) := by
  obtain ⟨shown, h_window⟩ := h_mapped.window
  obtain rfl := Descriptor.memory.inj (h_descriptor.symm.trans h_window.descriptor)
  have h_sound := (sound_run steps).places b place h_mapped.found
  rw [readPart, step_touch_eq h_mapped.found h_mapped.uses, Kernel.touch,
    h_window.load h_sound h_memory h_pixel h_read h_part]

/-- It is written there. -/
theorem MappedFor.write_eq (h_write : Access.write ⊆ access)
    (h_descriptor : place.buffer.descriptor = .memory memory)
    (h_memory : (run steps).kernel.memories[memory]? = some m)
    (h_part : c + bytes.length ≤ place.buffer.raster.pixel) :
    (step (run steps) (writePart b place region p c bytes)).1 = .touched .written ∧
      (run steps).next (writePart b place region p c bytes) =
        { run steps with
          kernel := { (run steps).kernel with
            memories := (run steps).kernel.memories.set memory
              (m.write (place.buffer.raster.start p + c) bytes) } } := by
  obtain ⟨shown, h_window⟩ := h_mapped.window
  obtain rfl := Descriptor.memory.inj (h_descriptor.symm.trans h_window.descriptor)
  have h_sound := (sound_run steps).places b place h_mapped.found
  rw [State.next, writePart, step_touch_eq h_mapped.found h_mapped.uses, Kernel.touch,
    h_window.store h_sound h_memory h_pixel h_write h_part]
  exact ⟨rfl, rfl⟩

end Mapped

theorem writesPart [PageSize] (h_mapped : MappedFor steps b region access place mapping)
    (h_write : Access.write ⊆ access) (h_pixel : region.Has p)
    (h_part : c + bytes.length ≤ place.buffer.raster.pixel) :
    WritesPart steps (writePart b place region p c bytes) place p c bytes := by
  have h_sound := sound_run steps
  have h_place := h_sound.places b place h_mapped.found
  obtain ⟨memory, h_window⟩ := h_mapped.window
  obtain ⟨m, h_memory, -⟩ := h_place.memory_of h_window.descriptor
  have h_has : place.buffer.extent.Has p := h_window.inside.has h_pixel
  obtain ⟨h_answer, h_next⟩ := h_mapped.write_eq h_pixel h_write h_window.descriptor h_memory h_part
  have h_after : ∀ l, ((run steps).next (writePart b place region p c bytes)).kernel.memories[l]? =
      if l = memory then some (m.write (place.buffer.raster.start p + c) bytes)
      else (run steps).kernel.memories[l]? := by
    intro l
    rw [h_next]
    exact Kernel.memory_set h_memory l
  constructor
  · exact h_answer
  · -- what is written lies in one pixel, and each other one of these rows lies apart from that
    intro l other q h_find h_other h_apart
    obtain ⟨id, h_id⟩ := (h_sound.places l other h_find).memory_of_pixel h_other
    rw [pixel?_of_memory h_id, pixel?_of_memory h_id, h_after]
    by_cases h_same : id = memory
    · subst h_same
      obtain ⟨⟨-, h_raster⟩, h_ne⟩ := h_apart (h_id.trans h_window.descriptor.symm)
      have h_ends : place.buffer.raster.EndsInRow q :=
        h_raster ▸ (h_sound.places l other h_find).ample.endsInRow h_other
      have h_between := h_ends.apart (h_place.ample.endsInRow h_has) h_ne
      rw [if_pos rfl, h_memory, Option.map_some, Option.map_some, h_raster,
        Memory.read_write_apart (by omega)]
    · rw [if_neg h_same]
  · -- the later steps spare the bytes, and the other mapping reaches them at the same place
    intro later l region' access' other mapping' h_spares h_shown h_shares h_read h_pixel'
    rw [h_window.descriptor] at h_spares
    obtain ⟨m', h_memory', h_kept⟩ := read_foldl (h_sound.transition (next_transition _ _)) h_spares
      ((h_after memory).trans (if_pos rfl))
    rw [← run_append] at h_memory'
    have h_part' : c + bytes.length ≤ other.buffer.raster.pixel := h_shares.raster ▸ h_part
    rw [h_shown.read_eq h_pixel' h_read (h_shares.descriptor.trans h_window.descriptor) h_memory'
      h_part', h_shares.raster, h_kept, Memory.read_write_self]

/-- Whatever steps were made, the pixels of every buffer lie apart in its memory, and every mapping
    that shows a pixel reaches the same bytes. -/
theorem pixels_addressed [PageSize] (steps : List BenchStep) : AddressesPixels steps := by
  have h_sound := sound_run steps
  constructor
  · intro b place p h_find h_pixel
    have h_place := h_sound.places b place h_find
    obtain ⟨id, h_id⟩ := h_place.memory_of_pixel h_pixel
    obtain ⟨m, h_memory, h_size⟩ := h_place.memory_of h_id
    rw [h_id]
    exact ⟨m, h_memory, Nat.le_trans (h_place.ample.pixel_inside h_pixel) h_size⟩
  · intro b place p q h_find h_p h_q h_ne
    have h_ample := (h_sound.places b place h_find).ample
    exact (h_ample.endsInRow h_p).apart (h_ample.endsInRow h_q) h_ne
  · intro b region access place mapping p h_mapped h_read h_pixel
    obtain ⟨memory, h_window⟩ := h_mapped.window
    obtain ⟨m, h_memory, -⟩ :=
      (h_sound.places b place h_mapped.found).memory_of h_window.descriptor
    have h_whole : 0 + place.buffer.raster.pixel ≤ place.buffer.raster.pixel :=
      Nat.le_of_eq (Nat.zero_add _)
    refine ⟨_, ?_, h_mapped.read_eq h_pixel h_read h_window.descriptor h_memory h_whole⟩
    rw [pixel?_of_memory h_window.descriptor, h_memory]
    rfl
  · intro b region access place mapping p c bytes h_mapped h_write h_pixel h_part
    exact writesPart h_mapped h_write h_pixel h_part

set_option maxRecDepth 2000 in
/-- A pixel that lies in two regions is written through a mapping for one and read through a mapping
    of another buffer for the other. -/
example :
    let steps : List BenchStep := [.create "image" ⟨16, 16⟩ .rgb565, .exportTo "image" "fd",
      .importFrom "view" ⟨8, 12⟩ .rgb565 32 none (.named "fd"),
      .map "image" ⟨2, 3, 8, 8⟩ Access.readWrite, .touch "image" (.write (4 * 32 + 3 * 2) [90, 91]),
      .unmap "image", .map "view" ⟨5, 6, 3, 3⟩ Access.read]
    (step (run steps) (.touch "view" (.read (32 + 0 * 2) 2))).1 = .touched (.bytes [90, 91]) := by
  with_unfolding_all rfl

end Bench

end GraphicsBuffer
