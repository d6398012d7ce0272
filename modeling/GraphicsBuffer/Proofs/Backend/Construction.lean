/-
  GraphicsBuffer.Proofs.Backend.Construction

  Buffers however they come about. The rows of a buffer that is made hold its pixels, and its memory
  holds its rows; the same goes for a buffer on memory from elsewhere, and no call on buffers
  changes it (`run_ample`, `after_bare`). In one thing the two differ: what is made has pixels, but
  a description without pixels is taken, even for an empty memory, and such a buffer is never mapped
  (`constructed_stays_ample`, `empty_buffer_taken`).
-/

import GraphicsBuffer.Proofs.Backend.Admission
import GraphicsBuffer.Proofs.Backend.Image
import GraphicsBuffer.Proofs.World.Bare

namespace GraphicsBuffer

/-! ## Calls on buffers -/

/-- A call on a buffer that leaves it there. -/
inductive BufferCall where
  | map (region : Rect) (access : Access)
  | unmap (mapping : BackendMapping)
  | exportDescriptor

/-- The state that a call on a buffer leaves. -/
def BufferCall.run [PageSize] (s : SystemState) (id : BufferId) : BufferCall → SystemState
  | map region access => (systemBackend.map id region access s).2
  | unmap mapping => systemBackend.unmap id mapping s
  | exportDescriptor => (systemBackend.exportDescriptor id s).2

namespace SystemState

/-- The state that calls on buffers leave, one after another. -/
def after [PageSize] (s : SystemState) (calls : List (BufferId × BufferCall)) : SystemState :=
  calls.foldl (fun s call => call.2.run s call.1) s

variable {s s' : SystemState} {id : BufferId}

theorem SameExcept.bare? {l : BufferId} (h : SameExcept l s s') (h_ne : id ≠ l) :
    s'.bare? id = s.bare? id := by
  rw [SystemState.bare?, h id h_ne]
  rfl

/-- A call changes no more than the mapping of a buffer. -/
theorem call_bare [PageSize] (s : SystemState) (l id : BufferId) (call : BufferCall) :
    (call.run s l).bare? id = s.bare? id := by
  by_cases h_same : id = l
  · subst h_same
    cases call with
    | map region access => exact map_bare s id region access
    | unmap mapping => exact unmap_bare s id
    | exportDescriptor =>
      simp only [BufferCall.run, systemBackend]
      split <;> rfl
  · cases call with
    | map region access => exact (SameExcept.map s l region access).bare? h_same
    | unmap mapping => exact (SameExcept.unmap s l).bare? h_same
    | exportDescriptor =>
      simp only [BufferCall.run, systemBackend]
      split <;> rfl

/-- Nor does a sequence of calls. -/
theorem after_bare [PageSize] (s : SystemState) (id : BufferId)
    (calls : List (BufferId × BufferCall)) :
    (s.after calls).bare? id = s.bare? id := by
  induction calls generalizing s with
  | nil => rfl
  | cons call calls ih => exact (ih (call.2.run s call.1)).trans (call_bare s call.1 id call.2)

end SystemState

/-! ## Ways to a buffer -/

/-- What a buffer comes from. -/
inductive Construction where
  | create (size : Extent) (layout : FourCC) (flags : BindFlags)
  | importBuffer (request : ImportRequest)

namespace Construction

/-- The size that is asked for. -/
def size : Construction → Extent
  | create size _ _ => size
  | importBuffer request => request.size

/-- Asks for a buffer under a number. -/
def run [PageSize] (device : DeviceId) (id : BufferId) (s : SystemState) :
    Construction → Outcome Unit × SystemState
  | create size layout flags => systemBackend.create device id size layout flags s
  | importBuffer request => systemBackend.importBuffer device id request s

end Construction

/-- An image of this size has pixels. -/
def Extent.HasPixels (size : Extent) : Prop := 0 < size.width.toNat ∧ 0 < size.height.toNat

namespace SystemBuffer

variable {k k' : Kernel} {b : SystemBuffer} {size : Extent} {layout : FourCC}
  {request : ImportRequest}

/-- There is room in a buffer for its pixels. -/
structure Ample (b : SystemBuffer) : Prop where
  /-- A pixel takes some bytes, -/
  pixel : 0 < b.bytesPerPixel.toNat
  /-- the rows hold the pixels, -/
  rows : b.extent.width.toNat * b.bytesPerPixel.toNat ≤ b.stride.toNat
  /-- and the memory holds the rows. -/
  room : b.stride.toNat * b.extent.height.toNat ≤ b.size

/-- A buffer with room for pixels has some bytes, if there are pixels. -/
theorem Ample.size_pos (h : b.Ample) (h_pixels : b.extent.HasPixels) : 0 < b.size := by
  have h_row : 0 < b.stride.toNat :=
    Nat.lt_of_lt_of_le (Nat.mul_pos h_pixels.1 h.pixel) h.rows
  exact Nat.lt_of_lt_of_le (Nat.mul_pos h_row h_pixels.2) h.room

/-- A buffer that is made has room for its pixels, and has pixels. -/
theorem create_ample [PageSize] (h : create k size layout = .ok (b, k')) :
    b.Ample ∧ b.extent = size ∧ size.HasPixels ∧ b.mapping = none := by
  obtain ⟨h_sound, -, h_unmapped⟩ := create_spec h
  obtain ⟨bytes, h_layout, h_makeable, rfl, -⟩ := create_eq_ok_iff.mp h
  exact ⟨⟨FourCC.bytesPerPixel_pos h_layout, h_sound.rows, h_sound.room⟩, rfl,
    ⟨h_makeable.width, h_makeable.height⟩, h_unmapped⟩

/-- A buffer on memory from elsewhere has room for its pixels. -/
theorem ofRequest_ample [PageSize] (h : ofRequest k request = .ok b) :
    b.Ample ∧ b.extent = request.size ∧ b.mapping = none := by
  obtain ⟨h_sound, h_unmapped⟩ := ofRequest_spec h
  obtain ⟨d, length, bytes, -, h_layout, -, rfl⟩ := ofRequest_eq_ok_iff.mp h
  exact ⟨⟨FourCC.bytesPerPixel_pos h_layout, h_sound.rows, h_sound.room⟩, rfl, h_unmapped⟩

/-- The region of a whole buffer. -/
def whole (b : SystemBuffer) : Rect := (Corner.mk b.extent.width b.extent.height).fromOrigin

/-- All of a buffer without a mapping is mapped if it has some bytes and the kernel grants them. -/
theorem map_whole_iff (h_unmapped : b.mapping = none) {access : Access} (h_access : access ≠ ∅) :
    (∃ answer, b.map k b.whole access = .ok answer) ↔
      0 < b.size ∧ ∃ memory, k.mappable b.descriptor b.size access = .ok memory := by
  simp only [whole, map_corner h_unmapped, fits_whole, if_true]
  constructor
  · rintro ⟨answer, h_answer⟩
    rcases h_map : k.map b.descriptor b.size access with e | ⟨id, k'⟩
    · rw [h_map] at h_answer
      exact nomatch h_answer
    · unfold Kernel.map at h_map
      split at h_map
      · exact nomatch h_map
      split at h_map
      · exact nomatch h_map
      next h_size =>
      split at h_map
      · exact nomatch h_map
      next memory h_granted => exact ⟨Nat.pos_of_ne_zero h_size, memory, h_granted⟩
  · rintro ⟨h_size, memory, h_granted⟩
    obtain ⟨k', h_map⟩ := Kernel.map_granted h_access (Nat.ne_of_gt h_size) h_granted
    rw [h_map]
    exact ⟨_, rfl⟩

end SystemBuffer

section Constructed

variable {device : DeviceId} {id : BufferId} {s s' : SystemState}

/-- A buffer is mapped in a state as it is by itself. -/
theorem SystemState.map_isOk_iff [PageSize] {b : SystemBuffer}
    (h_find : s.buffers.find? id = some b) (region : Rect) (access : Access) :
    (∃ mapping, (systemBackend.map id region access s).1 = .ok mapping) ↔
      ∃ answer, b.map s.kernel region access = .ok answer := by
  simp only [systemBackend, SystemState.map, h_find]
  rcases b.map s.kernel region access with f | answer
  · constructor
    · rintro ⟨_, ⟨⟩⟩
    · rintro ⟨_, ⟨⟩⟩
  · exact ⟨fun _ => ⟨_, rfl⟩, fun _ => ⟨_, rfl⟩⟩

theorem SystemState.add_ok {made : Outcome (SystemBuffer × Kernel)}
    (h_add : s.add id made = (.ok (), s')) :
    ∃ b kernel, made = .ok (b, kernel) ∧ s'.buffers.find? id = some b := by
  rcases made with f | ⟨b, kernel⟩
  · exact nomatch (Prod.mk.inj h_add).1
  · obtain ⟨-, rfl⟩ := Prod.mk.inj h_add
    exact ⟨b, kernel, rfl, Table.find?_insert_self _ _ _⟩

/-- Whichever way a buffer came about, it has room for its pixels. -/
theorem Construction.run_ample [PageSize] {construction : Construction}
    (h : construction.run device id s = (.ok (), s')) :
    ∃ b, s'.buffers.find? id = some b ∧ b.Ample ∧ b.extent = construction.size ∧
      b.mapping = none ∧
      ∀ size layout flags, construction = .create size layout flags → size.HasPixels := by
  cases construction with
  | create size layout flags =>
    obtain ⟨b, kernel, h_made, h_find⟩ := SystemState.add_ok h
    obtain ⟨h_ample, h_extent, h_pixels, h_unmapped⟩ := SystemBuffer.create_ample h_made
    refine ⟨b, h_find, h_ample, h_extent, h_unmapped, ?_⟩
    rintro _ _ _ ⟨⟩
    exact h_pixels
  | importBuffer request =>
    obtain ⟨b, kernel, h_made, h_find⟩ := SystemState.add_ok h
    obtain ⟨h_request, -⟩ := SystemBuffer.ofRequest_of_map h_made
    obtain ⟨h_ample, h_extent, h_unmapped⟩ := SystemBuffer.ofRequest_ample h_request
    exact ⟨b, h_find, h_ample, h_extent, h_unmapped, nofun⟩

/-- A buffer has room for its pixels whichever way it came about and whatever calls followed. It has
    pixels, and bytes for them, if pixels were asked for, as they were if it was made. All of it can
    be mapped for reading, while no mapping is in use, if it has bytes at all and the kernel grants
    them. -/
theorem constructed_stays_ample [PageSize] {construction : Construction}
    (h : construction.run device id s = (.ok (), s')) (calls : List (BufferId × BufferCall)) :
    ∃ b, (s'.after calls).buffers.find? id = some b ∧ b.Ample ∧
      (b.extent.HasPixels ∧ 0 < b.size ↔ construction.size.HasPixels) ∧
      (∀ size layout flags, construction = .create size layout flags →
        construction.size.HasPixels) ∧
      (b.mapping = none →
        ((∃ mapping, (systemBackend.map id b.whole Access.read (s'.after calls)).1 = .ok mapping) ↔
          0 < b.size ∧ ∃ memory,
            (s'.after calls).kernel.mappable b.descriptor b.size Access.read = .ok memory)) := by
  obtain ⟨made, h_made, h_ample, h_extent, -, h_pixels⟩ := Construction.run_ample h
  -- the calls leave all of the buffer but its mapping
  have h_bare := (SystemState.after_bare s' id calls).trans (SystemState.bare?_of_find? h_made)
  obtain ⟨b, h_find, h_same⟩ := Option.map_eq_some_iff.mp h_bare
  have h_b : b.unmapped.Ample ∧ b.unmapped.extent = construction.size := by
    rw [h_same]
    exact ⟨⟨h_ample.pixel, h_ample.rows, h_ample.room⟩, h_extent⟩
  obtain ⟨h_room, h_size⟩ := h_b
  have h_ample' : b.Ample := ⟨h_room.pixel, h_room.rows, h_room.room⟩
  refine ⟨b, h_find, h_ample', ?_, ?_, fun h_unmapped => ?_⟩
  · rw [← h_size]
    exact ⟨And.left, fun h_has => ⟨h_has, h_ample'.size_pos h_has⟩⟩
  · rintro size layout flags rfl
    exact h_pixels size layout flags rfl
  · rw [SystemState.map_isOk_iff h_find]
    exact SystemBuffer.map_whole_iff h_unmapped (by decide)

end Constructed

/-- The image in rows of 100 bytes that is taken for two pages, after it was mapped and unmapped. -/
theorem constructed_stays_ample_two_pages :
    let request : ImportRequest := ⟨⟨25, 41⟩, .abgr8888, some (.memory 0), 100, none⟩
    ∃ taken, (Construction.importBuffer request).run 0 7 (.onMemory 8192) = (.ok (), taken) ∧
      ∃ b, (taken.after [(7, .map ⟨0, 0, 25, 41⟩ Access.read),
        (7, .unmap ⟨⟨1, 0⟩, 100⟩)]).buffers.find? 7 = some b ∧ b.Ample ∧ 0 < b.size := by
  intro request
  have h_measured : request.Measured (SystemState.onMemory 8192).kernel (.memory 0) 8192 :=
    ⟨rfl, rfl, rfl⟩
  have h_layout : request.layout.bytesPerPixel = .ok 4 := rfl
  have h_fits : request.Fits (4 : UInt32).toNat 8192 := ⟨by decide, by decide, by decide⟩
  have h_taken : (Construction.importBuffer request).run 0 7 (.onMemory 8192) = _ :=
    importBuffer_of_fits 0 7 request _ h_measured h_layout h_fits
  obtain ⟨b, h_find, h_ample, h_pixels, -⟩ := constructed_stays_ample h_taken
    [(7, .map ⟨0, 0, 25, 41⟩ Access.read), (7, .unmap ⟨⟨1, 0⟩, 100⟩)]
  exact ⟨_, h_taken, b, h_find, h_ample, (h_pixels.mpr ⟨by decide, by decide⟩).2⟩

/-- An image without rows is taken for an empty memory. The buffer has no bytes, so it is not
    mapped, and no buffer is ever made for an image of this size. -/
theorem empty_buffer_taken :
    let request : ImportRequest := ⟨⟨16, 0⟩, .abgr8888, some (.memory 0), 64, none⟩
    let taken := ((Construction.importBuffer request).run 0 7 (.onMemory 0)).2
    (Construction.importBuffer request).run 0 7 (.onMemory 0) = (.ok (), taken) ∧
      (∃ b, taken.buffers.find? 7 = some b ∧ b.extent.height = 0 ∧ b.size = 0 ∧ b.mapping = none ∧
        (systemBackend.map 7 b.whole Access.read taken).1 =
          .error (.error (.invalidMapping .zeroSize))) ∧
      ((Construction.create request.size request.layout ∅).run 0 8 taken).1 =
        .error (.error (.invalidMapping .zeroSizedBuffer)) :=
  ⟨rfl, ⟨_, rfl, rfl, rfl, rfl, rfl⟩, rfl⟩

end GraphicsBuffer
