/-
  GraphicsBuffer.Proofs.Backend.Image

  Buffers and the images in them. A buffer that the allocator on shared memory makes for a handle is
  as large as the stored image, its rows are as long as the handle says, and it is not empty. It can
  then be mapped up to any corner inside it, if the kernel grants that.
-/

import GraphicsBuffer.Proofs.Backend.Memory
import GraphicsBuffer.Proofs.PixelFormat

namespace GraphicsBuffer

/-! ## The kernel -/

/-- Every usage asks for some access. -/
theorem Usage.access_ne_empty (u : Usage) : u.access ≠ ∅ := by
  unfold access
  split <;> decide

namespace Kernel

variable {k : Kernel} {d : Descriptor} {length : Nat} {access : Access}

/-- A mapping that the kernel grants is made; it gets the next number. -/
theorem map_granted {memory : MemoryId} (h_access : access ≠ ∅) (h_length : length ≠ 0)
    (h_granted : k.mappable d length access = .ok memory) :
    ∃ k', k.map d length access = .ok (k.nextMapping, k') := by
  simp only [map, if_neg h_access, if_neg h_length, h_granted]
  exact ⟨_, rfl⟩

theorem map_refused {e : Errno} (h_access : access ≠ ∅) (h_length : length ≠ 0)
    (h_refused : k.mappable d length access = .error e) :
    k.map d length access = .error (.system e) := by
  simp only [map, if_neg h_access, if_neg h_length, h_refused]

end Kernel

/-! ## Buffers -/

/-- Every layout that is known has pixels of some bytes. -/
theorem FourCC.bytesPerPixel_pos {layout : FourCC} {n : UInt32}
    (h_layout : layout.bytesPerPixel = .ok n) : 0 < n.toNat := by
  unfold bytesPerPixel at h_layout
  split at h_layout
  · obtain rfl := Except.ok.inj h_layout
    decide
  split at h_layout
  · obtain rfl := Except.ok.inj h_layout
    decide
  split at h_layout
  · obtain rfl := Except.ok.inj h_layout
    decide
  · exact nomatch h_layout

namespace SystemBuffer

variable {k k' : Kernel} {b : SystemBuffer} {size : Extent} {layout : FourCC} {h : Handle}

/-- A buffer is as large as the stored image of a handle, and its rows are as long as the handle
    says. -/
structure Holds (b : SystemBuffer) (h : Handle) : Prop where
  extent : h.format.physicalExtent h.size = .ok b.extent
  stride : b.stride = h.stride

/-- No buffer is made for an image without pixels. -/
theorem create_sides [PageSize] (h_made : create k size layout = .ok (b, k')) :
    0 < size.width.toNat ∧ 0 < size.height.toNat := by
  obtain ⟨bytes, -, h_makeable, -⟩ := create_eq_ok_iff.mp h_made
  exact ⟨h_makeable.width, h_makeable.height⟩

/-- The memory of a buffer that has just been made holds at least one row of pixels. -/
theorem Made.size_pos [PageSize] (h_made : Made k size layout b k') (h_width : 0 < size.width.toNat)
    (h_height : 0 < size.height.toNat) : 0 < b.size := by
  obtain ⟨bytes, h_bytes, h_size⟩ := h_made.room
  have h_pixel : 0 < b.bytesPerPixel.toNat := FourCC.bytesPerPixel_pos h_made.bytesPerPixel
  have h_stride : b.stride.toNat = size.width.toNat * b.bytesPerPixel.toNat :=
    (Arithmetic.mul32_eq_ok_iff.mp h_made.stride).2
  have h_rows : b.stride.toNat * size.height.toNat ≤ bytes.toNat := le_bufferSize h_bytes
  have h_pos : 0 < b.stride.toNat * size.height.toNat := by
    rw [h_stride]
    exact Nat.mul_pos (Nat.mul_pos h_width h_pixel) h_height
  omega

/-- A buffer without a mapping is mapped up to a corner if the corner fits the buffer and the kernel
    maps its memory. -/
theorem map_corner (h_unmapped : b.mapping = none) (corner : Corner) (access : Access) :
    b.map k corner.fromOrigin access =
      if corner.fits b.extent then
        match k.map b.descriptor b.size access with
        | .error e => .error (.error e)
        | .ok (id, k') => .ok (⟨⟨id, 0⟩, b.stride⟩, { b with mapping := some id }, k')
      else .error (.error (.invalidMapping .outsideBuffer)) := by
  have h_start : b.offsetOf 0 0 = 0 := by
    simp only [offsetOf, UInt32.toNat_zero, Nat.zero_mul]
  rcases h_map : k.map b.descriptor b.size access with e | ⟨id, k'⟩ <;>
    simp only [SystemBuffer.map, h_unmapped, Option.isSome_none, Bool.false_eq_true, if_false,
      Corner.fromOrigin, Arithmetic.zero_add32, h_start, h_map]

/-- The corner of the whole buffer fits. -/
theorem fits_whole (size : Extent) : (Corner.mk size.width size.height).fits size = true := by
  simp only [Corner.fits, UInt32.le_refl, decide_true, Bool.and_self]

end SystemBuffer

namespace BufferObject

variable {env env' : Env SystemState} {h h' : Handle} {o : BufferObject} {device : DeviceId}

/-- An image that a buffer is made for has pixels. -/
theorem allocate_sides [PageSize] {layout : FourCC} {size : Extent}
    (h_call : allocate systemBackend device h env = (.ok (o, h'), env'))
    (h_storage : storage h = .ok (layout, size)) :
    0 < size.width.toNat ∧ 0 < size.height.toNat := by
  have h_outcome := h_call ▸ allocate_outcome systemBackend device h env
  cases h_outcome with
  | allocated h_stored h_create h_export =>
    obtain ⟨rfl, rfl⟩ := Prod.mk.inj (Except.ok.inj (h_storage.symm.trans h_stored))
    obtain ⟨-, -, ⟨f, h_error, -⟩ | ⟨-, -, h_ok⟩⟩ := Env.create_spec h_create
    · cases h_error
    rcases h_new : SystemBuffer.create env.devices.kernel size layout with f | ⟨b, kernel⟩
    · simp only [systemBackend, Env.note, h_new] at h_ok
      cases h_ok
    · exact SystemBuffer.create_sides h_new

/-- The buffer that is made for a handle holds its image. It is not empty, and not mapped. -/
theorem allocate_holds [PageSize]
    (h_call : allocate systemBackend device h env = (.ok (o, h'), env')) :
    ∃ b, env'.devices.buffers.find? env.nextBuffer = some b ∧ b.Holds h' ∧
      h'.descriptor = some b.descriptor ∧ b.mapping = none ∧ 0 < b.size := by
  obtain ⟨layout, size, b, h_storage, h_made, h_same, h_buffers, -⟩ := allocate_made h_call
  obtain ⟨h_width, h_height⟩ := allocate_sides h_call h_storage
  subst h_same
  refine ⟨b, ?_, ⟨?_, rfl⟩, rfl, h_made.unmapped, h_made.size_pos h_width h_height⟩
  · rw [h_buffers]
    exact Table.find?_insert_self _ _ _
  · rw [h_made.extent]
    exact (storage_eq_ok_iff.mp h_storage).2

end BufferObject

end GraphicsBuffer
