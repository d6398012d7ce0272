/-
  GraphicsBuffer.Proofs.World.Creation

  Which images the allocator on shared memory makes room for, and how much room. An image can be
  stored if its format has a layout and its folded size passes some bounds in unbounded numbers.
  Then a buffer is created whose rows and memory are as short as can be; for all other images one of
  three errors says why not (`creates_exactly`). How the rows of a folded planar image compare with
  its planes depends on its width alone: an odd width is short of one byte in each row of luma
  (`planar_rows`).
-/

import GraphicsBuffer.Proofs.Backend.Admission
import GraphicsBuffer.Proofs.Backend.Memory
import GraphicsBuffer.Proofs.PixelFormat
import GraphicsBuffer.Proofs.World.Registration
import Mathlib.Tactic.Ring

namespace GraphicsBuffer

open SystemBuffer (Makeable tight memoryName)

/-! ## Images that can be stored -/

namespace PixelFormat

/-- An image can be stored, in a layout with pixels of some bytes. -/
structure Storable [PageSize] (f : PixelFormat) (size : Extent) (layout : FourCC) (bytes : UInt32) :
    Prop where
  known : f.fourCC? = some layout
  pixel : layout.bytesPerPixel = .ok bytes
  width : 0 < f.storedWidth size.width
  height : 0 < f.storedHeight size.height
  /-- The height of the folded image fits a word, as its width always does, -/
  countable : f.storedHeight size.height < 2 ^ 32
  /-- a row of it fits a word, -/
  row : f.storedWidth size.width * bytes.toNat < 2 ^ 32
  /-- and all rows, in whole pages, fit a signed word of 64 bits. -/
  memory : Page.ceil (f.storedWidth size.width * bytes.toNat * f.storedHeight size.height) < 2 ^ 63

variable {f : PixelFormat} {size stored : Extent} {layout : FourCC} {bytes : UInt32}

/-- The folded image has a size unless its height does not fit. -/
theorem physicalExtent_of_countable (h : f.storedHeight size.height < 2 ^ 32) :
    ∃ stored, f.physicalExtent size = .ok stored := by
  rcases h_stored : f.physicalExtent size with e | stored
  · exact absurd (physicalExtent_eq_error_iff.mp h_stored).1 (Nat.not_le.mpr h)
  · exact ⟨stored, rfl⟩

/-- Only planes can have more rows together than fit a word. -/
theorem planar_of_uncountable (h : 2 ^ 32 ≤ f.storedHeight size.height) : f.planar = true := by
  by_contra h_planar
  rw [storedHeight, if_neg h_planar] at h
  exact absurd size.height.toNat_lt (Nat.not_lt.mpr h)

/-- An image can be stored if a buffer can be made for the folded one. -/
theorem storable_iff [PageSize] (h_stored : f.physicalExtent size = .ok stored) :
    f.Storable size layout bytes ↔
      f.fourCC? = some layout ∧ layout.bytesPerPixel = .ok bytes ∧ Makeable stored bytes.toNat := by
  obtain ⟨h_width, h_height⟩ := physicalExtent_eq_ok_iff.mp h_stored
  have h_fits := stored.height.toNat_lt
  constructor
  · intro h
    refine ⟨h.known, h.pixel, ?_⟩
    constructor
    · exact h_width ▸ h.width
    · exact h_height ▸ h.height
    · exact h_width ▸ h.row
    · rw [h_width, h_height]
      exact h.memory
  · rintro ⟨h_known, h_pixel, h_makeable⟩
    have h_memory := h_makeable.memory
    rw [h_width, h_height] at h_memory
    exact ⟨h_known, h_pixel, h_width ▸ h_makeable.width, h_height ▸ h_makeable.height,
      h_height ▸ h_fits, h_width ▸ h_makeable.row, h_memory⟩

/-- A row of the stored image is as long as its pixels. -/
theorem Storable.stride_toNat [PageSize] (h : f.Storable size layout bytes)
    (h_stored : f.physicalExtent size = .ok stored) :
    (stored.width * bytes).toNat = f.storedWidth size.width * bytes.toNat := by
  obtain ⟨-, -, h_makeable⟩ := (storable_iff h_stored).mp h
  rw [(Arithmetic.mul32_of_lt "width" "bytes_per_pixel" h_makeable.row).2,
    (physicalExtent_eq_ok_iff.mp h_stored).1]

end PixelFormat

/-! ## Creating -/

namespace World

variable {w w' : World SystemState} {m : ManagerId} {manager : Manager} {size : Extent}
  {format : PixelFormat} {usage : Usage} {layout : FourCC} {bytes : UInt32} {handle : Handle}

/-- What an allocation is given for a new handle. -/
theorem storage_new (usage : Usage) {stored : Extent} (h_known : format.fourCC? = some layout)
    (h_stored : format.physicalExtent size = .ok stored) :
    BufferObject.storage (Handle.new size format usage) = .ok (layout, stored) :=
  BufferObject.storage_eq_ok_iff.mpr ⟨PixelFormat.fourCC_eq_ok_iff.mpr h_known, h_stored⟩

section Manager

variable [PageSize] (h_manager : w.manager? m = some manager)
include h_manager

/-- For an image that can be stored a buffer is created on a new memory, as short as can be. The
    handle stands for it under the next key. -/
theorem create_of_storable (usage : Usage) (h_storable : format.Storable size layout bytes) :
    ∃ stored w', format.physicalExtent size = .ok stored ∧
      w.create systemBackend m size format usage = (.ok { Handle.new size format usage with
        descriptor := some (.memory w.env.devices.kernel.memories.length)
        stride := stored.width * bytes
        registration := some w.nextKey }, w') ∧
      w'.env.devices.buffers.find? w.env.nextBuffer =
        some (tight w.env.devices.kernel stored bytes) ∧
      w'.env.devices.kernel.memories = w.env.devices.kernel.memories ++
        [⟨memoryName, (tight w.env.devices.kernel stored bytes).size, false, fun _ => 0⟩] := by
  obtain ⟨stored, h_stored⟩ := PixelFormat.physicalExtent_of_countable h_storable.countable
  obtain ⟨h_known, h_pixel, h_makeable⟩ := (PixelFormat.storable_iff h_stored).mp h_storable
  have h_made := SystemBuffer.create_of_makeable w.env.devices.kernel h_pixel h_makeable
  obtain ⟨env, h_call, h_devices⟩ := BufferObject.allocate_of_made m w.env
    (storage_new usage h_known h_stored) h_made
  refine ⟨stored, _, h_stored, create_of_allocated systemBackend h_manager h_call, ?_, ?_⟩
  · show env.devices.buffers.find? w.env.nextBuffer = _
    rw [h_devices]
    exact Table.find?_insert_self _ _ _
  · show env.devices.kernel.memories = _
    rw [h_devices]
    rfl

/-- Nothing is created without a layout and a size to ask the backend for. -/
theorem create_of_no_storage {e : Error}
    (h_storage : BufferObject.storage (Handle.new size format usage) = .error e) :
    (w.create systemBackend m size format usage).1 = .error (.error e) := by
  rw [create_of_failed systemBackend h_manager
    (BufferObject.allocate_of_no_storage systemBackend m w.env h_storage)]

/-- So nothing is created for a format without a layout, -/
theorem create_of_unknown (size : Extent) (usage : Usage) (h_unknown : format.fourCC? = none) :
    (w.create systemBackend m size format usage).1 =
      .error (.error (.unsupportedFormat format.code)) := by
  refine create_of_no_storage h_manager ?_
  simp only [BufferObject.storage, BufferObject.storageOf, Handle.new, PixelFormat.fourCC,
    h_unknown]

/-- nor for an image whose planes have too many rows together, -/
theorem create_of_uncountable (usage : Usage) (h_known : format.fourCC? = some layout)
    (h_high : 2 ^ 32 ≤ format.storedHeight size.height) :
    (w.create systemBackend m size format usage).1 =
      .error (.error (Arithmetic.overflow "height" size.height.toNat .add "chroma_height"
        (size.height.toNat / 2))) := by
  have h_extent := PixelFormat.physicalExtent_eq_error_iff.mpr ⟨h_high, rfl⟩
  have h_size : (Handle.new size format usage).size = size := rfl
  refine create_of_no_storage h_manager ?_
  rw [BufferObject.storage, h_size]
  simp only [BufferObject.storageOf, Handle.new, PixelFormat.fourCC, h_known, h_extent]

/-- nor for any other image that cannot be stored. The error names what was asked for. -/
theorem create_of_not_storable (usage : Usage) (h_known : format.fourCC? = some layout)
    (h_countable : format.storedHeight size.height < 2 ^ 32)
    (h_not : ∀ bytes, ¬format.Storable size layout bytes) :
    (w.create systemBackend m size format usage).1 =
      .error (.error (.allocationFailed size format.code usage.bits)) := by
  obtain ⟨stored, h_stored⟩ := PixelFormat.physicalExtent_of_countable h_countable
  obtain ⟨bytes, h_pixel⟩ := PixelFormat.bytesPerPixel_of_fourCC? h_known
  have h_makeable : ¬Makeable stored bytes.toNat := fun h_makeable =>
    h_not bytes ((PixelFormat.storable_iff h_stored).mpr ⟨h_known, h_pixel, h_makeable⟩)
  obtain ⟨e, h_made⟩ := SystemBuffer.create_of_not_makeable (k := w.env.devices.kernel) h_pixel
    h_makeable
  obtain ⟨env, h_call, -⟩ := BufferObject.allocate_of_not_made m w.env
    (storage_new usage h_known h_stored) h_made
  rw [create_of_failed systemBackend h_manager h_call]
  rfl

/-- So an image that cannot be stored is refused, with an error of one status. -/
theorem create_refused (usage : Usage)
    (h_not : ¬∃ layout bytes, format.Storable size layout bytes) :
    ∃ e : Error, (w.create systemBackend m size format usage).1 = .error (.error e) ∧
      e.status = .allocationFailed := by
  rcases h_known : format.fourCC? with _ | layout
  · exact ⟨_, create_of_unknown h_manager size usage h_known, rfl⟩
  rcases Nat.lt_or_ge (format.storedHeight size.height) (2 ^ 32) with h_countable | h_high
  · have h_layout : ∀ bytes, ¬format.Storable size layout bytes := fun bytes h_storable =>
      h_not ⟨layout, bytes, h_storable⟩
    exact ⟨_, create_of_not_storable h_manager usage h_known h_countable h_layout, rfl⟩
  · exact ⟨_, create_of_uncountable h_manager usage h_known h_high, rfl⟩

theorem create_isOk_iff (usage : Usage) :
    (∃ handle, (w.create systemBackend m size format usage).1 = .ok handle) ↔
      ∃ layout bytes, format.Storable size layout bytes := by
  constructor
  · rintro ⟨handle, h_ok⟩
    by_contra h_not
    obtain ⟨e, h_error, -⟩ := create_refused h_manager usage h_not
    exact nomatch h_ok.symm.trans h_error
  · rintro ⟨layout, bytes, h_storable⟩
    obtain ⟨stored, w', -, h_create, -⟩ := create_of_storable h_manager usage h_storable
    exact ⟨_, congrArg Prod.fst h_create⟩

end Manager

/-- What creating a buffer does on the allocator on shared memory, for an image of any size, format
    and usage. -/
structure CreatesExactly [PageSize] (w : World SystemState) (m : ManagerId) (size : Extent)
    (format : PixelFormat) (usage : Usage) : Prop where
  /-- It succeeds exactly if the image can be stored. -/
  created_iff : (∃ handle, (w.create systemBackend m size format usage).1 = .ok handle) ↔
    ∃ layout bytes, format.Storable size layout bytes
  /-- Then the rows are as long as the pixels of the folded image, no modifier is reported, and the
      new memory is as long as the rows, in whole pages. -/
  created : ∀ layout bytes handle w', format.Storable size layout bytes →
    w.create systemBackend m size format usage = (.ok handle, w') →
      handle.stride.toNat = format.storedWidth size.width * bytes.toNat ∧
      handle.modifier = none ∧
      handle.descriptor = some (.memory w.env.devices.kernel.memories.length) ∧
      w'.env.devices.kernel.memories = w.env.devices.kernel.memories ++ [⟨memoryName, Page.ceil
        (format.storedWidth size.width * bytes.toNat * format.storedHeight size.height), false,
        fun _ => 0⟩]
  /-- The first thing that can be wrong is the format, -/
  unsupported : format.fourCC? = none → (w.create systemBackend m size format usage).1 =
    .error (.error (.unsupportedFormat format.code))
  /-- the second the height of a planar image, -/
  uncountable : format.fourCC? ≠ none → 2 ^ 32 ≤ format.storedHeight size.height →
    format.planar = true ∧ (w.create systemBackend m size format usage).1 =
      .error (.error (.arithmetic ⟨⟨"height", size.height.toNat⟩, .add,
        ⟨"chroma_height", size.height.toNat / 2⟩⟩))
  /-- and whatever else is wrong, the error names what was asked for. -/
  failed : format.fourCC? ≠ none → format.storedHeight size.height < 2 ^ 32 →
    (¬∃ layout bytes, format.Storable size layout bytes) →
    (w.create systemBackend m size format usage).1 =
      .error (.error (.allocationFailed size format.code usage.bits))
  /-- All errors have one status, and nothing aborts. -/
  status : ∀ f, (w.create systemBackend m size format usage).1 = .error f →
    ∃ e : Error, f = .error e ∧ e.status = .allocationFailed

/-- In every manager a buffer is created exactly for the images that can be stored. -/
theorem creates_exactly [PageSize] (h_manager : w.manager? m = some manager) (size : Extent)
    (format : PixelFormat) (usage : Usage) : CreatesExactly w m size format usage where
  created_iff := create_isOk_iff h_manager usage
  created layout bytes handle w' h_storable h_ok := by
    obtain ⟨stored, w'', h_stored, h_create, -, h_memories⟩ :=
      create_of_storable h_manager usage h_storable
    obtain ⟨h_handle, rfl⟩ := Prod.mk.inj (h_create.symm.trans h_ok)
    obtain rfl := Except.ok.inj h_handle
    obtain ⟨h_width, h_height⟩ := PixelFormat.physicalExtent_eq_ok_iff.mp h_stored
    rw [tight, h_width, h_height] at h_memories
    exact ⟨h_storable.stride_toNat h_stored, rfl, rfl, h_memories⟩
  unsupported := create_of_unknown h_manager size usage
  uncountable h_known h_high := by
    obtain ⟨layout, h_known⟩ := Option.ne_none_iff_exists'.mp h_known
    exact ⟨PixelFormat.planar_of_uncountable h_high,
      create_of_uncountable h_manager usage h_known h_high⟩
  failed h_known h_countable h_not := by
    obtain ⟨layout, h_known⟩ := Option.ne_none_iff_exists'.mp h_known
    exact create_of_not_storable h_manager usage h_known h_countable fun bytes h_storable =>
      h_not ⟨layout, bytes, h_storable⟩
  status f h_error := by
    have h_not : ¬∃ layout bytes, format.Storable size layout bytes := by
      intro h_storable
      obtain ⟨handle, h_ok⟩ := (create_isOk_iff h_manager usage).mpr h_storable
      exact nomatch h_error.symm.trans h_ok
    obtain ⟨e, h_answer, h_status⟩ := create_refused h_manager usage h_not
    exact ⟨e, Except.error.inj (h_error.symm.trans h_answer), h_status⟩

/-- In rows of 2 ^ 32 - 4 bytes there is an image whose rows end just below 2 ^ 63. One row more
    would still do so, but not the page in which it ends. -/
theorem creates_exactly_below_limit :
    let w := World.start systemBackend {} [.full]
    w.manager? 0 = some ⟨.full, ∅⟩ ∧
      (∃ handle, (w.create systemBackend 0 ⟨0x3fffffff, 0x80000001⟩ .rgba8888 .texture).1 =
        .ok handle) ∧
      (w.create systemBackend 0 ⟨0x3fffffff, 0x80000002⟩ .rgba8888 .texture).1 =
        .error (.error (.allocationFailed ⟨0x3fffffff, 0x80000002⟩ 1 0x100)) := by
  intro w
  have h_manager : w.manager? 0 = some ⟨.full, ∅⟩ := rfl
  refine ⟨h_manager, ?_, ?_⟩
  · refine (creates_exactly h_manager ⟨0x3fffffff, 0x80000001⟩ .rgba8888 .texture).created_iff.mpr
      ⟨FourCC.abgr8888, 4, ?_⟩
    constructor <;> decide
  · refine (creates_exactly h_manager ⟨0x3fffffff, 0x80000002⟩ .rgba8888 .texture).failed
      (by decide) (by decide) ?_
    rintro ⟨layout, bytes, h_storable⟩
    have h_known : some FourCC.abgr8888 = some layout := h_storable.known
    obtain rfl := Option.some.inj h_known
    have h_pixel : Except.ok 4 = Except.ok bytes := h_storable.pixel
    obtain rfl := Except.ok.inj h_pixel
    exact absurd h_storable.memory (by decide)

/-! ## Planar images -/

/-- The bytes of a plane of luma and two planes of chroma, a byte for each sample. -/
def planarBytes (size : Extent) : Nat :=
  size.width.toNat * size.height.toNat + 2 * (size.width.toNat / 2) * (size.height.toNat / 2)

/-- Planes folded into rows of two-byte texels. A width that is odd loses a byte in each row of
    luma. -/
theorem folded_bytes (width height : Nat) :
    width / 2 * 2 * (height + height / 2) + width % 2 * height =
      width * height + 2 * (width / 2) * (height / 2) := by
  calc width / 2 * 2 * (height + height / 2) + width % 2 * height
      = (2 * (width / 2) + width % 2) * height + 2 * (width / 2) * (height / 2) := by ring
    _ = width * height + 2 * (width / 2) * (height / 2) := by rw [Nat.div_add_mod]

/-- A buffer is only created in a manager that is there. -/
theorem manager_of_create [PageSize]
    (h_create : w.create systemBackend m size format usage = (.ok handle, w')) :
    ∃ manager, w.manager? m = some manager := by
  rcases h_manager : w.manager? m with _ | manager
  · simp only [create, h_manager] at h_create
    cases (Prod.mk.inj h_create).1
  · exact ⟨manager, rfl⟩

/-- A planar image is stored in two-byte texels. -/
theorem storable_yv12 [PageSize] (h : PixelFormat.yv12.Storable size layout bytes) : bytes = 2 := by
  have h_known : some FourCC.gr88 = some layout := h.known
  obtain rfl := Option.some.inj h_known
  have h_pixel : Except.ok 2 = Except.ok bytes := h.pixel
  exact (Except.ok.inj h_pixel).symm

/-- The rows of a buffer that is created for a planar image are as long as its width, rounded down
    to an even number. They hold all planes but one byte of each row of luma if the width is odd; so
    they have room for the image exactly if it is even. -/
theorem planar_rows [PageSize]
    (h_create : w.create systemBackend m size .yv12 usage = (.ok handle, w')) :
    ∃ b, w'.env.devices.buffers.find? w.env.nextBuffer = some b ∧ b.stride = handle.stride ∧
      b.extent.height.toNat = size.height.toNat + size.height.toNat / 2 ∧
      handle.stride.toNat = size.width.toNat / 2 * 2 ∧
      handle.stride.toNat * b.extent.height.toNat + size.width.toNat % 2 * size.height.toNat =
        planarBytes size ∧
      (size.width.toNat ≤ handle.stride.toNat ↔ size.width.toNat % 2 = 0) ∧
      (planarBytes size ≤ handle.stride.toNat * b.extent.height.toNat ↔
        size.width.toNat % 2 = 0) := by
  obtain ⟨manager, h_manager⟩ := manager_of_create h_create
  obtain ⟨layout, bytes, h_storable⟩ :=
    (create_isOk_iff h_manager usage).mp ⟨handle, congrArg Prod.fst h_create⟩
  obtain rfl := storable_yv12 h_storable
  obtain ⟨stored, w'', h_stored, h_created, h_find, -⟩ :=
    create_of_storable h_manager usage h_storable
  obtain ⟨h_handle, rfl⟩ := Prod.mk.inj (h_created.symm.trans h_create)
  obtain rfl := Except.ok.inj h_handle
  have h_stride : (stored.width * 2).toNat = size.width.toNat / 2 * 2 :=
    h_storable.stride_toNat h_stored
  have h_rows : stored.height.toNat = size.height.toNat + size.height.toNat / 2 :=
    (PixelFormat.physicalExtent_eq_ok_iff.mp h_stored).2
  have h_bytes : (stored.width * 2).toNat * stored.height.toNat +
      size.width.toNat % 2 * size.height.toNat = planarBytes size := by
    rw [h_stride, h_rows]
    exact folded_bytes _ _
  refine ⟨_, h_find, rfl, h_rows, h_stride, h_bytes, ?_, ?_⟩
  · show size.width.toNat ≤ (stored.width * 2).toNat ↔ _
    omega
  · show planarBytes size ≤ (stored.width * 2).toNat * stored.height.toNat ↔ _
    -- an image without rows would not have been stored
    have h_some : 0 < size.height.toNat + size.height.toNat / 2 := h_storable.height
    rcases Nat.mod_two_eq_zero_or_one size.width.toNat with h_even | h_odd
    · rw [h_even] at h_bytes ⊢
      omega
    · rw [h_odd] at h_bytes ⊢
      omega

/-- An image of 16 by 9 has all its planes in the rows of its buffer. -/
theorem planar_rows_sixteen : ∃ handle w', (World.start systemBackend {} [.full]).create
    systemBackend 0 ⟨16, 9⟩ .yv12 .cpuWriteOften = (.ok handle, w') ∧ handle.stride.toNat = 16 ∧
      planarBytes ⟨16, 9⟩ ≤ 16 * 13 := by
  have h_storable : PixelFormat.yv12.Storable ⟨16, 9⟩ FourCC.gr88 2 := by
    constructor <;> decide
  obtain ⟨stored, w', -, h_create, -⟩ := create_of_storable
    (w := World.start systemBackend {} [.full]) (m := 0) rfl .cpuWriteOften h_storable
  obtain ⟨b, -, -, h_height, h_stride, -, -, h_room⟩ := planar_rows h_create
  have h_planes := h_room.mpr rfl
  rw [h_stride, h_height] at h_planes
  exact ⟨_, w', h_create, h_stride, h_planes⟩

/-- One of 15 by 9 has not: a row is a byte shorter than the image is wide, and the rows together
    are 9 bytes shorter than the planes. -/
theorem odd_width_short : ∃ handle w', (World.start systemBackend {} [.full]).create
    systemBackend 0 ⟨15, 9⟩ .yv12 .cpuWriteOften = (.ok handle, w') ∧ handle.stride.toNat < 15 ∧
      handle.stride.toNat * PixelFormat.yv12.storedHeight 9 < planarBytes ⟨15, 9⟩ := by
  have h_storable : PixelFormat.yv12.Storable ⟨15, 9⟩ FourCC.gr88 2 := by
    constructor <;> decide
  obtain ⟨stored, w', h_stored, h_create, -⟩ := create_of_storable
    (w := World.start systemBackend {} [.full]) (m := 0) rfl .cpuWriteOften h_storable
  obtain rfl : stored = ⟨7, 13⟩ := (Except.ok.inj h_stored).symm
  exact ⟨_, w', h_create, by decide, by decide⟩

end World

end GraphicsBuffer
