/-
  GraphicsBuffer.Proofs.Backend.Size

  The bytes that the rows of a buffer take. Two words of 32 bits are multiplied in a word of 64 bits
  and the product is rounded up to whole pages. Neither step can leave the word, however long the
  pages of the system are, so there is always an answer, and it is the least that will do in
  unbounded numbers (`bufferSize_isLeast`). More rows or longer ones never take less. So the memory
  that is made for a buffer passes the check of every description with rows of the same stride and
  not more of them (`sizes_exact`).
-/

import GraphicsBuffer.Proofs.Backend.Construction
import Mathlib.Order.Bounds.Basic

namespace GraphicsBuffer

/-! ## Whole pages -/

namespace Page

variable [PageSize]

/-- The lengths in whole pages that hold some bytes. -/
def Holding (bytes : Nat) : Set Nat := {length | size ∣ length ∧ bytes ≤ length}

/-- What holds more bytes holds fewer. -/
theorem holding_subset {n m : Nat} (h : n ≤ m) : Holding m ⊆ Holding n :=
  fun _ h_holds => ⟨h_holds.1, Nat.le_trans h h_holds.2⟩

/-- Rounding up gives the least length that holds the bytes. -/
theorem ceil_isLeast (bytes : Nat) : IsLeast (Holding bytes) (ceil bytes) :=
  ⟨⟨size_dvd_ceil bytes, le_ceil bytes⟩, fun _ h_holds => ceil_le h_holds.2 h_holds.1⟩

end Page

/-! ## Rows -/

section Rows

variable [PageSize] {stride stride' height height' : UInt32} {bytes bytes' : UInt64}

/-- The size of the rows is the least length in whole pages that holds them. -/
theorem bufferSize_isLeast (h : bufferSize stride height = .ok bytes) :
    IsLeast (Page.Holding (stride.toNat * height.toNat)) bytes.toNat := by
  obtain ⟨size, h_size, h_value⟩ := bufferSize_eq_ok stride height
  obtain rfl := Except.ok.inj (h_size.symm.trans h)
  rw [h_value]
  exact Page.ceil_isLeast _

/-- More rows, or longer ones, do not take less. -/
theorem bufferSize_mono (h_stride : stride ≤ stride') (h_height : height ≤ height')
    (h : bufferSize stride height = .ok bytes) (h' : bufferSize stride' height' = .ok bytes') :
    bytes ≤ bytes' := by
  have h_rows : stride.toNat * height.toNat ≤ stride'.toNat * height'.toNat :=
    Nat.mul_le_mul (UInt32.le_iff_toNat_le.mp h_stride) (UInt32.le_iff_toNat_le.mp h_height)
  rw [UInt64.le_iff_toNat_le]
  -- whatever holds the larger rows holds the smaller ones, so the least of it is no smaller
  exact (bufferSize_isLeast h').mono (bufferSize_isLeast h) (Page.holding_subset h_rows)

end Rows

/-! ## The check of an import -/

/-- A memory is at least as long later. -/
theorem Kernel.MemoriesLast.endOf {k k' : Kernel} (h : MemoriesLast k k') {id : MemoryId} {n : Nat}
    (h_end : k.endOf (.memory id) = .ok n) :
    ∃ n', k'.endOf (.memory id) = .ok n' ∧ n ≤ n' := by
  obtain ⟨m, h_memory, rfl⟩ := endOf_memory_eq_ok_iff.mp h_end
  obtain ⟨m', h_memory', h_size⟩ := h id m h_memory
  exact ⟨m'.size, endOf_memory_eq_ok_iff.mpr ⟨m', h_memory', rfl⟩, h_size⟩

/-- The memory of a description can be measured and is not shorter than its rows are computed to
    be. -/
def ImportRequest.MemorySuffices [PageSize] (k : Kernel) (request : ImportRequest) : Prop :=
  ∃ d length needed, request.Measured k d length ∧
    bufferSize request.stride request.size.height = .ok needed ∧ needed.toNat ≤ length

namespace SystemBuffer

variable [PageSize] {k k' later : Kernel} {b : SystemBuffer} {size : Extent} {layout : FourCC}
  {request : ImportRequest}

/-- If the memory of a description suffices, all that is asked of it besides is that its rows are as
    long as its pixels. -/
theorem admissible_iff_of_suffices (h : request.MemorySuffices k) :
    request.Admissible k ↔ ∃ bytes, request.layout.bytesPerPixel = .ok bytes ∧
      request.size.width.toNat * bytes.toNat ≤ request.stride.toNat := by
  obtain ⟨d, length, needed, h_measured, h_needed, h_large⟩ := h
  constructor
  · rintro ⟨_, _, bytes, -, h_layout, h_fits⟩
    exact ⟨bytes, h_layout, h_fits.stride⟩
  · rintro ⟨bytes, h_layout, h_row⟩
    -- a row that is not longer than the stride fits its word, since the stride does
    have h_word : request.size.width.toNat * bytes.toNat < 2 ^ 32 :=
      Nat.lt_of_le_of_lt h_row request.stride.toNat_lt
    have h_memory : Page.ceil (request.stride.toNat * request.size.height.toNat) ≤ length :=
      calc Page.ceil (request.stride.toNat * request.size.height.toNat)
          = needed.toNat := (Page.ceil_isLeast _).unique (bufferSize_isLeast h_needed)
        _ ≤ length := h_large
    exact ⟨d, length, bytes, h_measured, h_layout, h_word, h_row, h_memory⟩

/-- The memory that was made for a buffer suffices for not more rows of its stride, for as long as it
    lasts. -/
theorem create_suffices (h : create k size layout = .ok (b, k')) (h_lasts : k'.MemoriesLast later)
    (h_given : request.descriptor = some b.descriptor) (h_stride : request.stride = b.stride)
    (h_height : request.size.height ≤ size.height) : request.MemorySuffices later := by
  obtain ⟨bytes, -, h_makeable, rfl, rfl⟩ := create_eq_ok_iff.mp h
  obtain ⟨-, h_end⟩ := k.addMemory_spec memoryName (tight k size bytes).size false
  obtain ⟨length, h_length, h_longer⟩ := h_lasts.endOf h_end
  obtain ⟨made, h_made, h_value⟩ := bufferSize_eq_ok (size.width * bytes) size.height
  obtain ⟨needed, h_needed, -⟩ := bufferSize_eq_ok request.stride request.size.height
  refine ⟨_, length, needed, ⟨h_given, rfl, h_length⟩, h_needed, ?_⟩
  have h_row : (size.width * bytes).toNat = size.width.toNat * bytes.toNat :=
    (Arithmetic.mul32_of_lt "width" "bytes_per_pixel" h_makeable.row).2
  calc needed.toNat
      ≤ made.toNat := UInt64.le_iff_toNat_le.mp
        (bufferSize_mono (UInt32.le_of_eq h_stride) h_height h_needed h_made)
    _ = (tight k size bytes).size := by
        rw [h_value, h_row]
        rfl
    _ ≤ length := h_longer

end SystemBuffer

/-! ## Buffers by number -/

/-- A buffer that is made is there under its number, with the kernel that it left. -/
theorem SystemState.create_ok [PageSize] {device : DeviceId} {id : BufferId} {size : Extent}
    {layout : FourCC} {flags : BindFlags} {s s' : SystemState}
    (h : systemBackend.create device id size layout flags s = (.ok (), s')) :
    ∃ b, SystemBuffer.create s.kernel size layout = .ok (b, s'.kernel) ∧
      s'.buffers.find? id = some b := by
  rcases h_made : SystemBuffer.create s.kernel size layout with f | ⟨b, kernel⟩
  · simp only [systemBackend, h_made, SystemState.add] at h
    cases (Prod.mk.inj h).1
  · simp only [systemBackend, h_made, SystemState.add] at h
    obtain ⟨-, rfl⟩ := Prod.mk.inj h
    exact ⟨b, rfl, Table.find?_insert_self _ _ _⟩

/-- Rows of any stride and number have a size, which is the least length in whole pages that holds
    them, and which does not shrink if there are more of them or if they are longer. The memory of a
    buffer that was made suffices for every description with rows of the same stride and not more of
    them, for as long as the memory lasts; such a description is taken exactly if its rows hold its
    pixels. -/
theorem sizes_exact [PageSize] :
    (∀ stride height : UInt32, ∃ bytes, bufferSize stride height = .ok bytes ∧
        IsLeast (Page.Holding (stride.toNat * height.toNat)) bytes.toNat) ∧
      (∀ (stride stride' height height' : UInt32) (bytes bytes' : UInt64), stride ≤ stride' →
        height ≤ height' → bufferSize stride height = .ok bytes →
        bufferSize stride' height' = .ok bytes' → bytes ≤ bytes') ∧
      ∀ (device : DeviceId) (id : BufferId) (size : Extent) (layout : FourCC) (flags : BindFlags)
        (s s' : SystemState), systemBackend.create device id size layout flags s = (.ok (), s') →
        ∃ d, systemBackend.exportDescriptor id s' = (.ok d, s') ∧
          ∀ (later : SystemState) (request : ImportRequest),
            s'.kernel.MemoriesLast later.kernel → request.descriptor = some d →
            request.stride = systemBackend.stride id s' → request.size.height ≤ size.height →
            request.MemorySuffices later.kernel ∧
              ∀ device' id', (systemBackend.importBuffer device' id' request later).1 = .ok () ↔
                ∃ bytes, request.layout.bytesPerPixel = .ok bytes ∧
                  request.size.width.toNat * bytes.toNat ≤ request.stride.toNat := by
  refine ⟨fun stride height => ?_, fun _ _ _ _ _ _ => bufferSize_mono, ?_⟩
  · obtain ⟨bytes, h_bytes, -⟩ := bufferSize_eq_ok stride height
    exact ⟨bytes, h_bytes, bufferSize_isLeast h_bytes⟩
  · intro device id size layout flags s s' h_create
    obtain ⟨b, h_made, h_find⟩ := SystemState.create_ok h_create
    have h_export : systemBackend.exportDescriptor id s' = (.ok b.descriptor, s') := by
      have h_descriptor := (SystemBuffer.create_made h_made).descriptor
      simp only [systemBackend, h_find, SystemBuffer.exportDescriptor, h_descriptor]
      rfl
    refine ⟨b.descriptor, h_export, fun later request h_lasts h_given h_stride h_height => ?_⟩
    have h_same : systemBackend.stride id s' = b.stride := by
      simp only [systemBackend, h_find]
      rfl
    have h_suffices :=
      SystemBuffer.create_suffices h_made h_lasts h_given (h_stride.trans h_same) h_height
    refine ⟨h_suffices, fun device' id' => ?_⟩
    rw [importBuffer_isOk_iff]
    exact SystemBuffer.admissible_iff_of_suffices h_suffices

/-- The longest rows, and as many of them, still have a size. Rows of 100 bytes take a page more if
    there are 41 of them than if there are 40, and a smaller image is imported from the memory of the
    larger one. -/
theorem sizes_exact_smaller_image :
    let longest : UInt32 := 0xffffffff
    let request : ImportRequest := ⟨⟨20, 40⟩, .abgr8888, some (.memory 0), 100, none⟩
    (∃ bytes, bufferSize longest longest = .ok bytes ∧
        IsLeast (Page.Holding (longest.toNat * longest.toNat)) bytes.toNat) ∧
      bufferSize 100 40 = .ok 4096 ∧ bufferSize 100 41 = .ok 8192 ∧ (4096 : UInt64) ≤ 8192 ∧
      ∃ s', systemBackend.create 0 1 ⟨25, 41⟩ .abgr8888 ∅ {} = (.ok (), s') ∧
        request.MemorySuffices s'.kernel ∧
        (systemBackend.importBuffer 0 2 request s').1 = .ok () := by
  intro longest request
  obtain ⟨h_sizes, h_mono, h_memory⟩ := sizes_exact
  have h_less : bufferSize 100 40 = .ok 4096 := by decide +kernel
  have h_more : bufferSize 100 41 = .ok 8192 := by decide +kernel
  have h_create : systemBackend.create 0 1 ⟨25, 41⟩ .abgr8888 ∅ {} = (.ok (), _) :=
    congrArg (SystemState.add {} 1) (SystemBuffer.create_of_makeable {} rfl
      ⟨by decide, by decide, by decide, by decide⟩)
  obtain ⟨d, h_export, h_later⟩ := h_memory 0 1 ⟨25, 41⟩ .abgr8888 ∅ {} _ h_create
  obtain rfl : Descriptor.memory 0 = d := Except.ok.inj (congrArg Prod.fst h_export)
  obtain ⟨h_suffices, h_taken⟩ :=
    h_later _ request (Kernel.MemoriesLast.refl _) rfl rfl (by decide)
  exact ⟨h_sizes longest longest, h_less, h_more,
    h_mono 100 100 40 41 4096 8192 (by decide) (by decide) h_less h_more,
    _, h_create, h_suffices, (h_taken 0 2).mpr ⟨4, rfl, by decide⟩⟩

end GraphicsBuffer
