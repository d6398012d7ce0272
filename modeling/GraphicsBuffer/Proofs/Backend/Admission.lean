/-
  GraphicsBuffer.Proofs.Backend.Admission

  What the allocator on shared memory makes and what it takes in. A size gets a buffer
  (`create_eq_ok_iff`), and a description is taken for the memory behind its descriptor
  (`ofRequest_eq_ok_iff`), exactly if some inequalities hold in unbounded numbers: no product and no
  rounding on the way can wrap. So a description that is taken is also taken for a smaller image and
  for a longer memory (`imports_exactly`).
-/

import GraphicsBuffer.Proofs.Backend.Stride
import GraphicsBuffer.Proofs.Kernel
import Mathlib.Algebra.Group.Nat.Defs

namespace GraphicsBuffer

/-- More bytes do not take fewer pages. -/
theorem Page.ceil_mono [PageSize] {n m : Nat} (h : n ≤ m) : ceil n ≤ ceil m :=
  ceil_le (Nat.le_trans h (le_ceil m)) (size_dvd_ceil m)

/-- A product that fits its word is computed. -/
theorem Arithmetic.mul32_of_lt (left right : String) {x y : UInt32}
    (h : x.toNat * y.toNat < 2 ^ 32) :
    mul32 left x right y = .ok (x * y) ∧ (x * y).toNat = x.toNat * y.toNat := by
  have h_ok : mul32 left x right y = .ok (x * y) := if_pos h
  exact ⟨h_ok, (mul32_eq_ok_iff.mp h_ok).2⟩

namespace SystemBuffer

variable {k k' : Kernel} {b : SystemBuffer} {size : Extent} {layout : FourCC}
  {request : ImportRequest}

/-! ## Buffers that are made -/

/-- The kernel makes the memory of a buffer unless its size does not fit a signed word. -/
theorem createMemory_memoryName (k : Kernel) (n : Nat) : k.createMemory memoryName n =
    if n < 2 ^ 63 then .ok (k.addMemory memoryName n false) else .error .conversion := by
  have h_name : Kernel.zeroByte? memoryName = none ∧ ¬Kernel.maxNameLength < memoryName.length := by
    decide +kernel
  have h_limit : (0x8000000000000000 : Nat) = 2 ^ 63 := by decide
  simp only [Kernel.createMemory, h_name.1, if_neg h_name.2, Arithmetic.signed64, h_limit]
  by_cases h_size : n < 2 ^ 63
  · simp only [if_pos h_size]
  · simp only [if_neg h_size]

variable [PageSize]

/-- A buffer can be made for a size, with pixels of some bytes. -/
structure Makeable (size : Extent) (bytes : Nat) : Prop where
  width : 0 < size.width.toNat
  height : 0 < size.height.toNat
  /-- A row fits a word, -/
  row : size.width.toNat * bytes < 2 ^ 32
  /-- and all rows, in whole pages, fit a signed word of 64 bits. -/
  memory : Page.ceil (size.width.toNat * bytes * size.height.toNat) < 2 ^ 63

/-- The buffer on the next memory whose rows and whose memory are as short as can be. -/
def tight (k : Kernel) (size : Extent) (bytes : UInt32) : SystemBuffer where
  descriptor := .memory k.memories.length
  size := Page.ceil (size.width.toNat * bytes.toNat * size.height.toNat)
  extent := size
  bytesPerPixel := bytes
  stride := size.width * bytes
  mapping := none

/-- The tight buffer is made for a size that can be had, on a memory of its own. -/
theorem create_of_makeable (k : Kernel) {bytes : UInt32} (h_layout : layout.bytesPerPixel = .ok bytes)
    (h_makeable : Makeable size bytes.toNat) : create k size layout =
      .ok (tight k size bytes, (k.addMemory memoryName (tight k size bytes).size false).2) := by
  have h_some : ¬(size.width = 0 ∨ size.height = 0) := by
    rw [← UInt32.toNat_inj, ← UInt32.toNat_inj, not_or]
    exact ⟨Nat.ne_of_gt h_makeable.width, Nat.ne_of_gt h_makeable.height⟩
  obtain ⟨h_stride, h_length⟩ := Arithmetic.mul32_of_lt "width" "bytes_per_pixel" h_makeable.row
  obtain ⟨total, h_total, h_value⟩ := bufferSize_eq_ok (size.width * bytes) size.height
  rw [h_length] at h_value
  simp only [create, if_neg h_some, h_layout, h_stride, h_total, createMemory_memoryName, h_value,
    if_pos h_makeable.memory]
  rfl

/-- Nothing is made for any other size. -/
theorem makeable_of_create (h : create k size layout = .ok (b, k')) :
    ∃ bytes, layout.bytesPerPixel = .ok bytes ∧ Makeable size bytes.toNat := by
  unfold create at h
  split at h
  · exact nomatch h
  next h_some =>
  split at h
  · exact nomatch h
  next bytes h_layout =>
  split at h
  · exact nomatch h
  next stride h_stride =>
  obtain ⟨total, h_total, h_value⟩ := bufferSize_eq_ok stride size.height
  rw [h_total] at h
  rw [not_or, ← UInt32.toNat_inj, ← UInt32.toNat_inj, UInt32.toNat_zero] at h_some
  obtain ⟨h_row, h_length⟩ := Arithmetic.mul32_eq_ok_iff.mp h_stride
  refine ⟨bytes, h_layout, Nat.pos_of_ne_zero h_some.1, Nat.pos_of_ne_zero h_some.2, h_row, ?_⟩
  by_contra h_large
  rw [← h_length, ← h_value] at h_large
  simp only [createMemory_memoryName, if_neg h_large] at h
  exact nomatch h

theorem create_eq_ok_iff : create k size layout = .ok (b, k') ↔ ∃ bytes,
    layout.bytesPerPixel = .ok bytes ∧ Makeable size bytes.toNat ∧ b = tight k size bytes ∧
      k' = (k.addMemory memoryName b.size false).2 := by
  constructor
  · intro h
    obtain ⟨bytes, h_layout, h_makeable⟩ := makeable_of_create h
    obtain ⟨rfl, rfl⟩ :=
      Prod.mk.inj (Except.ok.inj (h.symm.trans (create_of_makeable k h_layout h_makeable)))
    exact ⟨bytes, h_layout, h_makeable, rfl, rfl⟩
  · rintro ⟨bytes, h_layout, h_makeable, rfl, rfl⟩
    exact create_of_makeable k h_layout h_makeable

/-- A size that no buffer can be made for is refused, with an error. -/
theorem create_of_not_makeable {bytes : UInt32} (h_layout : layout.bytesPerPixel = .ok bytes)
    (h_not : ¬Makeable size bytes.toNat) : ∃ e, create k size layout = .error (.error e) := by
  rcases h_made : create k size layout with f | ⟨b, k'⟩
  · cases f with
    | error e => exact ⟨e, rfl⟩
    | abort a => exact absurd h_made create_not_aborted
  · obtain ⟨bytes', h_layout', h_makeable⟩ := makeable_of_create h_made
    obtain rfl := Except.ok.inj (h_layout.symm.trans h_layout')
    exact absurd h_makeable h_not

end SystemBuffer

/-! ## Descriptions that are taken -/

namespace ImportRequest

variable [PageSize]

/-- The kernel finds the end of the memory that a description is about. -/
structure Measured (k : Kernel) (request : ImportRequest) (d : Descriptor) (length : Nat) :
    Prop where
  /-- There is a descriptor, -/
  given : request.descriptor = some d
  /-- which is open, -/
  opened : Kernel.duplicate d = .ok d
  /-- and what it refers to has an end. -/
  ends : k.endOf d = .ok length

/-- The rows of a description hold its pixels of some bytes, and a memory of some length holds its
    rows up to the end of a page. -/
structure Fits (request : ImportRequest) (bytes length : Nat) : Prop where
  row : request.size.width.toNat * bytes < 2 ^ 32
  stride : request.size.width.toNat * bytes ≤ request.stride.toNat
  memory : Page.ceil (request.stride.toNat * request.size.height.toNat) ≤ length

/-- All that is asked of a description: it has memory that can be measured and a known layout, and
    it fits. -/
def Admissible (k : Kernel) (request : ImportRequest) : Prop :=
  ∃ d length bytes, request.Measured k d length ∧ request.layout.bytesPerPixel = .ok bytes ∧
    request.Fits bytes.toNat length

/-- A description of an image inside another one, in rows of the same layout and length. -/
structure Inside (request request' : ImportRequest) : Prop where
  width : request.size.width.toNat ≤ request'.size.width.toNat
  height : request.size.height.toNat ≤ request'.size.height.toNat
  layout : request.layout = request'.layout
  stride : request.stride = request'.stride
  descriptor : request.descriptor = request'.descriptor

variable {k k' : Kernel} {request request' : ImportRequest}

/-- A smaller image fits in less. -/
theorem Fits.mono {bytes length length' : Nat} (h_inside : request.Inside request')
    (h_length : length ≤ length') (h : request'.Fits bytes length) : request.Fits bytes length' := by
  have h_row : request.size.width.toNat * bytes ≤ request'.size.width.toNat * bytes :=
    Nat.mul_le_mul_right bytes h_inside.width
  refine ⟨Nat.lt_of_le_of_lt h_row h.row, ?_, ?_⟩
  · rw [h_inside.stride]
    exact Nat.le_trans h_row h.stride
  · rw [h_inside.stride]
    calc Page.ceil (request'.stride.toNat * request.size.height.toNat)
        ≤ Page.ceil (request'.stride.toNat * request'.size.height.toNat) :=
          Page.ceil_mono (Nat.mul_le_mul_left _ h_inside.height)
      _ ≤ length := h.memory
      _ ≤ length' := h_length

/-- What a description is about is as long later as it was before, or longer. -/
def MemoryLasts (k k' : Kernel) (request : ImportRequest) : Prop :=
  ∀ d n, request.descriptor = some d → k.endOf d = .ok n → ∃ n', k'.endOf d = .ok n' ∧ n ≤ n'

/-- A description stays admissible for a smaller image and for a longer memory. -/
theorem Admissible.mono (h_inside : request.Inside request') (h_grown : request'.MemoryLasts k k')
    (h : Admissible k request') : Admissible k' request := by
  obtain ⟨d, length, bytes, h_measured, h_layout, h_fits⟩ := h
  obtain ⟨length', h_end, h_le⟩ := h_grown d length h_measured.given h_measured.ends
  exact ⟨d, length', bytes, ⟨h_inside.descriptor.trans h_measured.given, h_measured.opened, h_end⟩,
    h_inside.layout ▸ h_layout, h_fits.mono h_inside h_le⟩

end ImportRequest

namespace SystemBuffer

variable [PageSize] {k : Kernel} {b : SystemBuffer} {request : ImportRequest}

/-- The buffer on a whole memory, laid out as described. -/
def wrapping (request : ImportRequest) (d : Descriptor) (length : Nat) (bytes : UInt32) :
    SystemBuffer where
  descriptor := d
  size := length
  extent := request.size
  bytesPerPixel := bytes
  stride := request.stride
  mapping := none

/-- A description that fits is taken, for the whole memory. -/
theorem ofRequest_of_fits {d : Descriptor} {length : Nat} {bytes : UInt32}
    (h_measured : request.Measured k d length) (h_layout : request.layout.bytesPerPixel = .ok bytes)
    (h_fits : request.Fits bytes.toNat length) :
    ofRequest k request = .ok (wrapping request d length bytes) := by
  obtain ⟨h_min, h_product⟩ := Arithmetic.mul32_of_lt "width" "bytes_per_pixel" h_fits.row
  obtain ⟨needed, h_needed, h_value⟩ := bufferSize_eq_ok request.stride request.size.height
  have h_long : ¬request.stride < request.size.width * bytes := by
    rw [UInt32.lt_iff_toNat_lt, h_product, Nat.not_lt]
    exact h_fits.stride
  have h_large : ¬length < needed.toNat := by
    rw [h_value, Nat.not_lt]
    exact h_fits.memory
  simp only [ofRequest, h_measured.given, h_measured.opened, h_layout, h_min, if_neg h_long,
    h_measured.ends, h_needed, if_neg h_large, wrapping]

/-- No other description is taken. -/
theorem admissible_of_ofRequest (h : ofRequest k request = .ok b) : request.Admissible k := by
  unfold ofRequest at h
  split at h
  · exact nomatch h
  next d h_given =>
  split at h
  · exact nomatch h
  next d' h_opened =>
  obtain rfl := Kernel.duplicate_eq_ok h_opened
  split at h
  · exact nomatch h
  next bytes h_layout =>
  split at h
  · exact nomatch h
  next minStride h_min =>
  split at h
  · exact nomatch h
  next h_long =>
  split at h
  · exact nomatch h
  next length h_end =>
  obtain ⟨needed, h_needed, h_value⟩ := bufferSize_eq_ok request.stride request.size.height
  rw [h_needed] at h
  by_cases h_large : length < needed.toNat
  · simp only [if_pos h_large] at h
    exact nomatch h
  · obtain ⟨h_row, h_product⟩ := Arithmetic.mul32_eq_ok_iff.mp h_min
    rw [UInt32.lt_iff_toNat_lt, h_product, Nat.not_lt] at h_long
    rw [h_value, Nat.not_lt] at h_large
    exact ⟨d, length, bytes, ⟨h_given, h_opened, h_end⟩, h_layout, h_row, h_long, h_large⟩

theorem ofRequest_eq_ok_iff : ofRequest k request = .ok b ↔ ∃ d length bytes,
    request.Measured k d length ∧ request.layout.bytesPerPixel = .ok bytes ∧
      request.Fits bytes.toNat length ∧ b = wrapping request d length bytes := by
  constructor
  · intro h
    obtain ⟨d, length, bytes, h_measured, h_layout, h_fits⟩ := admissible_of_ofRequest h
    have h_taken := h.symm.trans (ofRequest_of_fits h_measured h_layout h_fits)
    exact ⟨d, length, bytes, h_measured, h_layout, h_fits, Except.ok.inj h_taken⟩
  · rintro ⟨d, length, bytes, h_measured, h_layout, h_fits, rfl⟩
    exact ofRequest_of_fits h_measured h_layout h_fits

/-- A description that is not admissible is refused, with an error. -/
theorem ofRequest_of_not_admissible (h : ¬request.Admissible k) :
    ∃ e, ofRequest k request = .error (.error e) := by
  rcases h_taken : ofRequest k request with f | b
  · cases f with
    | error e => exact ⟨e, rfl⟩
    | abort a => exact absurd h_taken ofRequest_not_aborted
  · exact absurd (admissible_of_ofRequest h_taken) h

end SystemBuffer

section Imports

variable [PageSize] (device : DeviceId) (id : BufferId) (request : ImportRequest) (s : SystemState)

theorem importBuffer_of_fits {d : Descriptor} {length : Nat} {bytes : UInt32}
    (h_measured : request.Measured s.kernel d length)
    (h_layout : request.layout.bytesPerPixel = .ok bytes)
    (h_fits : request.Fits bytes.toNat length) :
    systemBackend.importBuffer device id request s =
      (.ok (), { s with buffers := s.buffers.insert id (.wrapping request d length bytes) }) := by
  simp only [systemBackend, SystemBuffer.ofRequest_of_fits h_measured h_layout h_fits]
  rfl

theorem importBuffer_of_not_admissible (h : ¬request.Admissible s.kernel) :
    ∃ e, systemBackend.importBuffer device id request s = (.error (.error e), s) := by
  obtain ⟨e, h_refused⟩ := SystemBuffer.ofRequest_of_not_admissible h
  refine ⟨e, ?_⟩
  simp only [systemBackend, h_refused]
  rfl

theorem importBuffer_isOk_iff : (systemBackend.importBuffer device id request s).1 = .ok () ↔
    request.Admissible s.kernel := by
  constructor
  · intro h_ok
    by_contra h_not
    obtain ⟨e, h_refused⟩ := importBuffer_of_not_admissible device id request s h_not
    rw [h_refused] at h_ok
    exact nomatch h_ok
  · rintro ⟨d, length, bytes, h_measured, h_layout, h_fits⟩
    rw [importBuffer_of_fits device id request s h_measured h_layout h_fits]

/-- A description is taken exactly if it is admissible; all of the memory becomes the buffer that
    was described, whatever the modifier, and a description that is not taken changes nothing. What
    is taken is also taken for a smaller image and for a longer memory. -/
theorem imports_exactly :
    ((systemBackend.importBuffer device id request s).1 = .ok () ↔ request.Admissible s.kernel) ∧
      (∀ d length bytes, request.Measured s.kernel d length →
        request.layout.bytesPerPixel = .ok bytes → request.Fits bytes.toNat length →
        systemBackend.importBuffer device id request s =
          (.ok (), { s with buffers := s.buffers.insert id (.wrapping request d length bytes) })) ∧
      (¬request.Admissible s.kernel →
        ∃ e, systemBackend.importBuffer device id request s = (.error (.error e), s)) ∧
      (∀ modifier, systemBackend.importBuffer device id { request with modifier } s =
        systemBackend.importBuffer device id request s) ∧
      ∀ device' id' (smaller : ImportRequest) (s' : SystemState), smaller.Inside request →
        request.MemoryLasts s.kernel s'.kernel →
        (systemBackend.importBuffer device id request s).1 = .ok () →
        (systemBackend.importBuffer device' id' smaller s').1 = .ok () := by
  refine ⟨importBuffer_isOk_iff device id request s,
    fun _ _ _ => importBuffer_of_fits device id request s,
    importBuffer_of_not_admissible device id request s, fun _ => rfl, ?_⟩
  intro device' id' smaller s' h_inside h_lasts h_ok
  have h_admissible := (importBuffer_isOk_iff device id request s).mp h_ok
  exact (importBuffer_isOk_iff device' id' smaller s').mpr (h_admissible.mono h_inside h_lasts)

end Imports

/-- A state with one memory, of some length. -/
def SystemState.onMemory (length : Nat) : SystemState where
  kernel := (({} : Kernel).addMemory [] length false).2

/-- Rows of 100 bytes, 41 of them, take a little more than a page. So they need two pages, and not a
    byte less. -/
theorem imports_exactly_two_pages :
    let request : ImportRequest := ⟨⟨25, 41⟩, .abgr8888, some (.memory 0), 100, none⟩
    (systemBackend.importBuffer 0 7 request (.onMemory 8192)).1 = .ok () ∧
      (systemBackend.importBuffer 0 7 request (.onMemory 8191)).1 ≠ .ok () := by
  refine ⟨(imports_exactly 0 7 _ (.onMemory 8192)).1.mpr
    ⟨.memory 0, 8192, 4, ⟨rfl, rfl, rfl⟩, rfl, by decide, by decide, by decide⟩, fun h_ok => ?_⟩
  obtain ⟨d, length, bytes, h_measured, -, h_fits⟩ :=
    (imports_exactly 0 7 _ (.onMemory 8191)).1.mp h_ok
  obtain rfl := Option.some.inj h_measured.given
  obtain rfl := Except.ok.inj h_measured.ends
  exact absurd h_fits.memory (by decide)

end GraphicsBuffer
