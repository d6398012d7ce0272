/-
  GraphicsBuffer.Proofs.Backend.Stride

  Strides on the allocator on shared memory. A buffer keeps the stride that it was made with for as
  long as it is there, a mapping of it reports that stride, and no size of rows is too large to be
  rounded up to pages, so the allocator never aborts. What happens to the kernel does not matter.
-/

import GraphicsBuffer.Backend.System
import GraphicsBuffer.Proofs.Table

namespace GraphicsBuffer

/-! ## Sizes -/

/-- The rows of a buffer always have a size: the product of two 32-bit words is so far below the end
    of 64 bits that there is a page boundary above it. -/
theorem bufferSize_eq_ok [PageSize] (stride height : UInt32) :
    ∃ size, bufferSize stride height = .ok size ∧
      size.toNat = Page.ceil (stride.toNat * height.toNat) := by
  have h_product : stride.toNat * height.toNat ≤ (2 ^ 32 - 1) * (2 ^ 32 - 1) :=
    Nat.mul_le_mul (Nat.le_sub_one_of_lt stride.toNat_lt) (Nat.le_sub_one_of_lt height.toNat_lt)
  have h_ceil : Page.ceil (stride.toNat * height.toNat) < stride.toNat * height.toNat + 2 ^ 32 :=
    Nat.lt_of_lt_of_le (Page.ceil_lt _) (Nat.add_le_add_left Page.size_le_word _)
  have h_mul : ∃ bytes, Arithmetic.mul64 "stride" stride.toUInt64 "height" height.toUInt64 =
      .ok bytes ∧ bytes.toNat = stride.toNat * height.toNat := by
    refine ⟨stride.toUInt64 * height.toUInt64, ?_⟩
    have h_fits : stride.toUInt64.toNat * height.toUInt64.toNat < UInt64.size := by
      rw [UInt32.toNat_toUInt64, UInt32.toNat_toUInt64]
      show _ < 2 ^ 64
      omega
    have h_ok : Arithmetic.mul64 "stride" stride.toUInt64 "height" height.toUInt64 =
        .ok (stride.toUInt64 * height.toUInt64) := if_pos h_fits
    refine ⟨h_ok, ?_⟩
    rw [(Arithmetic.mul64_eq_ok_iff.mp h_ok).2, UInt32.toNat_toUInt64, UInt32.toNat_toUInt64]
  obtain ⟨bytes, h_bytes, h_value⟩ := h_mul
  have h_round : Page.ceil64 bytes = .ok (UInt64.ofNat (Page.ceil bytes.toNat)) := by
    refine if_pos ?_
    rw [h_value]
    show _ < 2 ^ 64
    omega
  refine ⟨UInt64.ofNat (Page.ceil bytes.toNat), ?_, ?_⟩
  · rw [bufferSize, h_bytes]
    exact h_round
  · rw [Page.toNat_of_ceil64 h_round, h_value]

/-! ## One buffer -/

namespace SystemBuffer

variable {k k' : Kernel} {b b' : SystemBuffer}

theorem create_not_aborted [PageSize] {size : Extent} {layout : FourCC} {a : Abort} :
    create k size layout ≠ .error (.abort a) := by
  unfold create
  split
  · exact nofun
  rcases layout.bytesPerPixel with e | bytesPerPixel
  · exact nofun
  rcases h_stride : Arithmetic.mul32 "width" size.width "bytes_per_pixel" bytesPerPixel with
    e | stride
  · simp only [h_stride]
    exact nofun
  obtain ⟨bytes, h_bytes, -⟩ := bufferSize_eq_ok stride size.height
  simp only [h_stride, h_bytes]
  rcases k.createMemory memoryName bytes.toNat with e | ⟨id, kernel⟩
  · exact nofun
  · exact nofun

theorem ofRequest_not_aborted [PageSize] {request : ImportRequest} {a : Abort} :
    ofRequest k request ≠ .error (.abort a) := by
  unfold ofRequest
  rcases request.descriptor with _ | d
  · exact nofun
  rcases h_duplicate : Kernel.duplicate d with e | d'
  · simp only [h_duplicate]
    exact nofun
  rcases request.layout.bytesPerPixel with e | bytesPerPixel
  · simp only [h_duplicate]
    exact nofun
  rcases h_min : Arithmetic.mul32 "width" request.size.width "bytes_per_pixel" bytesPerPixel with
    e | minStride
  · simp only [h_duplicate, h_min]
    exact nofun
  obtain ⟨needed, h_needed, -⟩ := bufferSize_eq_ok request.stride request.size.height
  simp only [h_duplicate, h_min, h_needed]
  split
  · exact nofun
  rcases k.endOf d' with e | size
  · exact nofun
  simp only
  split
  · exact nofun
  · exact nofun

/-- A mapping has the stride of its buffer, which keeps it. From the origin of the buffer it starts
    at the first byte. -/
theorem map_stride {corner : Corner} {access : Access} {mapping : BackendMapping}
    (h : b.map k corner.fromOrigin access = .ok (mapping, b', k')) :
    b'.stride = b.stride ∧ mapping.stride = b.stride ∧ mapping.address.offset = 0 := by
  unfold SystemBuffer.map at h
  split at h
  · exact nomatch h
  split at h
  · exact nomatch h
  split at h
  · exact nomatch h
  split at h
  · split at h
    · exact nomatch h
    · cases h
      exact ⟨rfl, rfl, by simp [offsetOf, Corner.fromOrigin]⟩
  · exact nomatch h

theorem map_not_aborted {region : Rect} {access : Access} {a : Abort} :
    b.map k region access ≠ .error (.abort a) := by
  unfold SystemBuffer.map
  split
  · exact nofun
  split
  · exact nofun
  split
  · exact nofun
  split
  · split
    · exact nofun
    · exact nofun
  · exact nofun

theorem unmap_stride (k : Kernel) (b : SystemBuffer) : (b.unmap k).1.stride = b.stride := by
  unfold SystemBuffer.unmap
  rcases b.mapping with _ | id <;> rfl

end SystemBuffer

/-! ## All buffers -/

namespace SystemState

variable {s s' : SystemState} {id : BufferId}

/-- The stride of a buffer, if it is there. -/
def stride? (s : SystemState) (id : BufferId) : Option UInt32 :=
  (s.buffers.find? id).map (·.stride)

theorem stride?_of_find? {b : SystemBuffer} (h_find : s.buffers.find? id = some b) :
    s.stride? id = some b.stride := by
  rw [stride?, h_find]
  rfl

/-- A buffer that takes the place of one with its stride leaves the stride as it is. -/
theorem stride?_set {b b' : SystemBuffer} (h_find : s.buffers.find? id = some b)
    (h_stride : b'.stride = b.stride) (kernel : Kernel) :
    (s.set id b' kernel).stride? id = s.stride? id := by
  rw [stride?_of_find? h_find, ← h_stride]
  exact stride?_of_find? (Table.find?_insert_self _ _ _)

/-- A buffer that is added is there with its stride. -/
theorem add_stride {made : Outcome (SystemBuffer × Kernel)} {answer : Outcome Unit}
    (h_add : s.add id made = (answer, s')) :
    (∀ f, answer = .error f → made = .error f) ∧
      (answer = .ok () → ∃ b kernel, made = .ok (b, kernel) ∧ s'.stride? id = some b.stride) := by
  rcases made with f | ⟨b, kernel⟩
  · obtain ⟨rfl, rfl⟩ := Prod.mk.inj h_add
    exact ⟨fun _ h_f => congrArg _ (Except.error.inj h_f), nofun⟩
  · obtain ⟨rfl, rfl⟩ := Prod.mk.inj h_add
    refine ⟨nofun, fun _ => ⟨b, kernel, rfl, ?_⟩⟩
    exact stride?_of_find? (Table.find?_insert_self _ _ _)

/-- Asking for a mapping up to a corner leaves the stride of the buffer as it is; a mapping that is
    given has that stride. -/
theorem map_stride {corner : Corner} {access : Access} {given : Outcome BackendMapping}
    (h_map : s.map id corner.fromOrigin access = (given, s')) :
    s'.stride? id = s.stride? id ∧ (∀ a, given ≠ .error (.abort a)) ∧
      ∀ mapping, given = .ok mapping →
        s.stride? id = some mapping.stride ∧ mapping.address.offset = 0 := by
  unfold SystemState.map at h_map
  rcases h_find : s.buffers.find? id with _ | b
  · simp only [h_find] at h_map
    obtain ⟨rfl, rfl⟩ := Prod.mk.inj h_map
    simp [SystemState.absent]
  rcases h_call : b.map s.kernel corner.fromOrigin access with f | ⟨mapping, b', kernel⟩
  · simp only [h_find, h_call] at h_map
    obtain ⟨rfl, rfl⟩ := Prod.mk.inj h_map
    refine ⟨rfl, fun a h_abort => ?_, by simp⟩
    rw [Except.error.inj h_abort] at h_call
    exact SystemBuffer.map_not_aborted h_call
  · simp only [h_find, h_call] at h_map
    obtain ⟨rfl, rfl⟩ := Prod.mk.inj h_map
    obtain ⟨h_kept, h_stride, h_offset⟩ := SystemBuffer.map_stride h_call
    refine ⟨stride?_set h_find h_kept kernel, by simp, fun mapping' h_given => ?_⟩
    obtain rfl := Except.ok.inj h_given
    rw [stride?_of_find? h_find, h_stride]
    exact ⟨rfl, h_offset⟩

theorem unmap_stride (s : SystemState) (id : BufferId) :
    (s.unmap id).stride? id = s.stride? id := by
  unfold SystemState.unmap
  rcases h_find : s.buffers.find? id with _ | b
  · rfl
  · exact stride?_set h_find (SystemBuffer.unmap_stride s.kernel b) _

end SystemState

end GraphicsBuffer
