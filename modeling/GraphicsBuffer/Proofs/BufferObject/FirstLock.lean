/-
  GraphicsBuffer.Proofs.BufferObject.FirstLock

  First CPU locks on the allocator on shared memory. The checks that a lock makes on its own come
  down to the corner of its region, and those of the allocator to the size of the buffer; so if the
  buffer is not mapped and the kernel maps its memory, a first lock is granted exactly in the
  regions that lie in the image (`AcceptsInside`). A buffer that is mapped already is locked in no
  region (`AcceptsNothing`).
-/

import GraphicsBuffer.Proofs.Backend.Image
import GraphicsBuffer.Proofs.BufferObject.Geometry
import GraphicsBuffer.Proofs.BufferObject.Locality

namespace GraphicsBuffer.BufferObject

variable [PageSize] {env : Env SystemState} {o : BufferObject} {h : Handle} {usage : Usage}
  {b : SystemBuffer}

/-! ## What first locks answer -/

/-- The answers to locks of the regions of an image, if just those that lie in it are granted. -/
structure AcceptsInside (h : Handle) (address : Address)
    (answer : Rect → Outcome (Option Address)) : Prop where
  granted_iff : ∀ r, answer r = .ok (some address) ↔ h.format.LiesIn r h.size
  /-- A region that does not lie in the image is refused, with an arithmetic error if its corner
      does not fit its words, -/
  tooFar : ∀ r, h.format.TooFar r → ∃ fault, answer r = .error (.error (.arithmetic fault))
  /-- and for want of a mapping otherwise. -/
  outside : ∀ r, ¬h.format.LiesIn r h.size → ¬h.format.TooFar r →
    answer r = .error (.error .mappingFailed)

/-- The answers if all are refused. -/
structure AcceptsNothing (h : Handle) (answer : Rect → Outcome (Option Address)) : Prop where
  tooFar : ∀ r, h.format.TooFar r → ∃ fault, answer r = .error (.error (.arithmetic fault))
  near : ∀ r, ¬h.format.TooFar r → answer r = .error (.error .mappingFailed)

namespace FirstLock

/-- Between the corner of its region and the answer of the allocator, a first CPU lock decides
    nothing. -/
theorem lock_eq (h_first : FirstLock o h usage) (r : Rect) (env : Env SystemState) :
    (o.lock systemBackend h ⟨usage, r⟩ env).1 =
      match h.format.mapCorner r with
      | .error e => .error (.error e)
      | .ok corner =>
        (openedBy h (env.devices.map o.id corner.fromOrigin usage.access).1).map fun mapping =>
          (o.withMapping mapping corner).addLock usage := by
  have h_permits : permits h (LockRequest.mk usage r).usage = true := h_first.permitted
  have h_union : (LockRequest.mk usage r).usage ∪ o.lockedFor = usage := h_first.union_eq
  rcases h_corner : h.format.mapCorner r with e | corner
  · rw [lock_noCorner_eq systemBackend env h_permits h_first.nestable h_first.cpu_union h_corner]
  · rw [lock_unmapped_eq systemBackend env h_permits h_first.nestable h_first.cpu_union h_corner
      h_first.unmapped, h_union]
    -- that the lock has been reported makes no difference to the devices
    simp only [openMapping_eq, Env.note]

/-- The allocator looks at the size of a buffer that is not mapped, and asks the kernel. -/
theorem lock_unmapped_buffer_eq (h_first : FirstLock o h usage)
    (h_find : env.devices.buffers.find? o.id = some b) (h_unmapped : b.mapping = none)
    (h_stride : b.stride = h.stride) (r : Rect) :
    (o.lock systemBackend h ⟨usage, r⟩ env).1 =
      match h.format.mapCorner r with
      | .error e => .error (.error e)
      | .ok corner =>
        if corner.fits b.extent then
          match env.devices.kernel.map b.descriptor b.size usage.access with
          | .error _ => .error (.error .mappingFailed)
          | .ok (id, _) => .ok ((o.withMapping ⟨⟨id, 0⟩, b.stride⟩ corner).addLock usage)
        else .error (.error .mappingFailed) := by
  rw [h_first.lock_eq r env]
  rcases h.format.mapCorner r with e | corner
  · rfl
  simp only [SystemState.map, h_find, SystemBuffer.map_corner h_unmapped]
  by_cases h_fits : corner.fits b.extent = true
  · simp only [if_pos h_fits]
    rcases env.devices.kernel.map b.descriptor b.size usage.access with e | ⟨id, k⟩
    · rfl
    · simp only [openedBy, if_pos h_stride]
      rfl
  · simp only [if_neg h_fits]
    rfl

/-- A region whose corner does not fit is refused, whatever the allocator would answer. -/
theorem tooFar (h_first : FirstLock o h usage) {r : Rect} (h_far : h.format.TooFar r)
    (env : Env SystemState) : ∃ fault,
      (o.lock systemBackend h ⟨usage, r⟩ env).1.map (·.address?) =
        .error (.error (.arithmetic fault)) := by
  obtain ⟨fault, h_corner⟩ := h_far.mapCorner
  rw [h_first.lock_eq r env, h_corner]
  exact ⟨fault, rfl⟩

/-- If the allocator refuses to map the buffer, no lock is granted. -/
theorem acceptsNothing (h_first : FirstLock o h usage)
    (h_refused : ∀ corner : Corner, ∃ e,
      (env.devices.map o.id corner.fromOrigin usage.access).1 = .error (.error e)) :
    AcceptsNothing h fun r => (o.lock systemBackend h ⟨usage, r⟩ env).1.map (·.address?) where
  tooFar _ h_far := h_first.tooFar h_far env
  near r h_near := by
    obtain ⟨corner, h_corner⟩ := PixelFormat.mapCorner_of_near h_near
    obtain ⟨e, h_map⟩ := h_refused corner
    -- whatever the allocator gives as its reason, the lock says that there is no mapping
    rw [h_first.lock_eq r env, h_corner]
    simp only [h_map]
    rfl

/-- If the buffer is not mapped and the kernel maps its memory, only the region decides. -/
theorem acceptsInside (h_first : FirstLock o h usage)
    (h_find : env.devices.buffers.find? o.id = some b) (h_unmapped : b.mapping = none)
    (h_holds : b.Holds h) (h_size : 0 < b.size) {memory : MemoryId}
    (h_granted : env.devices.kernel.mappable b.descriptor b.size usage.access = .ok memory) :
    AcceptsInside h ⟨env.devices.kernel.nextMapping, 0⟩ fun r =>
      (o.lock systemBackend h ⟨usage, r⟩ env).1.map (·.address?) := by
  obtain ⟨k, h_map⟩ := Kernel.map_granted usage.access_ne_empty (Nat.ne_of_gt h_size) h_granted
  -- unless its corner does not fit its words, a region is in the image or out of it
  have h_near : ∀ r, ¬h.format.TooFar r →
      (o.lock systemBackend h ⟨usage, r⟩ env).1.map (·.address?) =
        if h.format.LiesIn r h.size then .ok (some ⟨env.devices.kernel.nextMapping, 0⟩)
        else .error (.error .mappingFailed) := by
    intro r h_near
    obtain ⟨corner, h_corner⟩ := PixelFormat.mapCorner_of_near h_near
    have h_fits := PixelFormat.fits_iff_liesIn h_holds.extent h_corner
    rw [h_first.lock_unmapped_buffer_eq h_find h_unmapped h_holds.stride r, h_corner]
    by_cases h_lies : h.format.LiesIn r h.size
    · simp only [if_pos h_lies, if_pos (h_fits.mpr h_lies), h_map]
      rfl
    · simp only [if_neg h_lies, if_neg (mt h_fits.mp h_lies)]
      rfl
  refine ⟨fun r => ⟨fun h_ok => ?_, fun h_lies => ?_⟩, fun r h_far => h_first.tooFar h_far env,
    fun r h_outside h_not_far => ?_⟩
  · by_contra h_outside
    by_cases h_far : h.format.TooFar r
    · obtain ⟨fault, h_failed⟩ := h_first.tooFar h_far env
      exact nomatch h_failed.symm.trans h_ok
    · rw [h_near r h_far, if_neg h_outside] at h_ok
      exact nomatch h_ok
  · rw [h_near r (h_lies.not_tooFar h_holds.extent), if_pos h_lies]
  · rw [h_near r h_not_far, if_neg h_outside]

end FirstLock

end GraphicsBuffer.BufferObject
