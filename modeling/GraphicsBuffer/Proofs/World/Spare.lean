/-
  GraphicsBuffer.Proofs.World.Spare

  Buffers that are mapped only for their objects. On the allocator on shared memory a buffer whose
  object records no mapping is as it was made, as long as no lock of it is aborted after it has been
  mapped. A first CPU lock of its whole image then succeeds exactly if the kernel grants the
  mapping.
-/

import GraphicsBuffer.Proofs.BufferObject.FirstLock
import GraphicsBuffer.Proofs.World.Bare
import GraphicsBuffer.Proofs.World.Operation

namespace GraphicsBuffer

/-! ## Objects -/

section Objects

variable {env env' : Env SystemState} {o o' : BufferObject} {h : Handle} {b : SystemBuffer}

/-- The buffer of an object is as it was made, but for a mapping, and mapped only while the object
    records that. -/
structure Spare (b : SystemBuffer) (o : BufferObject) (s : SystemState) : Prop where
  bare : IsBare b o s
  unmapped : o.mapping = none → s.buffers.find? o.id = some b

/-- A buffer whose mapping ends is as it was made. -/
theorem SystemState.unmap_spare {s : SystemState} {id : BufferId} (h_bare : s.bare? id = some b) :
    (s.unmap id).buffers.find? id = some b := by
  obtain ⟨b', h_find, rfl⟩ := Option.map_eq_some_iff.mp h_bare
  simp only [SystemState.unmap, h_find, SystemState.set, SystemBuffer.unmap_buffer]
  exact Table.find?_insert_self _ _ _

variable [PageSize]

namespace BufferObject

/-- A mapping that is not opened leaves the devices as they were, unless the rows of the mapping
    were not as long as expected. -/
theorem openMapping_devices {id : BufferId} {region : Rect} {corner : Corner} {access : Access}
    {f : Failure} (h_open : openMapping systemBackend id h region corner access env =
      (.error f, env')) (h_f : f ≠ .abort .strideMismatch) : env'.devices = env.devices := by
  obtain ⟨given, h_call, -, h_given⟩ := openMapping_failed h_open
  rcases h_given with ⟨e, rfl, -⟩ | ⟨a, rfl, -⟩ | ⟨mapping, -, -, h_abort⟩
  · exact SystemState.map_failed h_call
  · exact SystemState.map_failed h_call
  · exact absurd h_abort h_f

/-- A lock that fails takes nothing from the buffer, unless it is aborted. -/
theorem LockOutcome.spare_failed {request : LockRequest} {f : Failure}
    (h_lock : LockOutcome systemBackend o h request env (.error f, env'))
    (h_f : f ≠ .abort .strideMismatch) (h_o : Spare b o env.devices) :
    Spare b o env'.devices := by
  cases h_lock with
  | notPermitted _ => exact h_o
  | incompatible _ _ => exact h_o
  | noCorner _ _ _ _ => exact h_o
  | unmapped _ _ _ _ _ h_open =>
    rw [openMapping_devices h_open h_f]
    exact h_o
  | beyond _ _ _ _ _ _ => exact h_o

end BufferObject

open BufferObject (LockOutcome UnlockOutcome)

/-- No lock that is granted and no unlock takes anything from the buffer. -/
theorem spare_abiding (b : SystemBuffer) : Abiding (Spare b) where
  of_same h_find h_o := by
    refine ⟨(isBare_lasting b).of_same h_find h_o.bare, fun h_unmapped => ?_⟩
    rw [h_find]
    exact h_o.unmapped h_unmapped
  of_locked h_lock h_o := by
    refine ⟨(isBare_lasting b).of_locked h_lock h_o.bare, fun h_unmapped => ?_⟩
    cases h_lock with
    | device _ _ _ => exact h_o.unmapped h_unmapped
    | mapped _ _ _ _ _ _ => exact nomatch h_unmapped
    | shared _ _ _ _ h_mapping _ => exact nomatch h_mapping.symm.trans h_unmapped
  of_unlocked h_unlock h_o := by
    refine ⟨(isBare_lasting b).of_unlocked h_unlock h_o.bare, fun h_unmapped => ?_⟩
    cases h_unlock with
    | idle _ => exact h_o.unmapped h_unmapped
    | inner _ _ => exact h_o.unmapped h_unmapped
    | last _ h_mapping => exact h_o.unmapped h_mapping
    | lastMapped _ _ => exact SystemState.unmap_spare h_o.bare

/-! ## Locks of a whole image -/

/-- A first CPU lock of the whole image of a handle is granted, with the address of the first pixel
    of the buffer behind the object, if the kernel maps all of the buffer's memory for it, and fails
    for want of a mapping if not. -/
structure LocksAsMapped (b : SystemBuffer) (o : BufferObject) (h : Handle) (usage : Usage)
    (env : Env SystemState) : Prop where
  buffer : env.devices.buffers.find? o.id = some b
  granted : ∀ memory,
    env.devices.kernel.mappable b.descriptor b.size usage.access = .ok memory →
    ∃ o', (o.lock systemBackend h (h.wholeImage usage) env).1 = .ok o' ∧
      o'.address? = some ⟨env.devices.kernel.nextMapping, 0⟩
  refused : ∀ e,
    env.devices.kernel.mappable b.descriptor b.size usage.access = .error e →
    (o.lock systemBackend h (h.wholeImage usage) env).1 = .error (.error .mappingFailed)

section Whole

variable {usage : Usage} (h_find : env.devices.buffers.find? o.id = some b)
  (h_unmapped : b.mapping = none) (h_holds : b.Holds h)
  (h_first : BufferObject.FirstLock o h usage)

include h_find h_unmapped h_holds h_first

/-- A first CPU lock of the whole image is answered as the allocator answers for all of the
    buffer. -/
theorem whole_lock_eq :
    (o.lock systemBackend h (h.wholeImage usage) env).1 =
      match env.devices.kernel.map b.descriptor b.size usage.access with
      | .error _ => .error (.error .mappingFailed)
      | .ok (id, _) =>
        .ok ((o.withMapping ⟨⟨id, 0⟩, b.stride⟩ ⟨b.extent.width, b.extent.height⟩).addLock
          usage) := by
  have h_corner : h.format.mapCorner (h.wholeImage usage).region =
      .ok ⟨b.extent.width, b.extent.height⟩ := by
    rw [BufferObject.mapCorner_whole, h_holds.extent]
    rfl
  have h_request : h.wholeImage usage = ⟨usage, (h.wholeImage usage).region⟩ := rfl
  rw [h_request, h_first.lock_unmapped_buffer_eq h_find h_unmapped h_holds.stride, h_corner]
  exact if_pos (SystemBuffer.fits_whole b.extent)

/-- The kernel alone decides about a first CPU lock of a whole image. -/
theorem locksAsMapped (h_size : 0 < b.size) : LocksAsMapped b o h usage env where
  buffer := h_find
  granted memory h_granted := by
    obtain ⟨k, h_map⟩ := Kernel.map_granted usage.access_ne_empty (Nat.ne_of_gt h_size) h_granted
    rw [whole_lock_eq h_find h_unmapped h_holds h_first, h_map]
    exact ⟨_, rfl, rfl⟩
  refused e h_refused := by
    have h_map := Kernel.map_refused usage.access_ne_empty (Nat.ne_of_gt h_size) h_refused
    rw [whole_lock_eq h_find h_unmapped h_holds h_first, h_map]

end Whole

end Objects

/-! ## Worlds -/

namespace World

variable {w w' : World SystemState} {b : SystemBuffer} {id : BufferId}

/-- Every operation keeps a buffer spare, unless a lock is aborted for the rows of its mapping. -/
theorem Operation.spare [PageSize]
    (h_operation : Operation systemBackend (· ≠ .abort .strideMismatch) w w')
    (h : Watched (Spare b) id w.env w.objects) : Watched (Spare b) id w'.env w'.objects :=
  h_operation.keeps (I := Watched (Spare b) id)
    (fun h_change h_before => h_change.watched_of_lock (spare_abiding b)
      (fun _ _ _ h_never => h_never.elim) h_before)
    (fun handle request h_live h_tolerated h_before =>
      h_before.lockObject (spare_abiding b) h_live handle request fun h_failed h_lock h_o =>
        h_lock.spare_failed (h_tolerated _ h_failed) h_o) h

/-- A new buffer that is not mapped is spare. -/
theorem spare_of_new {env env' : Env SystemState} {objects : Table BufferId BufferObject}
    (h_numbered : Numbered env objects) (h_next : env'.nextBuffer = env.nextBuffer + 1)
    (h_find : env'.devices.buffers.find? env.nextBuffer = some b) (h_unmapped : b.mapping = none) :
    Watched (Spare b) env.nextBuffer env'
      (objects.insert env.nextBuffer { id := env.nextBuffer }) := by
  have h_given : env.nextBuffer < env'.nextBuffer := by
    rw [h_next]
    exact Nat.lt_succ_self _
  have h_bare : b.unmapped = b := by
    rw [SystemBuffer.unmapped, ← h_unmapped]
  refine ⟨h_numbered.insert (o := { id := env.nextBuffer }) (Nat.le_of_lt h_given) h_given, h_given,
    fun o h_live => ?_⟩
  obtain rfl : { id := env.nextBuffer } = o :=
    Option.some.inj ((Table.find?_insert_self objects _ _).symm.trans h_live)
  exact ⟨(SystemState.bare?_of_find? h_find).trans (congrArg some h_bare), fun _ => h_find⟩

/-- A buffer is behind a handle: it holds the image that the handle describes, is on the memory of
    the handle, and is spare. -/
structure Behind (b : SystemBuffer) (id : BufferId) (h : Handle) (w : World SystemState) :
    Prop where
  holds : b.Holds h
  descriptor : h.descriptor = some b.descriptor
  unmapped : b.mapping = none
  watched : Watched (Spare b) id w.env w.objects

/-- A buffer has been made for a handle: it holds the image that the handle describes, is on the
    memory of the handle, and is spare. -/
structure MadeFor (b : SystemBuffer) (id : BufferId) (h : Handle) (w : World SystemState) :
    Prop where
  holds : b.Holds h
  descriptor : h.descriptor = some b.descriptor
  unmapped : b.mapping = none
  nonempty : 0 < b.size
  watched : Watched (Spare b) id w.env w.objects

/-- A buffer that is allocated has been made for its handle. -/
theorem madeFor_of_allocate [PageSize] (h_numbered : Numbered w.env w.objects) {device : DeviceId}
    {h h' : Handle} {o : BufferObject} {env : Env SystemState}
    (h_call : BufferObject.allocate systemBackend device h w.env = (.ok (o, h'), env)) :
    ∃ b, MadeFor b w.env.nextBuffer h' (w.addObject o env) := by
  obtain ⟨b, h_find, h_holds, h_descriptor, h_unmapped, h_size⟩ :=
    BufferObject.allocate_holds h_call
  obtain ⟨rfl, h_next, -⟩ := BufferObject.allocate_ok h_call
  exact ⟨b, h_holds, h_descriptor, h_unmapped, h_size,
    spare_of_new h_numbered h_next h_find h_unmapped⟩

/-- It is behind its handle. -/
theorem MadeFor.behind {id : BufferId} {h : Handle} (h_made : MadeFor b id h w) :
    Behind b id h w :=
  ⟨h_made.holds, h_made.descriptor, h_made.unmapped, h_made.watched⟩

/-- So is a buffer that is imported for a handle. The import may have been reported before. -/
theorem behind_of_importFrom [PageSize] (h_numbered : Numbered w.env w.objects) {device : DeviceId}
    {h : Handle} {o : BufferObject} {before env : Env SystemState}
    (h_before : before.nextBuffer = w.env.nextBuffer)
    (h_call : BufferObject.importFrom systemBackend device h before = (.ok o, env)) :
    ∃ b, Behind b w.env.nextBuffer h (w.addObject o env) := by
  obtain ⟨layout, size, b, h_storage, h_wraps, h_find, -⟩ :=
    BufferObject.importFrom_wraps h_call
  obtain ⟨rfl, h_next⟩ := BufferObject.importFrom_ok h_call
  have h_extent : h.format.physicalExtent h.size = .ok b.extent := by
    rw [h_wraps.extent]
    exact BufferObject.physicalExtent_of_storage h_storage
  rw [h_before] at h_next h_find ⊢
  exact ⟨b, ⟨h_extent, h_wraps.stride⟩, h_wraps.descriptor, h_wraps.unmapped,
    spare_of_new h_numbered h_next h_find h_wraps.unmapped⟩

end World

end GraphicsBuffer
