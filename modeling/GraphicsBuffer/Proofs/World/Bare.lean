/-
  GraphicsBuffer.Proofs.World.Bare

  Buffers apart from their mappings. On the allocator on shared memory a buffer stays as it was made
  for as long as its object is live: on the same memory, of the same size, with the same rows. A
  buffer that is made for a handle, or imported for one, is on the memory of the handle, all of it.
-/

import GraphicsBuffer.Proofs.Backend.Memory
import GraphicsBuffer.Proofs.World.Evolution
import GraphicsBuffer.Proofs.World.Watch

namespace GraphicsBuffer

/-! ## Buffers -/

theorem SystemBuffer.map_unmapped {k k' : Kernel} {b b' : SystemBuffer} {region : Rect}
    {access : Access} {mapping : BackendMapping}
    (h : b.map k region access = .ok (mapping, b', k')) : b'.unmapped = b.unmapped := by
  obtain ⟨id, -, -, rfl⟩ := map_eq_ok h
  rfl

namespace SystemState

variable {s : SystemState} {id : BufferId}

/-- A buffer apart from its mapping, if it is there. -/
def bare? (s : SystemState) (id : BufferId) : Option SystemBuffer :=
  (s.buffers.find? id).map SystemBuffer.unmapped

theorem bare?_of_find? {b : SystemBuffer} (h_find : s.buffers.find? id = some b) :
    s.bare? id = some b.unmapped := by
  rw [bare?, h_find]
  rfl

/-- A buffer may take the place of one that is the same but for its mapping. -/
theorem bare?_set {b b' : SystemBuffer} (h_find : s.buffers.find? id = some b)
    (h_same : b'.unmapped = b.unmapped) (kernel : Kernel) :
    (s.set id b' kernel).bare? id = s.bare? id := by
  rw [bare?_of_find? h_find, ← h_same]
  exact bare?_of_find? (Table.find?_insert_self _ _ _)

theorem map_bare (s : SystemState) (id : BufferId) (region : Rect) (access : Access) :
    (s.map id region access).2.bare? id = s.bare? id := by
  unfold SystemState.map
  rcases h_find : s.buffers.find? id with _ | b
  · rfl
  simp only
  rcases h_call : b.map s.kernel region access with f | ⟨mapping, b', kernel⟩
  · rfl
  · exact bare?_set h_find (SystemBuffer.map_unmapped h_call) kernel

theorem unmap_bare (s : SystemState) (id : BufferId) : (s.unmap id).bare? id = s.bare? id := by
  unfold SystemState.unmap
  rcases h_find : s.buffers.find? id with _ | b
  · rfl
  · exact bare?_set h_find (by rw [SystemBuffer.unmap_buffer]; rfl) _

end SystemState

/-! ## Objects -/

variable [PageSize]

section Objects

variable {env env' : Env SystemState} {o : BufferObject} {h : Handle}

namespace BufferObject

theorem openMapping_bare {id : BufferId} {region : Rect} {corner : Corner} {access : Access}
    {answer : Outcome BackendMapping}
    (h_open : openMapping systemBackend id h region corner access env = (answer, env')) :
    env'.devices.bare? id = env.devices.bare? id := by
  obtain ⟨given, h_call, -⟩ := openMapping_spec h_open
  have h_bare := SystemState.map_bare env.devices id corner.fromOrigin access
  rwa [show env.devices.map id corner.fromOrigin access = (given, env'.devices) from h_call]
    at h_bare

theorem LockOutcome.bare {request : LockRequest} {answer : Outcome BufferObject}
    (h_lock : LockOutcome systemBackend o h request env (answer, env')) :
    env'.devices.bare? o.id = env.devices.bare? o.id := by
  cases h_lock with
  | notPermitted _ => rfl
  | incompatible _ _ => rfl
  | device _ _ _ => rfl
  | noCorner _ _ _ _ => rfl
  | unmapped _ _ _ _ _ h_open => exact openMapping_bare h_open
  | mapped _ _ _ _ _ h_open => exact openMapping_bare h_open
  | beyond _ _ _ _ _ _ => rfl
  | shared _ _ _ _ _ _ => rfl

theorem UnlockOutcome.bare {o' : BufferObject}
    (h_unlock : UnlockOutcome systemBackend o env (o', env')) :
    env'.devices.bare? o.id = env.devices.bare? o.id := by
  cases h_unlock with
  | idle _ => rfl
  | inner _ _ => rfl
  | last _ _ => rfl
  | lastMapped _ _ => exact SystemState.unmap_bare env.devices o.id

end BufferObject

/-- The buffer of an object, apart from its mapping. -/
def IsBare (b : SystemBuffer) (o : BufferObject) (s : SystemState) : Prop := s.bare? o.id = some b

/-- A buffer stays as it is, apart from its mapping, for as long as its object is live. -/
theorem isBare_lasting (b : SystemBuffer) : Lasting (IsBare b) where
  of_same h_find h := by
    rw [IsBare, SystemState.bare?, h_find]
    exact h
  of_failed h_lock h := h_lock.bare.trans h
  of_locked h_lock h := by
    rw [IsBare, h_lock.numbers.2 _ rfl]
    exact h_lock.bare.trans h
  of_unlocked h_unlock h := by
    rw [IsBare, h_unlock.numbers.2]
    exact h_unlock.bare.trans h

end Objects

/-! ## Handles and their buffers -/

/-- A buffer is on the memory of a handle, and takes up all of it. -/
def SystemState.Houses (s : SystemState) (id : BufferId) (h : Handle) : Prop :=
  ∃ b, s.bare? id = some b ∧ h.descriptor = some b.descriptor ∧
    s.kernel.endOf b.descriptor = .ok b.size

section Houses

variable {env env' : Env SystemState} {o : BufferObject} {h h' : Handle}

namespace BufferObject

theorem allocate_houses {device : DeviceId}
    (h_call : allocate systemBackend device h env = (.ok (o, h'), env')) :
    env'.devices.Houses env.nextBuffer h' := by
  obtain ⟨layout, size, b, -, h_made, rfl, h_buffers, -⟩ := allocate_made h_call
  refine ⟨b.unmapped, SystemState.bare?_of_find? ?_, rfl, ?_⟩
  · rw [h_buffers]
    exact Table.find?_insert_self _ _ _
  · show env'.devices.kernel.endOf b.descriptor = .ok b.size
    rw [h_made.descriptor]
    exact Kernel.endOf_memory_eq_ok_iff.mpr ⟨_, h_made.memory, rfl⟩

/-- A buffer that is imported for a handle is what the handle asks for. -/
theorem importFrom_wraps {device : DeviceId}
    (h_call : importFrom systemBackend device h env = (.ok o, env')) :
    ∃ layout size b, storage h = .ok (layout, size) ∧
      SystemBuffer.Wraps env.devices.kernel ⟨size, layout, h.descriptor, h.stride, h.modifier⟩ b ∧
      env'.devices.buffers.find? env.nextBuffer = some b ∧
      env'.devices.kernel = env.devices.kernel := by
  have h_outcome := h_call ▸ importFrom_outcome systemBackend device h env
  cases h_outcome with
  | @imported descriptor layout size id _ h_descriptor h_storage h_import =>
    simp only [Env.importBuffer, Env.note, systemBackend] at h_import
    rcases h_request : SystemBuffer.ofRequest env.devices.kernel
      ⟨size, layout, some descriptor, h.stride, h.modifier⟩ with f | b
    · rw [h_request] at h_import
      cases (Prod.mk.inj h_import).1
    · rw [h_request] at h_import
      obtain ⟨-, rfl⟩ := Prod.mk.inj h_import
      exact ⟨layout, size, b, h_storage, h_descriptor ▸ SystemBuffer.ofRequest_wraps h_request,
        Table.find?_insert_self _ _ _, rfl⟩

theorem importFrom_houses {device : DeviceId}
    (h_call : importFrom systemBackend device h env = (.ok o, env')) :
    env'.devices.Houses env.nextBuffer h := by
  obtain ⟨layout, size, b, -, h_wraps, h_find, h_kernel⟩ := importFrom_wraps h_call
  exact ⟨b.unmapped, SystemState.bare?_of_find? h_find, h_wraps.descriptor,
    h_kernel ▸ h_wraps.memory⟩

end BufferObject

namespace World

variable {w w' : World SystemState} {m : ManagerId}

/-- A handle that is resolved is given back as it was, or stands for the next buffer, which is on
    its memory. -/
theorem resolve_houses {useDevice : Bool} {found : Option BufferId}
    (h_resolve : w.resolve systemBackend m useDevice h = (.ok (found, h'), w')) :
    h' = h ∨ (h.registration = none ∧ w'.env.devices.Houses w.env.nextBuffer h') := by
  unfold resolve at h_resolve
  split at h_resolve
  · exact .inl (Prod.mk.inj (Except.ok.inj (Prod.mk.inj h_resolve).1)).2.symm
  next h_unowned =>
  split at h_resolve
  · exact .inl (Prod.mk.inj (Except.ok.inj (Prod.mk.inj h_resolve).1)).2.symm
  · exact .inl (Prod.mk.inj (Except.ok.inj (Prod.mk.inj h_resolve).1)).2.symm
  · simp only at h_resolve
    split at h_resolve
    · exact nomatch (Prod.mk.inj h_resolve).1
    next h_call =>
    obtain ⟨h_found, rfl⟩ := Prod.mk.inj h_resolve
    obtain ⟨-, rfl⟩ := Prod.mk.inj (Except.ok.inj h_found)
    have h_houses := BufferObject.importFrom_houses h_call
    exact .inr ⟨Option.not_isSome_iff_eq_none.mp h_unowned, h_houses⟩

theorem register_houses (h_register : w.register systemBackend m h = (.ok h', w')) :
    h' = h ∨ (h.registration = none ∧ w'.env.devices.Houses w.env.nextBuffer h') := by
  unfold register at h_register
  rcases h_resolve : w.resolve systemBackend m true h with ⟨f | ⟨_ | id, handle⟩, w₁⟩
  · rw [h_resolve] at h_register
    exact nomatch (Prod.mk.inj h_register).1
  · rw [h_resolve] at h_register
    exact nomatch (Prod.mk.inj h_register).1
  · rw [h_resolve] at h_register
    obtain ⟨h_ok, rfl⟩ := Prod.mk.inj h_register
    obtain rfl := Except.ok.inj h_ok
    exact resolve_houses h_resolve

end World

end Houses

end GraphicsBuffer
