/-
  GraphicsBuffer.Proofs.World.Provision

  Objects on the allocator on shared memory. Every live object has its buffer, and what it has
  mapped is what its buffer has mapped: each elementary change touches the buffer of one object at
  most and leaves all others as they were.
-/

import GraphicsBuffer.Proofs.World.Watch

namespace GraphicsBuffer

open Kernel (Grows)
open World (Change Numbered)
open SystemState (SameExcept)

/-! ## Objects and their buffers -/

/-- The buffer of an object is there, and a mapping of the object is that of its buffer, made for a
    region inside it. -/
def Backed (s : SystemState) (o : BufferObject) : Prop :=
  ∃ b, s.buffers.find? o.id = some b ∧ ∀ mapping, o.mapping = some mapping →
    b.mapping = some mapping.address.mapping ∧ mapping.address.offset = 0 ∧
      mapping.stride = b.stride ∧ o.mappedCorner.fits b.extent = true

theorem Backed.of_find? {s s' : SystemState} {o : BufferObject} (h : Backed s o)
    (h_find : s'.buffers.find? o.id = s.buffers.find? o.id) : Backed s' o := by
  rw [Backed, h_find]
  exact h

/-- What holds of the objects of a world and the buffers behind them. -/
structure Provided (env : Env SystemState) (objects : Table BufferId BufferObject) : Prop where
  numbered : Numbered env objects
  devices : env.devices.Sound env.nextBuffer
  backed : ∀ id o, objects.find? id = some o → Backed env.devices o

/-- What the kernel records of the mapping of a live object: the memory of the buffer, as long as it
    was measured, from its first byte on. -/
theorem Provided.record {env : Env SystemState} {objects : Table BufferId BufferObject}
    (h : Provided env objects) {id : BufferId} {o : BufferObject} {mapping : BackendMapping}
    (h_live : objects.find? id = some o) (h_mapping : o.mapping = some mapping) :
    mapping.address.offset = 0 ∧ mapping.address.mapping < env.devices.kernel.nextMapping ∧
      ∃ b memory access, env.devices.buffers.find? o.id = some b ∧
        b.descriptor = .memory memory ∧
        env.devices.kernel.mappings.find? mapping.address.mapping =
          some ⟨memory, b.size, access⟩ := by
  obtain ⟨b, h_find, h_facts⟩ := h.backed id o h_live
  obtain ⟨h_same, h_offset, -, -⟩ := h_facts mapping h_mapping
  obtain ⟨-, h_b⟩ := h.devices.buffers o.id b h_find
  obtain ⟨h_given, memory, access, h_descriptor, h_record⟩ := h_b.mapped _ h_same
  exact ⟨h_offset, h_given, b, memory, access, h_find, h_descriptor, h_record⟩

/-! ## Calls -/

section Calls

variable {env env' : Env SystemState}

/-- What a call for a buffer leaves behind: sound buffers, all others as they were, and a buffer
    with the next number if the call succeeds. -/
structure Added {α : Type} (env : Env SystemState) (answer : Outcome α) (number : α → BufferId)
    (env' : Env SystemState) : Prop where
  sound : env'.devices.Sound env'.nextBuffer
  same : SameExcept env.nextBuffer env.devices env'.devices
  there : ∀ a, answer = .ok a → number a = env.nextBuffer ∧
    ∃ b, env'.devices.buffers.find? env.nextBuffer = some b

theorem added_of_sound (h : env.devices.Sound env.nextBuffer)
    {made : Outcome (SystemBuffer × Kernel)}
    (h_made : ∀ b kernel, made = .ok (b, kernel) →
      b.Sound kernel ∧ Grows env.devices.kernel kernel ∧ b.mapping = none)
    {answer : Outcome BufferId}
    (h_devices : (env.devices.add env.nextBuffer made).2 = env'.devices)
    (h_next : (∃ f, answer = .error f ∧ env'.nextBuffer = env.nextBuffer ∧
        (env.devices.add env.nextBuffer made).1 = .error f) ∨
      (answer = .ok env.nextBuffer ∧ env'.nextBuffer = env.nextBuffer + 1 ∧
        (env.devices.add env.nextBuffer made).1 = .ok ())) : Added env answer id env' := by
  rcases h_add : env.devices.add env.nextBuffer made with ⟨added, s'⟩
  rw [h_add] at h_devices h_next
  obtain rfl : s' = env'.devices := h_devices
  -- the backend's answer and the number that is given out agree
  rcases h.add h_made h_add with ⟨f, rfl, h_same⟩ | ⟨rfl, h_sound, h_same, h_there⟩
  · rcases h_next with ⟨_, rfl, h_next, -⟩ | ⟨-, -, h_ok⟩
    · refine ⟨?_, ?_, nofun⟩
      · rw [h_same, h_next]
        exact h
      · rw [h_same]
        exact SameExcept.refl _ _
    · exact nomatch h_ok
  · rcases h_next with ⟨_, -, -, h_error⟩ | ⟨rfl, h_next, -⟩
    · exact nomatch h_error
    · exact ⟨h_next ▸ h_sound, h_same, fun _ h_id => ⟨(Except.ok.inj h_id).symm, h_there⟩⟩

variable [PageSize]

theorem create_added {device : DeviceId} {size : Extent} {layout : FourCC} {flags : BindFlags}
    {answer : Outcome BufferId}
    (h_call : env.create systemBackend device size layout flags = (answer, env'))
    (h : env.devices.Sound env.nextBuffer) : Added env answer id env' := by
  obtain ⟨h_devices, -, h_next⟩ := Env.create_spec h_call
  exact added_of_sound h (fun _ _ => SystemBuffer.create_spec) h_devices h_next

theorem importBuffer_added {device : DeviceId} {request : ImportRequest}
    {answer : Outcome BufferId}
    (h_call : env.importBuffer systemBackend device request = (answer, env'))
    (h : env.devices.Sound env.nextBuffer) : Added env answer id env' := by
  obtain ⟨h_devices, -, h_next⟩ := Env.importBuffer_spec h_call
  refine added_of_sound h (fun b kernel h_map => ?_) h_devices h_next
  obtain ⟨h_request, rfl⟩ := SystemBuffer.ofRequest_of_map h_map
  obtain ⟨h_b, h_mapping⟩ := SystemBuffer.ofRequest_spec h_request
  exact ⟨h_b, Grows.refl _, h_mapping⟩

/-- What an allocation leaves behind, whatever comes of it. -/
theorem allocate_added {m : ManagerId} {handle : Handle}
    {answer : Outcome (BufferObject × Handle)}
    (h_call : BufferObject.allocate systemBackend m handle env = (answer, env'))
    (h : env.devices.Sound env.nextBuffer) : Added env answer (·.1.id) env' := by
  have h_outcome := h_call ▸ BufferObject.allocate_outcome systemBackend m handle env
  cases h_outcome with
  | noStorage _ => exact ⟨h, SameExcept.refl _ _, nofun⟩
  | aborted _ h_create =>
    have h_added := create_added h_create h
    exact ⟨h_added.sound, h_added.same, nofun⟩
  | refused _ h_create =>
    have h_added := create_added h_create h
    exact ⟨h_added.sound, h_added.same, nofun⟩
  | unexported _ h_create h_export =>
    have h_added := create_added h_create h
    obtain ⟨-, -, h_next⟩ := Env.exportDescriptor_spec h_export
    refine ⟨?_, BufferObject.allocate_same h_call, nofun⟩
    -- the buffer that was just made is freed again
    rw [Env.destroy_devices, Env.destroy_nextBuffer, Env.exportDescriptor_same h_export, h_next]
    exact h_added.sound.destroy _
  | allocated _ h_create h_export =>
    have h_added := create_added h_create h
    obtain ⟨-, -, h_next⟩ := Env.exportDescriptor_spec h_export
    have h_devices := Env.exportDescriptor_same h_export
    obtain ⟨rfl, h_there⟩ := h_added.there _ rfl
    refine ⟨?_, BufferObject.allocate_same h_call, fun a h_a => ?_⟩
    · rw [h_devices, h_next]
      exact h_added.sound
    · obtain rfl := Except.ok.inj h_a
      rw [h_devices]
      exact ⟨rfl, h_there⟩

/-- What an import leaves behind, whatever comes of it. -/
theorem importFrom_added {m : ManagerId} {handle : Handle} {answer : Outcome BufferObject}
    (h_call : BufferObject.importFrom systemBackend m handle env = (answer, env'))
    (h : env.devices.Sound env.nextBuffer) : Added env answer (·.id) env' := by
  have h_outcome := h_call ▸ BufferObject.importFrom_outcome systemBackend m handle env
  cases h_outcome with
  | noDescriptor _ => exact ⟨h, SameExcept.refl _ _, nofun⟩
  | noStorage _ _ => exact ⟨h, SameExcept.refl _ _, nofun⟩
  | aborted _ _ h_import =>
    have h_added := importBuffer_added h_import h
    exact ⟨h_added.sound, h_added.same, nofun⟩
  | refused _ _ h_import =>
    have h_added := importBuffer_added h_import h
    exact ⟨h_added.sound, h_added.same, nofun⟩
  | imported _ _ h_import =>
    have h_added := importBuffer_added h_import h
    refine ⟨h_added.sound, h_added.same, fun a h_a => ?_⟩
    obtain rfl := Except.ok.inj h_a
    exact h_added.there _ rfl

end Calls

/-! ## Elementary changes -/

namespace Provided

variable {env env' : Env SystemState} {objects : Table BufferId BufferObject}

/-- Objects whose buffers are as they were are still backed. -/
theorem backed_of_same (h : Provided env objects) {number : BufferId}
    (h_same : SameExcept number env.devices env'.devices) {id : BufferId} {o : BufferObject}
    (h_live : objects.find? id = some o) (h_ne : id ≠ number) : Backed env'.devices o := by
  refine (h.backed id o h_live).of_find? (h_same o.id ?_)
  rw [(h.numbered id o h_live).1]
  exact h_ne

/-- No live object has the number of a buffer that is yet to be made. -/
theorem backed_of_added (h : Provided env objects) {α : Type} {answer : Outcome α}
    {number : α → BufferId} (h_added : Added env answer number env') {id : BufferId}
    {o : BufferObject} (h_live : objects.find? id = some o) : Backed env'.devices o :=
  h.backed_of_same h_added.same h_live (Nat.ne_of_lt (h.numbered id o h_live).2)

/-- An object and its buffer are changed, and all others are left alone. -/
theorem replace (h : Provided env objects) {o o' : BufferObject}
    (h_live : objects.find? o.id = some o) (h_id : o'.id = o.id)
    (h_next : env'.nextBuffer = env.nextBuffer) (h_sound : env'.devices.Sound env.nextBuffer)
    (h_same : SameExcept o.id env.devices env'.devices) (h_backed : Backed env'.devices o') :
    Provided env' (objects.insert o'.id o') where
  numbered := by
    refine h.numbered.insert (Nat.le_of_eq h_next.symm) ?_
    rw [h_id, h_next]
    exact (h.numbered o.id o h_live).2
  devices := by
    rw [h_next]
    exact h_sound
  backed id o'' h_find := by
    rcases Table.find?_insert_eq_some h_find with ⟨-, rfl⟩ | ⟨h_ne, h_before⟩
    · exact h_backed
    · exact h.backed_of_same h_same h_before (h_id ▸ h_ne)

/-- The buffer of an object is changed, and the object with all others is left alone. -/
theorem keep (h : Provided env objects) {o : BufferObject} (h_live : objects.find? o.id = some o)
    (h_next : env'.nextBuffer = env.nextBuffer) (h_sound : env'.devices.Sound env.nextBuffer)
    (h_same : SameExcept o.id env.devices env'.devices) (h_backed : Backed env'.devices o) :
    Provided env' objects where
  numbered := h.numbered.mono (Nat.le_of_eq h_next.symm)
  devices := by
    rw [h_next]
    exact h_sound
  backed id o' h_find := by
    by_cases h_eq : id = o.id
    · rw [h_eq, h_live] at h_find
      obtain rfl := Option.some.inj h_find
      exact h_backed
    · exact h.backed_of_same h_same h_find h_eq

theorem added (h : Provided env objects) {α : Type} {answer : Outcome α} {number : α → BufferId}
    (h_added : Added env answer number env') (h_next : env.nextBuffer ≤ env'.nextBuffer) :
    Provided env' objects :=
  ⟨h.numbered.mono h_next, h_added.sound, fun _ _ h_live => h.backed_of_added h_added h_live⟩

/-- An object is made for the buffer that has been added. -/
theorem addedObject (h : Provided env objects) {α : Type} {answer : Outcome α}
    {number : α → BufferId} (h_added : Added env answer number env') {a : α} (h_ok : answer = .ok a)
    (h_next : env'.nextBuffer = env.nextBuffer + 1) :
    Provided env' (objects.insert env.nextBuffer { id := env.nextBuffer }) where
  numbered := h.numbered.insert (o := { id := env.nextBuffer }) (h_next ▸ Nat.le_succ _)
    (h_next ▸ Nat.lt_succ_self _)
  devices := h_added.sound
  backed id o h_find := by
    rcases Table.find?_insert_eq_some h_find with ⟨-, rfl⟩ | ⟨-, h_before⟩
    · obtain ⟨-, b, h_there⟩ := h_added.there a h_ok
      exact ⟨b, h_there, nofun⟩
    · exact h.backed_of_added h_added h_before

end Provided

variable [PageSize]

/-- Opening a mapping keeps the buffers sound; the mapping is that of the buffer, for a region
    inside it. -/
theorem openMapping_backed {env env' : Env SystemState} {next : BufferId} {o : BufferObject}
    {handle : Handle} {region : Rect} {corner : Corner} {access : Access}
    {answer : Outcome BackendMapping} (h_sound : env.devices.Sound next)
    (h_backed : Backed env.devices o) (h_mapping : o.mapping = none)
    (h_open : BufferObject.openMapping systemBackend o.id handle region corner access env =
      (answer, env')) :
    env'.devices.Sound next ∧ Backed env'.devices o ∧
      ∀ mapping, answer = .ok mapping → Backed env'.devices (o.withMapping mapping corner) := by
  obtain ⟨given, h_call, -, -, h_given⟩ := BufferObject.openMapping_spec h_open
  obtain ⟨h_sound', h_there, h_mapped⟩ := h_sound.map h_call
  obtain ⟨b, h_find, -⟩ := h_backed
  obtain ⟨b', h_find'⟩ := h_there b h_find
  refine ⟨h_sound', ⟨b', h_find', ?_⟩, fun mapping h_answer => ?_⟩
  · rw [h_mapping]
    exact nofun
  · -- the mapping that is kept is the one that the backend gave
    obtain ⟨b'', h_find'', h_facts⟩ := h_mapped mapping (h_given mapping h_answer).1
    refine ⟨b'', h_find'', fun mapping' h_some => ?_⟩
    obtain rfl : mapping = mapping' := Option.some.inj h_some
    exact h_facts

/-- Whatever a lock does, the buffers stay sound and its object stays backed. -/
theorem lock_backed {env env' : Env SystemState} {next : BufferId} {o : BufferObject}
    {handle : Handle} {request : LockRequest} {answer : Outcome BufferObject}
    (h_lock : BufferObject.LockOutcome systemBackend o handle request env (answer, env'))
    (h_sound : env.devices.Sound next) (h_backed : Backed env.devices o) :
    env'.devices.Sound next ∧ Backed env'.devices o ∧
      ∀ o', answer = .ok o' → Backed env'.devices o' := by
  cases h_lock with
  | notPermitted _ => exact ⟨h_sound, h_backed, nofun⟩
  | incompatible _ _ => exact ⟨h_sound, h_backed, nofun⟩
  | device _ _ _ => exact ⟨h_sound, h_backed, fun _ h_ok => Except.ok.inj h_ok ▸ h_backed⟩
  | noCorner _ _ _ _ => exact ⟨h_sound, h_backed, nofun⟩
  | unmapped _ _ _ _ h_mapping h_open =>
    -- the backend may have mapped the buffer all the same; the object does not know
    obtain ⟨h_sound', h_backed', -⟩ := openMapping_backed h_sound h_backed h_mapping h_open
    exact ⟨h_sound', h_backed', nofun⟩
  | mapped _ _ _ _ h_mapping h_open =>
    obtain ⟨h_sound', h_backed', h_mapped⟩ := openMapping_backed h_sound h_backed h_mapping h_open
    exact ⟨h_sound', h_backed', fun _ h_ok => Except.ok.inj h_ok ▸ h_mapped _ rfl⟩
  | beyond _ _ _ _ _ _ => exact ⟨h_sound, h_backed, nofun⟩
  | shared _ _ _ _ _ _ => exact ⟨h_sound, h_backed, fun _ h_ok => Except.ok.inj h_ok ▸ h_backed⟩

/-- Whatever an unlock does, the buffers stay sound and its object stays backed. -/
theorem unlock_backed {env env' : Env SystemState} {next : BufferId} {o o' : BufferObject}
    (h_unlock : BufferObject.UnlockOutcome systemBackend o env (o', env'))
    (h_sound : env.devices.Sound next) (h_backed : Backed env.devices o) :
    env'.devices.Sound next ∧ Backed env'.devices o' := by
  have h_there : ∃ b, env.devices.buffers.find? o.id = some b := h_backed.imp fun _ h => h.1
  cases h_unlock with
  | idle _ => exact ⟨h_sound, h_backed⟩
  | inner _ _ => exact ⟨h_sound, h_backed⟩
  | last _ _ =>
    obtain ⟨b, h_find⟩ := h_there
    exact ⟨h_sound, b, h_find, nofun⟩
  | lastMapped _ _ =>
    obtain ⟨b, h_find⟩ := h_there
    obtain ⟨b', h_find'⟩ := SystemState.unmap_find? env.devices h_find
    exact ⟨h_sound.unmap _, b', h_find', nofun⟩

theorem destroy_devices {env : Env SystemState} {next : BufferId} (h_sound : env.devices.Sound next)
    (o : BufferObject) : (o.destroy systemBackend env).devices.Sound next := by
  unfold BufferObject.destroy
  rcases o.mapping with _ | mapping
  · exact h_sound.destroy o.id
  · exact (h_sound.unmap o.id).destroy o.id

/-- Every elementary change keeps objects and buffers together. -/
theorem World.Change.provided {lockable : BufferObject → Prop} {w w' : World SystemState}
    (h_change : Change systemBackend lockable w w') (h : Provided w.env w.objects) :
    Provided w'.env w'.objects := by
  cases h_change with
  | noted _ => exact ⟨h.numbered, h.devices, h.backed⟩
  | unallocated h_call =>
    exact h.added (allocate_added h_call h.devices) (BufferObject.allocate_nextBuffer_le h_call)
  | allocated h_call =>
    obtain ⟨rfl, h_next, -⟩ := BufferObject.allocate_ok h_call
    exact h.addedObject (allocate_added h_call h.devices) rfl h_next
  | unimported h_call =>
    exact h.added (importFrom_added h_call h.devices) (BufferObject.importFrom_nextBuffer_le h_call)
  | imported h_call =>
    obtain ⟨rfl, h_next⟩ := BufferObject.importFrom_ok h_call
    exact h.addedObject (importFrom_added h_call h.devices) rfl h_next
  | @locked id o h_live _ handle request =>
    obtain ⟨rfl, -⟩ := h.numbered id o h_live
    have h_outcome := BufferObject.lock_outcome systemBackend o handle request w.env
    rcases h_lock : o.lock systemBackend handle request w.env with ⟨f | o', env⟩
    · rw [h_lock] at h_outcome
      obtain ⟨h_sound, h_backed, -⟩ := lock_backed h_outcome h.devices (h.backed o.id o h_live)
      simp only [lockObject, h_lock]
      exact h.keep h_live h_outcome.numbers.1 h_sound h_outcome.same h_backed
    · rw [h_lock] at h_outcome
      obtain ⟨h_sound, -, h_backed⟩ := lock_backed h_outcome h.devices (h.backed o.id o h_live)
      obtain ⟨h_next, h_id⟩ := h_outcome.numbers
      simp only [lockObject, h_lock]
      exact h.replace h_live (h_id o' rfl) h_next h_sound h_outcome.same (h_backed o' rfl)
  | @unlocked id o h_live =>
    obtain ⟨rfl, -⟩ := h.numbered id o h_live
    have h_outcome := BufferObject.unlock_outcome systemBackend o w.env
    rcases h_unlock : o.unlock systemBackend w.env with ⟨o', env⟩
    rw [h_unlock] at h_outcome
    obtain ⟨h_sound, h_backed⟩ := unlock_backed h_outcome h.devices (h.backed o.id o h_live)
    obtain ⟨h_next, h_id⟩ := h_outcome.numbers
    simp only [unlockObject, h_unlock]
    exact h.replace h_live h_id h_next h_sound h_outcome.same h_backed
  | @destroyed id _ =>
    rcases h_object : w.objects.find? id with _ | o
    · simp only [destroy, h_object]
      exact h
    obtain ⟨rfl, -⟩ := h.numbered id o h_object
    have h_sound := destroy_devices h.devices o
    have h_same := BufferObject.destroy_same o w.env
    have h_next := World.destroy_nextBuffer systemBackend o w.env
    simp only [destroy, h_object]
    refine ⟨fun l o' h_find => ?_, h_next ▸ h_sound, fun l o' h_find => ?_⟩
    · rw [h_next]
      exact h.numbered l o' (Table.find?_erase_eq_some h_find).2
    · obtain ⟨h_ne, h_before⟩ := Table.find?_erase_eq_some h_find
      exact h.backed_of_same h_same h_before h_ne

end GraphicsBuffer
