/-
  GraphicsBuffer.Proofs.World.Stride

  Handles and buffers on the allocator on shared memory agree about the length of rows. A buffer
  that is allocated or imported has the stride of the handle it was made for, and keeps it while its
  object is live; a lock with a handle of that stride is never aborted.
-/

import GraphicsBuffer.Proofs.Backend.Stride
import GraphicsBuffer.Proofs.World.Watch

namespace GraphicsBuffer

variable [PageSize]

/-! ## Calls and operations on objects -/

section Objects

variable {env env' : Env SystemState} {o : BufferObject} {h : Handle}

namespace Env

omit [PageSize] in
/-- What a call for a buffer that adds one answers. -/
theorem stride_of_add {made : Outcome (SystemBuffer × Kernel)} {answer : Outcome BufferId}
    (h_devices : (env.devices.add env.nextBuffer made).2 = env'.devices)
    (h_next : (∃ f, answer = .error f ∧ env'.nextBuffer = env.nextBuffer ∧
        (env.devices.add env.nextBuffer made).1 = .error f) ∨
      (answer = .ok env.nextBuffer ∧ env'.nextBuffer = env.nextBuffer + 1 ∧
        (env.devices.add env.nextBuffer made).1 = .ok ())) :
    (∀ f, answer = .error f → made = .error f) ∧
      (∀ id, answer = .ok id → ∃ b kernel, made = .ok (b, kernel) ∧
        env'.devices.stride? env.nextBuffer = some b.stride) := by
  rcases h_add : env.devices.add env.nextBuffer made with ⟨added, s'⟩
  rw [h_add] at h_devices h_next
  obtain rfl : s' = env'.devices := h_devices
  obtain ⟨h_failed, h_there⟩ := SystemState.add_stride h_add
  rcases h_next with ⟨g, rfl, -, h_added⟩ | ⟨rfl, -, h_added⟩
  · refine ⟨fun f h_f => ?_, nofun⟩
    obtain rfl := Except.error.inj h_f
    exact h_failed g h_added
  · exact ⟨nofun, fun _ _ => h_there h_added⟩

theorem create_stride {device : DeviceId} {size : Extent} {layout : FourCC} {flags : BindFlags}
    {answer : Outcome BufferId}
    (h_call : env.create systemBackend device size layout flags = (answer, env')) :
    (∀ a, answer ≠ .error (.abort a)) ∧
      (∀ id, answer = .ok id → ∃ stride, env'.devices.stride? env.nextBuffer = some stride) := by
  obtain ⟨h_devices, -, h_next⟩ := Env.create_spec h_call
  obtain ⟨h_failed, h_there⟩ := stride_of_add h_devices h_next
  refine ⟨fun a h_abort => SystemBuffer.create_not_aborted (h_failed _ h_abort), fun id h_id => ?_⟩
  obtain ⟨b, -, -, h_stride⟩ := h_there id h_id
  exact ⟨b.stride, h_stride⟩

theorem importBuffer_stride {device : DeviceId} {request : ImportRequest}
    {answer : Outcome BufferId}
    (h_call : env.importBuffer systemBackend device request = (answer, env')) :
    (∀ a, answer ≠ .error (.abort a)) ∧
      (∀ id, answer = .ok id → env'.devices.stride? env.nextBuffer = some request.stride) := by
  obtain ⟨h_devices, -, h_next⟩ := Env.importBuffer_spec h_call
  obtain ⟨h_failed, h_there⟩ := stride_of_add h_devices h_next
  refine ⟨fun a h_abort => ?_, fun id h_id => ?_⟩
  · have h_made := h_failed _ h_abort
    rcases h_request : SystemBuffer.ofRequest env.devices.kernel request with f | b
    · rw [h_request] at h_made
      obtain rfl := Except.error.inj h_made
      exact SystemBuffer.ofRequest_not_aborted h_request
    · rw [h_request] at h_made
      exact nomatch h_made
  · obtain ⟨b, kernel, h_made, h_stride⟩ := h_there id h_id
    obtain ⟨h_request, -⟩ := SystemBuffer.ofRequest_of_map h_made
    rw [h_stride, (SystemBuffer.ofRequest_wraps h_request).stride]

theorem exportDescriptor_not_aborted {id : BufferId} {a : Abort} :
    (env.exportDescriptor systemBackend id).1 ≠ .error (.abort a) := by
  simp only [exportDescriptor, systemBackend]
  rcases env.devices.buffers.find? id with _ | b
  · simp [SystemState.absent]
  simp only [SystemBuffer.exportDescriptor]
  rcases Kernel.duplicate b.descriptor with e | d
  · simp
  · simp

end Env

namespace BufferObject

/-- An allocation is never aborted; on success handle and buffer agree about the stride. -/
theorem allocate_stride {m : ManagerId} {answer : Outcome (BufferObject × Handle)}
    (h_call : allocate systemBackend m h env = (answer, env')) :
    (∀ a, answer ≠ .error (.abort a)) ∧
      ∀ o h', answer = .ok (o, h') → env'.devices.stride? env.nextBuffer = some h'.stride := by
  have h_outcome := h_call ▸ allocate_outcome systemBackend m h env
  cases h_outcome with
  | noStorage _ => exact ⟨nofun, nofun⟩
  | aborted _ h_create =>
    obtain ⟨h_abort, -⟩ := Env.create_stride h_create
    exact absurd rfl (h_abort _)
  | refused _ h_create => exact ⟨nofun, nofun⟩
  | unexported _ _ h_export =>
    refine ⟨fun a h_error => ?_, nofun⟩
    obtain rfl := Except.error.inj h_error
    exact Env.exportDescriptor_not_aborted (congrArg Prod.fst h_export)
  | allocated _ h_create h_export =>
    obtain ⟨-, h_there⟩ := Env.create_stride h_create
    obtain rfl := (Env.create_same h_create).2 _ rfl
    obtain ⟨stride, h_stride⟩ := h_there _ rfl
    rw [Env.exportDescriptor_same h_export]
    refine ⟨nofun, fun o h' h_ok => ?_⟩
    obtain ⟨-, rfl⟩ := Prod.mk.inj (Except.ok.inj h_ok)
    -- the handle is told the stride that the buffer reports
    have h_reported : ∀ s : SystemState, ∀ id, systemBackend.stride id s = (s.stride? id).getD 0 :=
      fun _ _ => rfl
    show _ = some (systemBackend.stride env.nextBuffer _)
    rw [h_reported]
    exact h_stride.trans (congrArg (fun x => some (x.getD 0)) h_stride.symm)

/-- An import is never aborted; on success handle and buffer agree about the stride. -/
theorem importFrom_stride {m : ManagerId} {answer : Outcome BufferObject}
    (h_call : importFrom systemBackend m h env = (answer, env')) :
    (∀ a, answer ≠ .error (.abort a)) ∧
      ∀ o, answer = .ok o → env'.devices.stride? env.nextBuffer = some h.stride := by
  have h_outcome := h_call ▸ importFrom_outcome systemBackend m h env
  cases h_outcome with
  | noDescriptor _ => exact ⟨nofun, nofun⟩
  | noStorage _ _ => exact ⟨nofun, nofun⟩
  | aborted _ _ h_import =>
    obtain ⟨h_abort, -⟩ := Env.importBuffer_stride h_import
    exact absurd rfl (h_abort _)
  | refused _ _ h_import => exact ⟨nofun, nofun⟩
  | imported _ _ h_import =>
    obtain ⟨-, h_there⟩ := Env.importBuffer_stride h_import
    exact ⟨nofun, fun _ _ => h_there _ rfl⟩

/-- A lock leaves the stride of its buffer as it is. It is not aborted if the handle has that
    stride, and what it maps has it and starts at the first byte. -/
theorem LockOutcome.stride {request : LockRequest} {answer : Outcome BufferObject}
    (h_lock : LockOutcome systemBackend o h request env (answer, env')) :
    env'.devices.stride? o.id = env.devices.stride? o.id ∧
      (env.devices.stride? o.id = some h.stride → ∀ a, answer ≠ .error (.abort a)) ∧
      ∃ calls, env'.trace = env.trace ++ calls ∧ ∀ id region access mapping,
        .mapped id region access (.ok mapping) ∈ calls →
          env.devices.stride? o.id = some mapping.stride ∧ mapping.address.offset = 0 := by
  have h_silent : ∃ calls, env.trace = env.trace ++ calls ∧ ∀ id region access mapping,
      Call.mapped id region access (.ok mapping) ∈ calls →
        env.devices.stride? o.id = some mapping.stride ∧ mapping.address.offset = 0 :=
    ⟨[], (List.append_nil _).symm, fun _ _ _ _ h_mem => absurd h_mem List.not_mem_nil⟩
  have h_one : ∀ {corner : Corner} {access given},
      systemBackend.map o.id corner.fromOrigin access env.devices = (given, env'.devices) →
      ∀ id region access' mapping,
        Call.mapped id region access' (.ok mapping) ∈
          [Call.mapped o.id corner.fromOrigin access given] →
        env.devices.stride? o.id = some mapping.stride ∧ mapping.address.offset = 0 := by
    intro corner access given h_call id region access' mapping h_mem
    cases List.mem_singleton.mp h_mem
    exact (SystemState.map_stride h_call).2.2 mapping rfl
  cases h_lock with
  | notPermitted _ => exact ⟨rfl, fun _ => nofun, h_silent⟩
  | incompatible _ _ => exact ⟨rfl, fun _ => nofun, h_silent⟩
  | device _ _ _ => exact ⟨rfl, fun _ => nofun, h_silent⟩
  | noCorner _ _ _ _ => exact ⟨rfl, fun _ => nofun, h_silent⟩
  | unmapped _ _ _ _ _ h_open =>
    obtain ⟨given, h_call, h_trace, h_given⟩ := openMapping_failed h_open
    obtain ⟨h_kept, h_abort, h_mapped⟩ := SystemState.map_stride h_call
    refine ⟨h_kept, fun h_stride a h_error => ?_, _, h_trace, h_one h_call⟩
    -- the allocator does not abort, so the rows would have to differ
    rcases h_given with ⟨e, -, rfl⟩ | ⟨b, rfl, -⟩ | ⟨mapping, rfl, h_differs, -⟩
    · exact nomatch h_error
    · exact h_abort b rfl
    · obtain ⟨h_same, -⟩ := h_mapped mapping rfl
      exact h_differs (Option.some.inj (h_same.symm.trans h_stride))
  | mapped _ _ _ _ _ h_open =>
    obtain ⟨given, h_call, h_trace, -, -⟩ := openMapping_spec h_open
    obtain ⟨h_kept, -, -⟩ := SystemState.map_stride h_call
    exact ⟨h_kept, fun _ => nofun, _, h_trace, h_one h_call⟩
  | beyond _ _ _ _ _ _ => exact ⟨rfl, fun _ => nofun, h_silent⟩
  | shared _ _ _ _ _ _ => exact ⟨rfl, fun _ => nofun, h_silent⟩

theorem UnlockOutcome.stride {o' : BufferObject}
    (h_unlock : UnlockOutcome systemBackend o env (o', env')) :
    o'.id = o.id ∧ env'.devices.stride? o.id = env.devices.stride? o.id := by
  cases h_unlock with
  | idle _ => exact ⟨rfl, rfl⟩
  | inner _ _ => exact ⟨rfl, rfl⟩
  | last _ _ => exact ⟨rfl, rfl⟩
  | lastMapped _ _ => exact ⟨rfl, SystemState.unmap_stride env.devices o.id⟩

end BufferObject

end Objects

/-! ## Live objects -/

/-- The buffer of an object has a stride. -/
def HasStride (stride : UInt32) (o : BufferObject) (s : SystemState) : Prop :=
  s.stride? o.id = some stride

/-- A buffer has its stride for as long as its object is live. -/
theorem hasStride_lasting (stride : UInt32) : Lasting (HasStride stride) where
  of_same h_find h := by
    rw [HasStride, SystemState.stride?, h_find]
    exact h
  of_failed h_lock h := h_lock.stride.1.trans h
  of_locked h_lock h := by
    rw [HasStride, h_lock.numbers.2 _ rfl]
    exact h_lock.stride.1.trans h
  of_unlocked h_unlock h := by
    obtain ⟨h_id, h_same⟩ := h_unlock.stride
    rw [HasStride, h_id]
    exact h_same.trans h

namespace World

/-! ## Operations -/

section Operations

variable {w w' : World SystemState} {m : ManagerId} {h : Handle}

/-- Creating a handle is never aborted, and the handle has the stride of the next buffer. -/
theorem create_stride {size : Extent} {format : PixelFormat} {usage : Usage}
    {answer : Outcome Handle}
    (h_create : w.create systemBackend m size format usage = (answer, w')) :
    (∀ a, answer ≠ .error (.abort a)) ∧
      ∀ h', answer = .ok h' → w'.env.devices.stride? w.env.nextBuffer = some h'.stride := by
  unfold create at h_create
  rcases h_manager : w.manager? m with _ | manager
  · simp only [h_manager] at h_create
    obtain ⟨rfl, rfl⟩ := Prod.mk.inj h_create
    exact ⟨nofun, nofun⟩
  rcases h_call : BufferObject.allocate systemBackend m (Handle.new size format usage) w.env with
    ⟨f | ⟨o, h'⟩, env⟩
  · obtain ⟨h_abort, -⟩ := BufferObject.allocate_stride h_call
    simp only [h_manager, h_call] at h_create
    obtain ⟨rfl, rfl⟩ := Prod.mk.inj h_create
    exact ⟨fun a h_error => h_abort a (congrArg _ (Except.error.inj h_error)), nofun⟩
  · obtain ⟨-, h_stride⟩ := BufferObject.allocate_stride h_call
    simp only [h_manager, h_call] at h_create
    obtain ⟨rfl, rfl⟩ := Prod.mk.inj h_create
    refine ⟨nofun, fun h'' h_ok => ?_⟩
    obtain rfl := Except.ok.inj h_ok
    exact h_stride o h' rfl

/-- Resolving a handle is never aborted. The handle that comes back is the one that was given, or
    one that has the stride of the next buffer. -/
theorem resolve_stride {useDevice : Bool} {answer : Outcome (Option BufferId × Handle)}
    (h_resolve : w.resolve systemBackend m useDevice h = (answer, w')) :
    (∀ a, answer ≠ .error (.abort a)) ∧
      ∀ found h', answer = .ok (found, h') → h' = h ∨
        (h.registration = none ∧ found = some w.env.nextBuffer ∧
          w'.env.devices.stride? w.env.nextBuffer = some h'.stride) := by
  have h_given : ∀ {found : Option BufferId}, answer = .ok (found, h) →
      (∀ a, answer ≠ .error (.abort a)) ∧ ∀ found h', answer = .ok (found, h') → h' = h ∨
        (h.registration = none ∧ found = some w.env.nextBuffer ∧
          w'.env.devices.stride? w.env.nextBuffer = some h'.stride) := by
    rintro found rfl
    exact ⟨nofun, fun _ _ h_ok => .inl (Prod.mk.inj (Except.ok.inj h_ok)).2.symm⟩
  unfold resolve at h_resolve
  rcases h_owned : h.registration with _ | key
  · simp only [h_owned, Option.isSome_none, Bool.false_eq_true, if_false] at h_resolve
    rcases h_manager : w.manager? m with _ | manager
    · simp only [h_manager] at h_resolve
      exact h_owned ▸ h_given (Prod.mk.inj h_resolve).1.symm
    rcases useDevice with _ | _
    · simp only [h_manager] at h_resolve
      exact h_owned ▸ h_given (Prod.mk.inj h_resolve).1.symm
    rcases h_call : BufferObject.importFrom systemBackend m h
      (w.env.note (.adopting h.descriptor.isSome)) with ⟨f | o, env⟩
    · obtain ⟨h_abort, -⟩ := BufferObject.importFrom_stride h_call
      simp only [h_manager, h_call] at h_resolve
      obtain ⟨rfl, rfl⟩ := Prod.mk.inj h_resolve
      exact ⟨fun a h_error => h_abort a (congrArg _ (Except.error.inj h_error)), nofun⟩
    · obtain ⟨-, h_stride⟩ := BufferObject.importFrom_stride h_call
      obtain ⟨rfl, -⟩ := BufferObject.importFrom_ok h_call
      simp only [h_manager, h_call] at h_resolve
      obtain ⟨rfl, rfl⟩ := Prod.mk.inj h_resolve
      refine ⟨nofun, fun found h' h_ok => .inr ⟨rfl, ?_, ?_⟩⟩
      · exact (Prod.mk.inj (Except.ok.inj h_ok)).1.symm
      · obtain ⟨-, rfl⟩ := Prod.mk.inj (Except.ok.inj h_ok)
        exact h_stride _ rfl
  · simp only [h_owned, Option.isSome_some, if_true] at h_resolve
    exact h_owned ▸ h_given (Prod.mk.inj h_resolve).1.symm

/-- The same of registering a handle. -/
theorem register_stride {answer : Outcome Handle}
    (h_register : w.register systemBackend m h = (answer, w')) :
    (∀ a, answer ≠ .error (.abort a)) ∧
      ∀ h', answer = .ok h' → h' = h ∨ (h.registration = none ∧
        w'.env.devices.stride? w.env.nextBuffer = some h'.stride) := by
  unfold register at h_register
  rcases h_resolve : w.resolve systemBackend m true h with ⟨resolved, w₁⟩
  obtain ⟨h_abort, h_back⟩ := resolve_stride h_resolve
  rw [h_resolve] at h_register
  rcases resolved with f | ⟨_ | id, h₁⟩
  · obtain ⟨rfl, rfl⟩ := Prod.mk.inj h_register
    exact ⟨fun a h_error => h_abort a (congrArg _ (Except.error.inj h_error)), nofun⟩
  · obtain ⟨rfl, rfl⟩ := Prod.mk.inj h_register
    exact ⟨nofun, nofun⟩
  · obtain ⟨rfl, rfl⟩ := Prod.mk.inj h_register
    refine ⟨nofun, fun h' h_ok => ?_⟩
    obtain rfl := Except.ok.inj h_ok
    exact (h_back _ _ rfl).imp_right fun h_bound => ⟨h_bound.1, h_bound.2.2⟩

theorem importFrom_not_aborted {a : Abort} :
    (w.importFrom systemBackend m h).1 ≠ .error (.abort a) := by
  unfold importFrom
  rcases h_call : BufferObject.importFrom systemBackend m h w.env with ⟨f | o, env⟩
  · obtain ⟨h_abort, -⟩ := BufferObject.importFrom_stride h_call
    exact fun h_error => h_abort a (congrArg _ (Except.error.inj h_error))
  · exact nofun

omit [PageSize] in
/-- Taking a buffer out of a table calls for no mapping, and so is never aborted on any backend. -/
theorem unregister_not_aborted {σ : Type} {B : Backend σ} {w : World σ} {a : Abort} :
    (w.unregister B m h).1 ≠ .error (.abort a) := by
  unfold unregister
  split
  · split
    · exact nofun
    split
    · exact nofun
    · exact nofun
  · exact nofun

/-- A lock with a handle that has the stride of its buffer is not aborted; what it maps has that
    stride and starts at the first byte. -/
theorem lockObject_stride {o : BufferObject} {request : LockRequest}
    {answer : Outcome (Option Address)} (h_stride : w.env.devices.stride? o.id = some h.stride)
    (h_lock : w.lockObject systemBackend o h request = (answer, w')) :
    (∀ a, answer ≠ .error (.abort a)) ∧
      ∀ id region access mapping,
        .mapped id region access (.ok mapping) ∈ w.env.callsSince w'.env →
          mapping.stride = h.stride ∧ mapping.address.offset = 0 := by
  have h_outcome := BufferObject.lock_outcome systemBackend o h request w.env
  rcases h_call : o.lock systemBackend h request w.env with ⟨made, env⟩
  rw [h_call] at h_outcome
  obtain ⟨-, h_abort, calls, h_trace, h_mapped⟩ := h_outcome.stride
  have h_facts : ∀ id region access mapping,
      .mapped id region access (.ok mapping) ∈ w.env.callsSince env →
        mapping.stride = h.stride ∧ mapping.address.offset = 0 := by
    intro id region access mapping h_mem
    have h_calls : w.env.callsSince env = calls := Env.callsSince_of_trace h_trace
    rw [h_calls] at h_mem
    obtain ⟨h_given, h_offset⟩ := h_mapped id region access mapping h_mem
    exact ⟨Option.some.inj (h_given.symm.trans h_stride), h_offset⟩
  rcases made with f | o'
  · simp only [lockObject, h_call] at h_lock
    obtain ⟨rfl, rfl⟩ := Prod.mk.inj h_lock
    exact ⟨fun a h_error => h_abort h_stride a (congrArg _ (Except.error.inj h_error)), h_facts⟩
  · simp only [lockObject, h_call] at h_lock
    obtain ⟨rfl, rfl⟩ := Prod.mk.inj h_lock
    exact ⟨by simp, h_facts⟩

end Operations

end World

end GraphicsBuffer
