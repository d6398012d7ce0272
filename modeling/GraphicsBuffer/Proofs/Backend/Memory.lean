/-
  GraphicsBuffer.Proofs.Backend.Memory

  Buffers and the memories behind them. A buffer that is made has a memory of its own, which is as
  long as its rows need; the same description, with the stride that the buffer was given, is then
  accepted for that memory, since an import computes the same sizes again and asks for no more.
-/

import GraphicsBuffer.Proofs.BufferObject.Origin
import GraphicsBuffer.Proofs.World.Watch

namespace GraphicsBuffer

variable [PageSize]

/-! ## Buffers -/

namespace SystemBuffer

variable {k k' k'' : Kernel} {b : SystemBuffer} {size : Extent} {layout : FourCC}

/-- What a buffer is that has just been made, and what is left of the kernel. -/
structure Made (k : Kernel) (size : Extent) (layout : FourCC) (b : SystemBuffer) (k' : Kernel) :
    Prop where
  descriptor : b.descriptor = .memory k.memories.length
  extent : b.extent = size
  bytesPerPixel : layout.bytesPerPixel = .ok b.bytesPerPixel
  /-- A row is exactly as long as its pixels. -/
  stride : Arithmetic.mul32 "width" size.width "bytes_per_pixel" b.bytesPerPixel = .ok b.stride
  /-- The memory is exactly as long as the rows, up to the end of a page. -/
  room : ∃ bytes, bufferSize b.stride size.height = .ok bytes ∧ b.size = bytes.toNat
  unmapped : b.mapping = none
  memories : k'.memories = k.memories ++ [⟨memoryName, b.size, false, fun _ => 0⟩]

theorem create_made (h : create k size layout = .ok (b, k')) : Made k size layout b k' := by
  obtain ⟨bytes, h_layout, h_makeable, rfl, rfl⟩ := create_eq_ok_iff.mp h
  obtain ⟨h_stride, h_length⟩ := Arithmetic.mul32_of_lt "width" "bytes_per_pixel" h_makeable.row
  obtain ⟨total, h_total, h_value⟩ := bufferSize_eq_ok (size.width * bytes) size.height
  rw [h_length] at h_value
  exact ⟨rfl, rfl, h_layout, h_stride, ⟨total, h_total, h_value.symm⟩, rfl, rfl⟩

theorem Made.memory (h : Made k size layout b k') :
    k'.memories[k.memories.length]? = some ⟨memoryName, b.size, false, fun _ => 0⟩ := by
  rw [h.memories]
  exact List.getElem?_concat_length

/-- The memory of a buffer that was made is accepted for the same description, for as long as it
    has not shrunk. -/
theorem Made.ofRequest (h : Made k size layout b k') {m : Memory}
    (h_memory : k''.memories[k.memories.length]? = some m) (h_size : b.size ≤ m.size)
    (modifier : Option UInt64) :
    ofRequest k'' ⟨size, layout, some b.descriptor, b.stride, modifier⟩ =
      .ok { b with size := m.size } := by
  obtain ⟨bytes, h_bytes, h_room⟩ := h.room
  obtain rfl := h.extent
  have h_end : k''.endOf b.descriptor = .ok m.size := by
    rw [h.descriptor]
    exact Kernel.endOf_memory_eq_ok_iff.mpr ⟨m, h_memory, rfl⟩
  have h_duplicate : Kernel.duplicate b.descriptor = .ok b.descriptor := by
    rw [h.descriptor]
    rfl
  -- neither check has any slack: the least stride is the stride, the least size is the size
  have h_long : ¬b.stride < b.stride := UInt32.lt_irrefl _
  have h_large : ¬m.size < bytes.toNat := Nat.not_lt.mpr (h_room ▸ h_size)
  simp only [SystemBuffer.ofRequest, h_duplicate, h.bytesPerPixel, h.stride, if_neg h_long, h_end,
    h_bytes, if_neg h_large, h.unmapped]

end SystemBuffer

/-! ## Objects -/

namespace BufferObject

variable {env env' : Env SystemState} {h h' : Handle} {o : BufferObject}

open SystemBuffer (Made)

/-- What an allocation does that succeeds. -/
theorem allocate_made {device : DeviceId}
    (h_call : allocate systemBackend device h env = (.ok (o, h'), env')) :
    ∃ layout size b, storage h = .ok (layout, size) ∧
      Made env.devices.kernel size layout b env'.devices.kernel ∧
      h' = { h with descriptor := some b.descriptor, stride := b.stride } ∧
      env'.devices.buffers = env.devices.buffers.insert env.nextBuffer b ∧
      env'.trace = env.trace ++ [.created device size layout h.usage.bindFlags (.ok env.nextBuffer),
        .exported env.nextBuffer (.ok b.descriptor)] := by
  have h_outcome := h_call ▸ allocate_outcome systemBackend device h env
  cases h_outcome with
  | @allocated layout size id descriptor created _ h_storage h_create h_export =>
    obtain ⟨h_devices, h_trace, h_next⟩ := Env.create_spec h_create
    obtain ⟨-, h_traced, -⟩ := Env.exportDescriptor_spec h_export
    have h_same := Env.exportDescriptor_same h_export
    obtain ⟨f, h_error, -⟩ | ⟨h_id, -, h_ok⟩ := h_next
    · cases h_error
    obtain rfl := Except.ok.inj h_id
    simp only [systemBackend, Env.note] at h_devices h_ok h_same h_export
    rcases h_made : SystemBuffer.create env.devices.kernel size layout with f | ⟨b, kernel⟩
    · rw [h_made] at h_ok
      cases h_ok
    rw [h_made] at h_devices
    have h_find : created.devices.buffers.find? env.nextBuffer = some b := by
      rw [← h_devices]
      exact Table.find?_insert_self _ _ _
    have h_b := SystemBuffer.create_made h_made
    have h_descriptor : descriptor = b.descriptor := by
      have h_exported := congrArg Prod.fst h_export
      simp only [Env.exportDescriptor, h_find, SystemBuffer.exportDescriptor, h_b.descriptor]
        at h_exported
      rw [h_b.descriptor]
      exact (Except.ok.inj h_exported).symm
    subst h_descriptor
    refine ⟨layout, size, b, h_storage, ?_, ?_, ?_, ?_⟩
    · rw [h_same, ← h_devices]
      exact h_b
    · simp only [describeIn, systemBackend, h_same, Env.note, h_find]
      rfl
    · rw [h_same, ← h_devices]
      rfl
    · rw [h_traced, h_trace, List.append_assoc]
      rfl

/-- What an allocation does for which a buffer can be made. -/
theorem allocate_of_made (device : DeviceId) (env : Env SystemState) {layout : FourCC}
    {size : Extent} {b : SystemBuffer} {kernel : Kernel}
    (h_storage : storage h = .ok (layout, size))
    (h_made : SystemBuffer.create env.devices.kernel size layout = .ok (b, kernel)) :
    ∃ env', allocate systemBackend device h env = (.ok ({ id := env.nextBuffer },
        { h with descriptor := some b.descriptor, stride := b.stride }), env') ∧
      env'.devices = { kernel, buffers := env.devices.buffers.insert env.nextBuffer b } := by
  have h_descriptor := (SystemBuffer.create_made h_made).descriptor
  have h_duplicate : Kernel.duplicate b.descriptor = .ok b.descriptor := by
    rw [h_descriptor]
    rfl
  have h_find : (env.devices.buffers.insert env.nextBuffer b).find? env.nextBuffer = some b :=
    Table.find?_insert_self _ _ _
  simp only [allocate, storageOf_roomFor, h_storage, Env.create, Env.note, systemBackend, h_made,
    SystemState.add, Env.record, Env.exportDescriptor, h_find, SystemBuffer.exportDescriptor,
    h_duplicate]
  exact ⟨_, rfl, rfl⟩

/-- What it does if none can be made. -/
theorem allocate_of_not_made (device : DeviceId) (env : Env SystemState) {layout : FourCC}
    {size : Extent} {e : Error} (h_storage : storage h = .ok (layout, size))
    (h_made : SystemBuffer.create env.devices.kernel size layout = .error (.error e)) :
    ∃ env', allocate systemBackend device h env =
        (.error (.error (.allocationFailed h.size h.format.code h.usage.bits)), env') ∧
      env'.devices = env.devices := by
  simp only [allocate, storageOf_roomFor, h_storage, Env.create, Env.note, systemBackend, h_made,
    SystemState.add, Env.record]
  exact ⟨_, rfl, rfl⟩

/-- What an import does that the backend accepts. -/
theorem importFrom_made (device : DeviceId) (env : Env SystemState) {layout : FourCC}
    {size : Extent} {d : Descriptor} {b : SystemBuffer} (h_descriptor : h.descriptor = some d)
    (h_storage : storage h = .ok (layout, size))
    (h_request : SystemBuffer.ofRequest env.devices.kernel
      ⟨size, layout, some d, h.stride, h.modifier⟩ = .ok b) :
    ∃ env', importFrom systemBackend device h env = (.ok { id := env.nextBuffer }, env') ∧
      env'.devices = { env.devices with buffers := env.devices.buffers.insert env.nextBuffer b } ∧
      env'.trace = env.trace ++
        [.imported device ⟨size, layout, some d, h.stride, h.modifier⟩ (.ok env.nextBuffer)] := by
  refine ⟨{ devices := { env.devices with buffers := env.devices.buffers.insert env.nextBuffer b }
            trace := env.trace ++ [.imported device ⟨size, layout, some d, h.stride, h.modifier⟩
              (.ok env.nextBuffer)]
            log := env.log ++ [.importing size layout]
            nextBuffer := env.nextBuffer + 1 }, ?_, rfl, rfl⟩
  simp only [importFrom, h_descriptor, h_storage, Env.importBuffer, Env.note, systemBackend,
    h_request]
  rfl

end BufferObject

end GraphicsBuffer
