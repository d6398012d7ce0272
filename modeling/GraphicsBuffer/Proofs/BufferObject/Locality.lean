/-
  GraphicsBuffer.Proofs.BufferObject.Locality

  What an operation on one buffer depends on. On the allocator on shared memory, an import depends
  on the memories and on the handle, and a lock or an unlock on the memories and on the buffer
  behind its object. Whatever else there is, they answer the same and change the same, up to the
  numbers of what they make.
-/

import GraphicsBuffer.Backend.System
import GraphicsBuffer.Proofs.Backend.History
import GraphicsBuffer.Proofs.Backend.System
import GraphicsBuffer.Proofs.BufferObject.Lock
import GraphicsBuffer.Proofs.BufferObject.Origin

namespace GraphicsBuffer

/-! ## The kernel -/

namespace Kernel

variable {memories : List Memory}

/-- The kernel with one more mapping. -/
def withMapping (k : Kernel) (mapping : MemoryMapping) : Kernel :=
  { k with
    mappings := k.mappings.insert k.nextMapping mapping
    nextMapping := k.nextMapping + 1 }

theorem mappable_congr {k k' : Kernel} (h : k.memories = k'.memories) (d : Descriptor)
    (length : Nat) (access : Access) :
    k.mappable d length access = k'.mappable d length access := by
  cases d with
  | memory id => simp only [mappable, h]
  | nullDevice => rfl
  | pipe => rfl
  | closed => rfl

theorem endOf_congr {k k' : Kernel} (h : k.memories = k'.memories) (d : Descriptor) :
    k.endOf d = k'.endOf d := by
  cases d with
  | memory id => simp only [endOf, h]
  | nullDevice => rfl
  | pipe => rfl
  | closed => rfl

/-- Whether something can be mapped is decided by the memories alone. -/
theorem map_local (memories : List Memory) (d : Descriptor) (length : Nat) (access : Access) :
    (∃ e, ∀ k : Kernel, k.memories = memories → k.map d length access = .error e) ∨
      ∃ mapping, ∀ k : Kernel, k.memories = memories →
        k.map d length access = .ok (k.nextMapping, k.withMapping mapping) := by
  by_cases h_access : access = ∅
  · exact .inl ⟨_, fun k _ => by rw [Kernel.map, if_pos h_access]⟩
  by_cases h_length : length = 0
  · exact .inl ⟨_, fun k _ => by rw [Kernel.map, if_neg h_access, if_pos h_length]⟩
  rcases h_mappable : mappable { memories } d length access with e | id
  · refine .inl ⟨.system e, fun k h => ?_⟩
    rw [← mappable_congr (k := k) h] at h_mappable
    simp only [Kernel.map, if_neg h_access, if_neg h_length, h_mappable]
  · refine .inr ⟨⟨id, length, access⟩, fun k h => ?_⟩
    rw [← mappable_congr (k := k) h] at h_mappable
    simp only [Kernel.map, if_neg h_access, if_neg h_length, h_mappable, withMapping]

end Kernel

/-! ## Buffers -/

namespace SystemBuffer

theorem ofRequest_congr [PageSize] {k k' : Kernel} (h : k.memories = k'.memories)
    (request : ImportRequest) :
    ofRequest k request = ofRequest k' request := by
  simp only [ofRequest, Kernel.endOf_congr h]

/-- Whether a region can be mapped is decided by the memories and the buffer. -/
theorem map_local (memories : List Memory) (b : SystemBuffer) (region : Rect) (access : Access) :
    (∃ f, ∀ k : Kernel, k.memories = memories → b.map k region access = .error f) ∨
      ∃ mapping, ∀ k : Kernel, k.memories = memories →
        b.map k region access = .ok
          (⟨⟨k.nextMapping, b.offsetOf region.x region.y⟩, b.stride⟩,
            { b with mapping := some k.nextMapping }, k.withMapping mapping) := by
  rcases h_mapped : b.mapping.isSome with _ | _
  · rcases h_right : Arithmetic.add32 "x" region.x "width" region.width with e | right
    · exact .inl ⟨_, fun k _ => by simp only [map, h_mapped, h_right]; rfl⟩
    rcases h_bottom : Arithmetic.add32 "y" region.y "height" region.height with e | bottom
    · exact .inl ⟨_, fun k _ => by simp only [map, h_mapped, h_right, h_bottom]; rfl⟩
    by_cases h_fits : (Corner.mk right bottom).fits b.extent = true
    · rcases Kernel.map_local memories b.descriptor b.size access with ⟨e, h_map⟩ | ⟨mapping, h_map⟩
      · exact .inl ⟨.error e, fun k h => by
          simp only [map, h_mapped, h_right, h_bottom, h_fits, h_map k h]; rfl⟩
      · exact .inr ⟨mapping, fun k h => by
          simp only [map, h_mapped, h_right, h_bottom, h_fits, h_map k h]; rfl⟩
    · exact .inl ⟨_, fun k _ => by
        simp only [map, h_mapped, h_right, h_bottom, if_neg h_fits]; rfl⟩
  · exact .inl ⟨_, fun k _ => by simp only [map, h_mapped]; rfl⟩

end SystemBuffer

/-! ## Objects -/

/-- The memories are these, and this is the buffer of a number; anything else may be there. -/
structure Beside (memories : List Memory) (id : BufferId) (b : SystemBuffer)
    (env : Env SystemState) : Prop where
  memories : env.devices.kernel.memories = memories
  buffer : env.devices.buffers.find? id = some b

namespace Env

/-- The environment once a buffer has been mapped. -/
def withMapped (env : Env SystemState) (id : BufferId) (b : SystemBuffer)
    (mapping : MemoryMapping) : Env SystemState :=
  { env with
    devices := env.devices.set id { b with mapping := some env.devices.kernel.nextMapping }
      (env.devices.kernel.withMapping mapping) }

/-- The environment once a buffer has been added. -/
def withBuffer (env : Env SystemState) (b : SystemBuffer) : Env SystemState :=
  { env with
    devices := env.devices.set env.nextBuffer b env.devices.kernel
    nextBuffer := env.nextBuffer + 1 }

end Env

variable [PageSize]

namespace BufferObject

variable {memories : List Memory} {b : SystemBuffer} {o : BufferObject} {h : Handle}

/-- The buffer that an import of a handle makes, or why it makes none. -/
def adopted (memories : List Memory) (h : Handle) : Outcome SystemBuffer :=
  match h.descriptor with
  | none => .error (.error .missingDescriptor)
  | some descriptor =>
    match storage h with
    | .error e => .error (.error e)
    | .ok (layout, size) =>
      match SystemBuffer.ofRequest { memories }
        ⟨size, layout, some descriptor, h.stride, h.modifier⟩ with
      | .error (.abort a) => .error (.abort a)
      | .error (.error _) => .error (.error (.importFailed h.size h.format.code))
      | .ok b => .ok b

/-- A buffer that is imported is not mapped yet. -/
theorem adopted_unmapped (h_adopted : adopted memories h = .ok b) : b.mapping = none := by
  unfold adopted at h_adopted
  split at h_adopted
  · exact nomatch h_adopted
  split at h_adopted
  · exact nomatch h_adopted
  split at h_adopted
  · exact nomatch h_adopted
  · exact nomatch h_adopted
  next h_made =>
    obtain rfl := Except.ok.inj h_adopted
    exact (SystemBuffer.ofRequest_spec h_made).2

/-- What an import does depends on the memories and the handle. -/
theorem importFrom_local (m : DeviceId) (h : Handle) (env : Env SystemState) :
    (∃ f, adopted env.devices.kernel.memories h = .error f ∧
        (importFrom systemBackend m h env).1 = .error f ∧
        (importFrom systemBackend m h env).2.forget = env.forget) ∨
      ∃ b, adopted env.devices.kernel.memories h = .ok b ∧
        (importFrom systemBackend m h env).1 = .ok { id := env.nextBuffer } ∧
        (importFrom systemBackend m h env).2.forget = (env.withBuffer b).forget := by
  have h_congr : ∀ request,
      SystemBuffer.ofRequest { memories := env.devices.kernel.memories } request =
        SystemBuffer.ofRequest env.devices.kernel request :=
    SystemBuffer.ofRequest_congr rfl
  simp only [adopted, importFrom, h_congr]
  rcases h.descriptor with _ | descriptor
  · exact .inl ⟨_, rfl, rfl, rfl⟩
  rcases storage h with e | ⟨layout, size⟩
  · exact .inl ⟨_, rfl, rfl, rfl⟩
  simp only [Env.importBuffer, Env.note, systemBackend]
  rcases SystemBuffer.ofRequest env.devices.kernel
    ⟨size, layout, some descriptor, h.stride, h.modifier⟩ with (e | a) | b
  · exact .inl ⟨_, rfl, rfl, rfl⟩
  · exact .inl ⟨_, rfl, rfl, rfl⟩
  · exact .inr ⟨b, rfl, rfl, rfl⟩

/-! ## Locks -/

/-- What a lock of an object can be, wherever the memories and the buffer behind the object are as
    they are here. -/
inductive LockPlan (memories : List Memory) (b : SystemBuffer) (o : BufferObject) (h : Handle)
    (request : LockRequest) : Prop where
  /-- It fails and changes nothing. -/
  | fails (f : Failure) (h_does : ∀ env, Beside memories o.id b env →
      (o.lock systemBackend h request env).1 = .error f ∧
        (o.lock systemBackend h request env).2.forget = env.forget)
  /-- It is granted without a new mapping. -/
  | shares (usage : Usage) (h_does : ∀ env, Beside memories o.id b env →
      (o.lock systemBackend h request env).1 = .ok (o.addLock usage) ∧
        (o.lock systemBackend h request env).2.forget = env.forget)
  /-- It is aborted once the buffer has been mapped. -/
  | aborts (a : Abort) (mapping : MemoryMapping) (h_does : ∀ env, Beside memories o.id b env →
      (o.lock systemBackend h request env).1 = .error (.abort a) ∧
        (o.lock systemBackend h request env).2.forget = (env.withMapped o.id b mapping).forget)
  /-- It is granted with a mapping of the buffer. -/
  | maps (usage : Usage) (corner : Corner) (offset : Nat) (mapping : MemoryMapping)
      (h_does : ∀ env, Beside memories o.id b env →
        (o.lock systemBackend h request env).1 =
            .ok ((o.withMapping ⟨⟨env.devices.kernel.nextMapping, offset⟩, b.stride⟩ corner).addLock
              usage) ∧
          (o.lock systemBackend h request env).2.forget = (env.withMapped o.id b mapping).forget)

/-- The answer to the opening of a mapping, by what the allocator answered. -/
def openedBy (h : Handle) : Outcome BackendMapping → Outcome BackendMapping
  | .error (.abort a) => .error (.abort a)
  | .error (.error _) => .error (.error .mappingFailed)
  | .ok mapping =>
    if mapping.stride = h.stride then .ok mapping else .error (.abort .strideMismatch)

theorem openMapping_eq (id : BufferId) (h : Handle) (region : Rect) (corner : Corner)
    (access : Access) (env : Env SystemState) :
    (openMapping systemBackend id h region corner access env).1 =
        openedBy h (env.devices.map id corner.fromOrigin access).1 ∧
      (openMapping systemBackend id h region corner access env).2.forget =
        { env with devices := (env.devices.map id corner.fromOrigin access).2 }.forget := by
  obtain ⟨h_devices, -, h_next⟩ := noted_origin
    (h.format.planar && (region.x ≠ 0 || region.y ≠ 0)) (.planarOrigin h.format) env
  simp only [openMapping]
  generalize (if h.format.planar && (region.x ≠ 0 || region.y ≠ 0) then
    env.note (.planarOrigin h.format) else env) = noted at h_devices h_next
  simp only [Env.map, systemBackend, h_devices]
  rcases env.devices.map id corner.fromOrigin access with ⟨(e | a) | mapping, devices⟩
  · exact ⟨rfl, Env.forget_congr rfl h_next⟩
  · exact ⟨rfl, Env.forget_congr rfl h_next⟩
  · simp only [openedBy]
    split
    · exact ⟨rfl, Env.forget_congr rfl h_next⟩
    · exact ⟨rfl, Env.forget_congr rfl h_next⟩

/-- Opening a mapping fails and changes nothing, or the buffer is mapped, and its rows decide. -/
theorem openMapping_local (memories : List Memory) (b : SystemBuffer) (id : BufferId) (h : Handle)
    (region : Rect) (corner : Corner) (access : Access) :
    (∃ f, ∀ env, Beside memories id b env →
      (openMapping systemBackend id h region corner access env).1 = .error f ∧
        (openMapping systemBackend id h region corner access env).2.forget = env.forget) ∨
      ∃ offset mapping, ∀ env, Beside memories id b env →
        (openMapping systemBackend id h region corner access env).1 =
            openedBy h (.ok ⟨⟨env.devices.kernel.nextMapping, offset⟩, b.stride⟩) ∧
          (openMapping systemBackend id h region corner access env).2.forget =
            (env.withMapped id b mapping).forget := by
  rcases SystemBuffer.map_local memories b corner.fromOrigin access with
    ⟨f, h_map⟩ | ⟨mapping, h_map⟩
  · obtain ⟨g, h_g⟩ : ∃ g, openedBy h (.error f) = .error g := by
      rcases f with e | a <;> exact ⟨_, rfl⟩
    refine .inl ⟨g, fun env h_env => ?_⟩
    have h_opened := openMapping_eq id h region corner access env
    simp only [SystemState.map, h_env.buffer, h_map _ h_env.memories, h_g] at h_opened
    exact h_opened
  · refine .inr ⟨b.offsetOf corner.fromOrigin.x corner.fromOrigin.y, mapping, fun env h_env => ?_⟩
    have h_opened := openMapping_eq id h region corner access env
    simp only [SystemState.map, h_env.buffer, h_map _ h_env.memories] at h_opened
    exact h_opened

/-- What a lock of an object can be depends on the memories and on the buffer behind it. -/
theorem lock_local (memories : List Memory) (b : SystemBuffer) (o : BufferObject) (h : Handle)
    (request : LockRequest) : LockPlan memories b o h request := by
  -- the checks in the order in which a lock makes them; none of them looks at the devices
  rcases h_permits : permits h request.usage with _ | _
  · refine .fails (.error (.usageNotPermitted h.usage.bits request.usage.bits)) fun env _ => ?_
    simp [lock, h_permits]
  rcases h_nestable : o.nestable request.usage with _ | _
  · refine .fails (.error (.incompatibleLock o.lockedFor.bits request.usage.bits)) fun env _ => ?_
    simp [lock, h_permits, h_nestable]
  rcases h_cpu : (request.usage ∪ o.lockedFor).cpuAccess with _ | _
  · refine .shares (request.usage ∪ o.lockedFor) fun env _ => ?_
    simp [lock, h_permits, h_nestable, h_cpu]
  rcases h_corner : h.format.mapCorner request.region with e | corner
  · refine .fails (.error e) fun env _ => ?_
    simp [lock, h_permits, h_nestable, h_cpu, coverRegion, h_corner]
  rcases h_mapping : o.mapping with _ | mapping
  · -- only here the allocator is asked, once the lock has been reported
    have h_noted : ∀ {env}, Beside memories o.id b env →
        Beside memories o.id b (env.note (.locking o.lockCount request.usage)) :=
      fun h_env => ⟨h_env.memories, h_env.buffer⟩
    have h_lock := fun env : Env SystemState =>
      lock_unmapped_eq systemBackend env h_permits h_nestable h_cpu h_corner h_mapping
    rcases openMapping_local memories b o.id h request.region corner
      (request.usage ∪ o.lockedFor).access with ⟨f, h_open⟩ | ⟨offset, mapping, h_open⟩
    · refine .fails f fun env h_env => ?_
      obtain ⟨h_answer, h_forget⟩ := h_open _ (h_noted h_env)
      rw [h_lock, h_answer]
      exact ⟨rfl, h_forget⟩
    · by_cases h_stride : b.stride = h.stride
      · refine .maps (request.usage ∪ o.lockedFor) corner offset mapping fun env h_env => ?_
        obtain ⟨h_answer, h_forget⟩ := h_open _ (h_noted h_env)
        rw [h_lock, h_answer, openedBy, if_pos h_stride]
        exact ⟨rfl, h_forget⟩
      · refine .aborts .strideMismatch mapping fun env h_env => ?_
        obtain ⟨h_answer, h_forget⟩ := h_open _ (h_noted h_env)
        rw [h_lock, h_answer, openedBy, if_neg h_stride]
        exact ⟨rfl, h_forget⟩
  · rcases h_inside : request.usage.cpuAccess && !corner.within o.mappedCorner with _ | _
    · refine .shares (request.usage ∪ o.lockedFor) fun env _ => ?_
      simp [lock, h_permits, h_nestable, h_cpu, coverRegion, h_corner, h_mapping, h_inside]
    · refine .fails (.error .doubleMapping) fun env _ => ?_
      simp [lock, h_permits, h_nestable, h_cpu, coverRegion, h_corner, h_mapping, h_inside]

end BufferObject

end GraphicsBuffer
