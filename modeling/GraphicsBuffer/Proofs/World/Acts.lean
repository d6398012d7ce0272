/-
  GraphicsBuffer.Proofs.World.Acts

  What the allocator on shared memory does to the kernel: it makes memories, all zero, and makes and
  ends mappings. No operation of a manager writes to a memory or changes the size of one.
-/

import GraphicsBuffer.Proofs.World.Watch

namespace GraphicsBuffer

open World (Change Evolves)

/-! ## The kernel -/

namespace Kernel

/-- What an allocator does to a kernel at once. -/
inductive Act (k : Kernel) : Kernel → Prop where
  /-- A memory is made. -/
  | made (name : List UInt8) (size : Nat) : Act k (k.addMemory name size false).2
  /-- A memory is mapped. -/
  | mapped (mapping : MemoryMapping) :
    Act k { k with
      mappings := k.mappings.insert k.nextMapping mapping
      nextMapping := k.nextMapping + 1 }
  /-- A mapping ends. -/
  | unmapped (id : MappingId) : Act k (k.unmap id)

/-- What an allocator does to a kernel in the course of an operation. -/
abbrev Acts : Kernel → Kernel → Prop := Relation.ReflTransGen Act

variable {k k' : Kernel}

theorem map_acts {d : Descriptor} {length : Nat} {access : Access} {id : MappingId}
    (h : k.map d length access = .ok (id, k')) : Acts k k' := by
  unfold Kernel.map at h
  split at h
  · exact nomatch h
  split at h
  · exact nomatch h
  rcases h_mappable : k.mappable d length access with e | memory
  · rw [h_mappable] at h
    exact nomatch h
  · rw [h_mappable] at h
    obtain ⟨-, rfl⟩ := Prod.mk.inj (Except.ok.inj h)
    exact .single (.mapped ⟨memory, length, access⟩)

/-! ### Memories -/

/-- Memories stay as they are; those that come are all zero. -/
theorem Acts.memories (h : Acts k k') : ∃ made : List Memory,
    k'.memories = k.memories ++ made ∧ ∀ m ∈ made, m.contents = fun _ => 0 := by
  induction h with
  | refl => exact ⟨[], (List.append_nil _).symm, nofun⟩
  | tail _ h_act ih =>
    obtain ⟨made, h_memories, h_zero⟩ := ih
    cases h_act with
    | made name size =>
      refine ⟨made ++ [⟨name, size, false, fun _ => 0⟩], ?_, fun m h_mem => ?_⟩
      · rw [addMemory, h_memories, List.append_assoc]
      · rcases List.mem_append.mp h_mem with h_mem | h_mem
        · exact h_zero m h_mem
        · rw [List.mem_singleton.mp h_mem]
    | mapped _ => exact ⟨made, h_memories, h_zero⟩
    | unmapped _ => exact ⟨made, h_memories, h_zero⟩

theorem Acts.memoriesLast (h : Acts k k') : MemoriesLast k k' := by
  intro id m h_memory
  obtain ⟨made, h_memories, -⟩ := h.memories
  obtain ⟨h_lt, -⟩ := List.getElem?_eq_some_iff.mp h_memory
  refine ⟨m, ?_, Nat.le_refl _⟩
  rw [h_memories, List.getElem?_append_left h_lt, h_memory]

/-! ### Numbers of mappings -/

/-- The numbers of all mappings have been given out. -/
def MappingsGiven (k : Kernel) : Prop :=
  ∀ id mapping, k.mappings.find? id = some mapping → id < k.nextMapping

theorem Acts.mappingsGiven (h : Acts k k') (h_given : MappingsGiven k) : MappingsGiven k' := by
  induction h with
  | refl => exact h_given
  | tail _ h_act ih =>
    cases h_act with
    | made _ _ => exact ih
    | mapped _ =>
      intro id mapping h_find
      rcases Table.find?_insert_eq_some h_find with ⟨rfl, -⟩ | ⟨-, h_before⟩
      · exact Nat.lt_succ_self _
      · exact Nat.lt_succ_of_lt (ih id mapping h_before)
    | unmapped _ =>
      exact fun id mapping h_find => ih id mapping (Table.find?_erase_eq_some h_find).2

theorem Acts.nextMapping_le (h : Acts k k') : k.nextMapping ≤ k'.nextMapping := by
  induction h with
  | refl => exact Nat.le_refl _
  | tail _ h_act ih =>
    cases h_act with
    | made _ _ => exact ih
    | mapped _ => exact Nat.le_succ_of_le ih
    | unmapped _ => exact ih

/-- A mapping with a number that had been given out was there before, and was the same. -/
theorem Acts.mapping_before (h : Acts k k') {id : MappingId} {mapping : MemoryMapping}
    (h_given : id < k.nextMapping) (h_find : k'.mappings.find? id = some mapping) :
    k.mappings.find? id = some mapping := by
  induction h with
  | refl => exact h_find
  | @tail between _ h_acts h_act ih =>
    cases h_act with
    | made _ _ => exact ih h_find
    | mapped _ =>
      -- the mapping that is new has a number that had not been given out
      have h_ne : id ≠ between.nextMapping :=
        Nat.ne_of_lt (Nat.lt_of_lt_of_le h_given (Acts.nextMapping_le h_acts))
      rw [Table.find?_insert_of_ne _ _ h_ne] at h_find
      exact ih h_find
    | unmapped _ => exact ih (Table.find?_erase_eq_some h_find).2

end Kernel

open Kernel (Acts)

/-! ## Buffers -/

section Buffers

variable {k k' : Kernel} {b b' : SystemBuffer}

theorem SystemBuffer.create_acts [PageSize] {size : Extent} {layout : FourCC}
    (h : create k size layout = .ok (b, k')) : Acts k k' := by
  obtain ⟨bytes, -, -, rfl, rfl⟩ := create_eq_ok_iff.mp h
  exact .single (.made memoryName _)

theorem SystemBuffer.map_acts {region : Rect} {access : Access} {mapping : BackendMapping}
    (h : b.map k region access = .ok (mapping, b', k')) : Acts k k' := by
  obtain ⟨id, h_map, -, -⟩ := map_eq_ok h
  exact Kernel.map_acts h_map

theorem SystemBuffer.unmap_acts (k : Kernel) (b : SystemBuffer) : Acts k (b.unmap k).2 := by
  unfold SystemBuffer.unmap
  rcases b.mapping with _ | id
  · exact .refl
  · exact .single (.unmapped id)

end Buffers

namespace SystemState

variable (s : SystemState) (id : BufferId)

theorem add_acts {made : Outcome (SystemBuffer × Kernel)}
    (h_made : ∀ b kernel, made = .ok (b, kernel) → Acts s.kernel kernel) :
    Acts s.kernel (s.add id made).2.kernel := by
  rcases made with f | ⟨b, kernel⟩
  · exact .refl
  · exact h_made b kernel rfl

theorem map_acts (region : Rect) (access : Access) :
    Acts s.kernel (s.map id region access).2.kernel := by
  unfold SystemState.map
  rcases s.buffers.find? id with _ | b
  · exact .refl
  simp only
  rcases h_call : b.map s.kernel region access with f | ⟨mapping, b', kernel⟩
  · exact .refl
  · exact SystemBuffer.map_acts h_call

theorem unmap_acts : Acts s.kernel (s.unmap id).kernel := by
  unfold SystemState.unmap
  rcases s.buffers.find? id with _ | b
  · exact .refl
  · exact SystemBuffer.unmap_acts s.kernel b

theorem destroy_acts : Acts s.kernel (s.destroy id).kernel := unmap_acts s id

end SystemState

/-! ## Objects -/

variable [PageSize] {env env' : Env SystemState} {h : Handle}

theorem Env.create_acts {device : DeviceId} {size : Extent} {layout : FourCC} {flags : BindFlags}
    {answer : Outcome BufferId}
    (h_call : env.create systemBackend device size layout flags = (answer, env')) :
    Acts env.devices.kernel env'.devices.kernel := by
  obtain ⟨h_devices, -, -⟩ := Env.create_spec h_call
  rw [← h_devices]
  exact SystemState.add_acts _ _ fun _ _ h_made => SystemBuffer.create_acts h_made

theorem Env.importBuffer_kernel {device : DeviceId} {request : ImportRequest}
    {answer : Outcome BufferId}
    (h_call : env.importBuffer systemBackend device request = (answer, env')) :
    env'.devices.kernel = env.devices.kernel := by
  obtain ⟨h_devices, -, -⟩ := Env.importBuffer_spec h_call
  rw [← h_devices]
  simp only [systemBackend]
  rcases SystemBuffer.ofRequest env.devices.kernel request with f | b <;> rfl

namespace BufferObject

theorem allocate_acts {m : ManagerId} {answer : Outcome (BufferObject × Handle)}
    (h_call : allocate systemBackend m h env = (answer, env')) :
    Acts env.devices.kernel env'.devices.kernel := by
  have h_outcome := h_call ▸ allocate_outcome systemBackend m h env
  cases h_outcome with
  | noStorage _ => exact .refl
  | aborted _ h_create => exact (Env.create_acts h_create :)
  | refused _ h_create => exact (Env.create_acts h_create :)
  | unexported _ h_create h_export =>
    rw [Env.destroy_devices, Env.exportDescriptor_same h_export]
    exact (Env.create_acts h_create).trans (SystemState.destroy_acts _ _)
  | allocated _ h_create h_export =>
    rw [Env.exportDescriptor_same h_export]
    exact (Env.create_acts h_create :)

theorem importFrom_kernel {m : ManagerId} {answer : Outcome BufferObject}
    (h_call : importFrom systemBackend m h env = (answer, env')) :
    env'.devices.kernel = env.devices.kernel := by
  have h_outcome := h_call ▸ importFrom_outcome systemBackend m h env
  cases h_outcome with
  | noDescriptor _ => rfl
  | noStorage _ _ => rfl
  | aborted _ _ h_import => exact (Env.importBuffer_kernel h_import :)
  | refused _ _ h_import => exact (Env.importBuffer_kernel h_import :)
  | imported _ _ h_import => exact (Env.importBuffer_kernel h_import :)

theorem openMapping_acts {id : BufferId} {region : Rect} {corner : Corner} {access : Access}
    {answer : Outcome BackendMapping}
    (h_open : openMapping systemBackend id h region corner access env = (answer, env')) :
    Acts env.devices.kernel env'.devices.kernel := by
  obtain ⟨given, h_call, -⟩ := openMapping_spec h_open
  have h_acts := SystemState.map_acts env.devices id corner.fromOrigin access
  rw [show env.devices.map id corner.fromOrigin access = (given, env'.devices) from h_call]
    at h_acts
  exact h_acts

variable {o : BufferObject}

theorem LockOutcome.acts {request : LockRequest} {answer : Outcome BufferObject}
    (h_lock : LockOutcome systemBackend o h request env (answer, env')) :
    Acts env.devices.kernel env'.devices.kernel := by
  cases h_lock with
  | notPermitted _ => exact .refl
  | incompatible _ _ => exact .refl
  | device _ _ _ => exact .refl
  | noCorner _ _ _ _ => exact .refl
  | unmapped _ _ _ _ _ h_open => exact openMapping_acts h_open
  | mapped _ _ _ _ _ h_open => exact openMapping_acts h_open
  | beyond _ _ _ _ _ _ => exact .refl
  | shared _ _ _ _ _ _ => exact .refl

theorem UnlockOutcome.acts {o' : BufferObject}
    (h_unlock : UnlockOutcome systemBackend o env (o', env')) :
    Acts env.devices.kernel env'.devices.kernel := by
  cases h_unlock with
  | idle _ => exact .refl
  | inner _ _ => exact .refl
  | last _ _ => exact .refl
  | lastMapped _ _ => exact SystemState.unmap_acts env.devices o.id

theorem destroy_acts (o : BufferObject) (env : Env SystemState) :
    Acts env.devices.kernel (o.destroy systemBackend env).devices.kernel := by
  unfold destroy
  rcases o.mapping with _ | mapping
  · exact SystemState.destroy_acts env.devices o.id
  · exact (SystemState.unmap_acts env.devices o.id).trans (SystemState.destroy_acts _ o.id)

end BufferObject

/-! ## Worlds -/

namespace World

variable {lockable : BufferObject → Prop} {w w' : World SystemState}

theorem Change.acts (h_change : Change systemBackend lockable w w') :
    Acts w.env.devices.kernel w'.env.devices.kernel := by
  cases h_change with
  | noted _ => exact .refl
  | unallocated h_call => exact BufferObject.allocate_acts h_call
  | allocated h_call => exact BufferObject.allocate_acts h_call
  | unimported h_call => exact BufferObject.importFrom_kernel h_call ▸ .refl
  | @imported _ _ o env h_call =>
    exact (show env.devices.kernel = _ from BufferObject.importFrom_kernel h_call) ▸ .refl
  | @locked _ o _ _ h request =>
    have h_outcome := BufferObject.lock_outcome systemBackend o h request w.env
    unfold lockObject
    rcases h_lock : o.lock systemBackend h request w.env with ⟨f | o', env⟩
    · exact (h_lock ▸ h_outcome).acts
    · exact (h_lock ▸ h_outcome).acts
  | @unlocked _ o _ => exact (BufferObject.unlock_outcome systemBackend o w.env).acts
  | @destroyed id _ =>
    unfold destroy
    rcases w.objects.find? id with _ | o
    · exact .refl
    · exact BufferObject.destroy_acts o w.env

end World

end GraphicsBuffer
