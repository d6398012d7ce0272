/-
  GraphicsBuffer.Proofs.World.Linear

  Buffers for the CPU and linear buffers. A lock maps a buffer if its usage has a bit of the masks
  of CPU reads and writes; a buffer is made linear if its usage has a bit of the values for frequent
  ones. The second is the first but for the bits of the masks that no value with a name has: a usage
  all of whose CPU bits are such is for the CPU, and nothing asks for a linear buffer
  (`linear_for_cpu`, `nameless_read_not_linear`).
-/

import GraphicsBuffer.Proofs.BufferObject.Lock
import GraphicsBuffer.Proofs.World.Registration

namespace GraphicsBuffer

/-! ## CPU bits of a usage -/

namespace Usage

/-- The bits of CPU reads and writes. -/
def cpuMask : Usage := cpuReadMask ∪ cpuWriteMask

/-- The bits of the values of CPU reads and writes that have a name. -/
def namedCpuBits : Usage := cpuReadRarely ∪ cpuReadOften ∪ cpuWriteRarely ∪ cpuWriteOften

/-- No value with a name has any of the CPU bits of a usage. -/
def CpuNameless (u : Usage) : Prop := u ∩ cpuMask ⊆ cpuMask \ namedCpuBits

/-- What a usage says of CPU reads and of CPU writes is nothing or a value with a name. -/
structure CpuNamed (u : Usage) : Prop where
  reads : u ∩ cpuReadMask ∈ [∅, cpuReadRarely, cpuReadOften]
  writes : u ∩ cpuWriteMask ∈ [∅, cpuWriteRarely, cpuWriteOften]

variable {u : Usage}

/-- The values for rare reads and writes have no bit that those for frequent ones have not. -/
theorem cpuNameless_iff : u.CpuNameless ↔ u.meets (cpuReadOften ∪ cpuWriteOften) = false := by
  have h_often : cpuMask ∩ namedCpuBits = cpuReadOften ∪ cpuWriteOften := by decide
  rw [CpuNameless, FlagSet.inter_subset_sdiff_iff, h_often]

theorem cpuAccess_of_meets_often (h_often : u.meets (cpuReadOften ∪ cpuWriteOften) = true) :
    u.cpuAccess = true := by
  have h_inside : cpuReadOften ∪ cpuWriteOften ⊆ cpuReadMask ∪ cpuWriteMask := by decide
  rw [FlagSet.meets_comm] at h_often
  rw [cpuAccess, FlagSet.meets_comm]
  exact FlagSet.meets_of_subset h_inside h_often

theorem linear_subset_bindFlags_iff (u : Usage) :
    BindFlags.linear ⊆ u.bindFlags ↔ u.meets (cpuReadOften ∪ cpuWriteOften) = true := by
  unfold bindFlags
  -- the other two demands have nothing to do with it
  rcases u.meets (cpuReadOften ∪ cpuWriteOften) with _ | _
  · simp only [Bool.false_eq_true, if_false, iff_false]
    split <;> split <;> decide
  · simp only [if_true, iff_true]
    split <;> split <;> decide

/-- A linear buffer is asked for if the buffer is for the CPU, unless its CPU bits are nameless. -/
theorem linear_iff (u : Usage) :
    BindFlags.linear ⊆ u.bindFlags ↔ u.cpuAccess = true ∧ ¬u.CpuNameless := by
  rw [linear_subset_bindFlags_iff, cpuNameless_iff, Bool.not_eq_false]
  exact ⟨fun h_often => ⟨cpuAccess_of_meets_often h_often, h_often⟩, And.right⟩

/-- A usage that says something by a mask has a bit of a set inside the mask, if every value has one
    that it may have there. -/
theorem meets_of_mem {mask often : Usage} {values : List Usage} (h_value : u ∩ mask ∈ values)
    (h_values : ∀ v ∈ values, v.meets mask = true → v.meets often = true)
    (h_inside : mask ∩ often = often) (h_meets : u.meets mask = true) : u.meets often = true := by
  have h_part : (u ∩ mask).meets mask = true := by
    rw [FlagSet.inter_meets, FlagSet.inter_self]
    exact h_meets
  rw [← h_inside, ← FlagSet.inter_meets]
  exact h_values _ h_value h_part

theorem CpuNamed.not_nameless (h : u.CpuNamed) (h_cpu : u.cpuAccess = true) : ¬u.CpuNameless := by
  rw [cpuNameless_iff, Bool.not_eq_false, FlagSet.meets_union_iff]
  rw [cpuAccess, FlagSet.meets_union_iff] at h_cpu
  exact h_cpu.imp (meets_of_mem h.reads (by decide) (by decide))
    (meets_of_mem h.writes (by decide) (by decide))

end Usage

/-! ## What an allocation asks for -/

namespace BufferObject

variable {σ : Type} {B : Backend σ} {device : DeviceId} {h : Handle} {env : Env σ}

/-- An allocation asks for one buffer, with the flags of its usage, if there is something to ask
    for; and before anything else. -/
theorem allocate_calls (B : Backend σ) (device : DeviceId) (h : Handle) (env : Env σ) :
    (∃ e, storage h = .error e ∧ env.callsSince (allocate B device h env).2 = []) ∨
      ∃ layout size answer rest, storage h = .ok (layout, size) ∧
        env.callsSince (allocate B device h env).2 =
          .created device size layout h.usage.bindFlags answer :: rest ∧
        ∀ {d s l f a}, .created d s l f a ∉ rest := by
  rcases h_call : allocate B device h env with ⟨answer, env'⟩
  have h_outcome := h_call ▸ allocate_outcome B device h env
  cases h_outcome with
  | noStorage h_storage =>
    exact .inl ⟨_, h_storage, Env.callsSince_of_still rfl⟩
  | aborted h_storage h_create =>
    obtain ⟨-, h_trace, -⟩ := Env.create_spec h_create
    exact .inr ⟨_, _, _, [], h_storage, Env.callsSince_of_trace h_trace, List.not_mem_nil⟩
  | refused h_storage h_create =>
    obtain ⟨-, h_trace, -⟩ := Env.create_spec h_create
    exact .inr ⟨_, _, _, [], h_storage, Env.callsSince_of_trace h_trace, List.not_mem_nil⟩
  | @unexported layout size id f env₁ env₂ h_storage h_create h_export =>
    obtain ⟨-, h_created, -⟩ := Env.create_spec h_create
    obtain ⟨-, h_exported, -⟩ := Env.exportDescriptor_spec h_export
    have h_trace : (env₂.destroy B id).trace = env.trace ++ [.created device size layout
        h.usage.bindFlags (.ok id), .exported id (.error f), .destroyed id] := by
      rw [Env.destroy, Env.record, h_exported, h_created, List.append_assoc, List.append_assoc]
      rfl
    exact .inr ⟨_, _, _, _, h_storage, Env.callsSince_of_trace h_trace, by simp⟩
  | @allocated layout size id descriptor env₁ _ h_storage h_create h_export =>
    obtain ⟨-, h_created, -⟩ := Env.create_spec h_create
    obtain ⟨-, h_exported, -⟩ := Env.exportDescriptor_spec h_export
    have h_trace : env'.trace = env.trace ++ [.created device size layout h.usage.bindFlags
        (.ok id), .exported id (.ok descriptor)] := by
      rw [h_exported, h_created, List.append_assoc]
      rfl
    exact .inr ⟨_, _, _, _, h_storage, Env.callsSince_of_trace h_trace, by simp⟩

/-- The handle of a new buffer has the format and the usage that it was allocated for. -/
theorem allocate_shape {o : BufferObject} {h' : Handle} {env' : Env σ}
    (h_call : allocate B device h env = (.ok (o, h'), env')) :
    h'.format = h.format ∧ h'.usage = h.usage := by
  have h_outcome := h_call ▸ allocate_outcome B device h env
  cases h_outcome with
  | allocated => exact ⟨rfl, rfl⟩

/-- The first lock of a buffer for the usage of its handle asks the backend for a mapping exactly
    if the usage is for the CPU. -/
theorem first_lock_maps_iff (B : Backend σ) (id : BufferId) (env : Env σ) {region : Rect}
    {corner : Corner} (h_corner : h.format.mapCorner region = .ok corner) :
    (∃ answer, .mapped id corner.fromOrigin h.usage.access answer ∈
      env.callsSince (lock B { id } h ⟨h.usage, region⟩ env).2) ↔ h.usage.cpuAccess = true := by
  have h_permits : permits h h.usage = true := by
    rw [permits, decide_eq_true (FlagSet.subset_refl h.usage), Bool.true_or]
  rcases h_cpu : h.usage.cpuAccess with _ | _
  · have h_lock : (lock B { id } h ⟨h.usage, region⟩ env).2.trace = env.trace ++ [] := by
      simp [lock, h_permits, nestable, h_cpu]
    rw [Env.callsSince_of_trace h_lock]
    simp
  · have h_whole : (h.usage ∪ ∅).cpuAccess = true := by rw [FlagSet.union_empty, h_cpu]
    have h_lock : lock B { id } h ⟨h.usage, region⟩ env = _ :=
      lock_unmapped_eq B env h_permits rfl h_whole h_corner rfl
    rcases h_open : openMapping B id h region corner (h.usage ∪ ∅).access
      (env.note (.locking 0 h.usage)) with ⟨answer, env'⟩
    obtain ⟨given, -, h_trace, -⟩ := openMapping_spec h_open
    rw [FlagSet.union_empty] at h_trace
    have h_calls : (lock B { id } h ⟨h.usage, region⟩ env).2.trace =
        env.trace ++ [.mapped id corner.fromOrigin h.usage.access given] := by
      rw [h_lock, h_open]
      exact h_trace
    rw [Env.callsSince_of_trace h_calls]
    simp

end BufferObject

/-! ## What a creation asks for -/

namespace World

variable {σ : Type} {B : Backend σ} {w w' : World σ} {m : ManagerId} {manager : Manager}
  {size stored : Extent} {format : PixelFormat} {usage : Usage} {layout : FourCC} {handle : Handle}

/-- Creating a buffer asks the backend what its allocation asks. -/
theorem create_calls (B : Backend σ) (h_manager : w.manager? m = some manager) (size : Extent)
    (format : PixelFormat) (usage : Usage) :
    w.env.callsSince (w.create B m size format usage).2.env = w.env.callsSince
      (BufferObject.allocate B m (Handle.new size format usage) w.env).2 := by
  rcases create_of_manager B h_manager size format usage with
    ⟨f, env, h_call, h_create⟩ | ⟨h, env, h_call, h_create⟩
  · rw [h_call, h_create]
  · rw [h_call, h_create]
    rfl

/-- Every buffer that a creation asks for is asked for with the flags of the usage. -/
theorem created_flags {device : DeviceId} {flags : BindFlags} {answer : Outcome BufferId}
    (h_mem : .created device stored layout flags answer ∈
      w.env.callsSince (w.create B m size format usage).2.env) : flags = usage.bindFlags := by
  rcases h_manager : w.manager? m with _ | manager
  · have h_silent : w.env.callsSince (w.create B m size format usage).2.env = [] := by
      rw [create, h_manager]
      exact Env.callsSince_of_still rfl
    rw [h_silent] at h_mem
    exact absurd h_mem List.not_mem_nil
  · rw [create_calls B h_manager] at h_mem
    rcases BufferObject.allocate_calls B m (Handle.new size format usage) w.env with
      ⟨e, -, h_calls⟩ | ⟨layout, size, answer, rest, -, h_calls, h_rest⟩
    · rw [h_calls] at h_mem
      exact absurd h_mem List.not_mem_nil
    · rw [h_calls] at h_mem
      rcases List.mem_cons.mp h_mem with h_first | h_later
      · exact (Call.created.inj h_first).2.2.2.1
      · exact absurd h_later h_rest

/-- The handle of a buffer that was just created stands for it. -/
theorem object_of_create (h_create : w.create B m size format usage = (.ok handle, w')) :
    w'.object? m handle = some { id := w.env.nextBuffer } ∧ handle.format = format ∧
      handle.usage = usage := by
  rcases h_manager : w.manager? m with _ | manager
  · simp [create, h_manager] at h_create
  rcases create_of_manager B h_manager size format usage with
    ⟨f, env, -, h_failed⟩ | ⟨h, env, h_call, h_made⟩
  · simp [h_failed] at h_create
  · obtain ⟨h_handle, rfl⟩ := Prod.mk.inj (h_made.symm.trans h_create)
    obtain rfl := Except.ok.inj h_handle
    have h_found : ((w.addObject { id := w.env.nextBuffer } env).claim m manager h
        w.env.nextBuffer).2.manager? m =
          some { manager with buffers := manager.buffers.insert w.nextKey w.env.nextBuffer } :=
      (manager?_setManager h_manager _ m).trans (if_pos rfl)
    refine ⟨object?_eq_some_iff_entry.mpr ⟨w.nextKey, _, w.env.nextBuffer, rfl, h_found, ?_, ?_⟩,
      BufferObject.allocate_shape h_call⟩
    · exact Table.find?_insert_self _ _ _
    · exact Table.find?_insert_self _ _ _

/-- A lock of the buffer of a handle does with the backend what a lock of its object does. -/
theorem lock_env {o : BufferObject} {request : LockRequest}
    (h_object : w.object? m handle = some o) :
    (w.lock B m handle request).2.env = (o.lock B handle request w.env).2 := by
  rw [lock, h_object]
  show (w.lockObject B o handle request).2.env = _
  unfold lockObject
  rcases o.lock B handle request w.env with ⟨f | locked, env⟩
  · rfl
  · rfl

/-- Which buffers are linear, of those that creation asks the backend for, and which are mapped by
    a lock. -/
structure LinearForCpu (B : Backend σ) (w : World σ) (m : ManagerId) (size : Extent)
    (format : PixelFormat) (usage : Usage) : Prop where
  /-- If the manager is there and the image can be stored, the backend is first asked for a
      buffer. -/
  asked : ∀ manager layout stored, w.manager? m = some manager →
    BufferObject.storageOf format size = .ok (layout, stored) →
      ∃ answer rest, w.env.callsSince (w.create B m size format usage).2.env =
        .created m stored layout usage.bindFlags answer :: rest
  /-- It is asked for a linear one exactly if a value with a name has one of the CPU bits of the
      usage. -/
  linear_iff : ∀ device stored layout flags answer, .created device stored layout flags answer ∈
    w.env.callsSince (w.create B m size format usage).2.env →
      (BindFlags.linear ⊆ flags ↔ usage.cpuAccess = true ∧ ¬usage.CpuNameless)
  /-- So if the values of the usage have names, it is exactly if the usage is for the CPU; -/
  named_iff : usage.CpuNamed → ∀ device stored layout flags answer,
    .created device stored layout flags answer ∈
      w.env.callsSince (w.create B m size format usage).2.env →
        (BindFlags.linear ⊆ flags ↔ usage.cpuAccess = true)
  /-- and that is when a lock of the new buffer for this usage asks for a mapping. -/
  mapped_iff : ∀ handle w' region corner, w.create B m size format usage = (.ok handle, w') →
    format.mapCorner region = .ok corner →
      ((∃ answer, .mapped w.env.nextBuffer corner.fromOrigin usage.access answer ∈
        w'.env.callsSince (w'.lock B m handle ⟨usage, region⟩).2.env) ↔ usage.cpuAccess = true)

/-- A buffer is asked for as a linear one only if it is for the CPU; and if it is for the CPU,
    always but for usages whose CPU bits no value with a name has. -/
theorem linear_for_cpu (B : Backend σ) (w : World σ) (m : ManagerId) (size : Extent)
    (format : PixelFormat) (usage : Usage) : LinearForCpu B w m size format usage := by
  constructor
  · intro manager layout stored h_manager h_storage
    rw [create_calls B h_manager]
    rcases BufferObject.allocate_calls B m (Handle.new size format usage) w.env with
      ⟨e, h_none, -⟩ | ⟨layout', stored', answer, rest, h_some, h_calls, -⟩
    · exact nomatch h_none.symm.trans h_storage
    · obtain ⟨rfl, rfl⟩ := Prod.mk.inj (Except.ok.inj (h_some.symm.trans h_storage))
      exact ⟨answer, rest, h_calls⟩
  · intro device stored layout flags answer h_mem
    rw [created_flags h_mem]
    exact usage.linear_iff
  · intro h_named device stored layout flags answer h_mem
    rw [created_flags h_mem, usage.linear_iff]
    exact and_iff_left_of_imp h_named.not_nameless
  · intro handle w' region corner h_create h_corner
    obtain ⟨h_object, rfl, rfl⟩ := object_of_create h_create
    rw [lock_env h_object]
    exact BufferObject.first_lock_maps_iff B w.env.nextBuffer w'.env h_corner

/-- A usage with the bit 4 is for reading by the CPU, as a lock sees it. The buffer that is created
    for it need not be linear. -/
theorem nameless_read_not_linear :
    let w := World.start systemBackend {} [.full]
    let usage : Usage := .ofRaw 4
    let calls := w.env.callsSince (w.create systemBackend 0 ⟨16, 16⟩ .rgba8888 usage).2.env
    usage.cpuAccess = true ∧ ∃ answer rest,
      calls = .created 0 ⟨16, 16⟩ .abgr8888 usage.bindFlags answer :: rest ∧
        ¬BindFlags.linear ⊆ usage.bindFlags := by
  intro w usage calls
  have h_manager : w.manager? 0 = some { kind := .full } := rfl
  have h_calls : calls = _ := create_calls systemBackend h_manager ⟨16, 16⟩ .rgba8888 usage
  refine ⟨by decide, ?_⟩
  rw [h_calls]
  rcases BufferObject.allocate_calls systemBackend 0 (Handle.new ⟨16, 16⟩ .rgba8888 usage)
    w.env with ⟨e, h_none, -⟩ | ⟨layout, stored, answer, rest, h_some, h_calls, -⟩
  · exact nomatch h_none
  · obtain ⟨rfl, rfl⟩ := Prod.mk.inj (Except.ok.inj h_some)
    exact ⟨answer, rest, h_calls, by decide⟩

end World

end GraphicsBuffer
