/-
  GraphicsBuffer.Proofs.World.Cover

  What can be done with the mappings of objects. On the allocator on shared memory the mapping of a
  live object can be touched in every way that the object is locked for: it is made for the usage of
  the first lock, which contains those of all locks inside it.
-/

import GraphicsBuffer.Proofs.Session.LockState
import GraphicsBuffer.Proofs.World.Acts
import GraphicsBuffer.Proofs.World.Provision

namespace GraphicsBuffer

open BufferObject (LockInvariant LockOutcome UnlockOutcome maxLockCount)
open World (Change LocksSound)

/-! ## Mappings that are made -/

theorem SystemBuffer.map_access {k k' : Kernel} {b b' : SystemBuffer} {region : Rect}
    {access : Access} {mapping : BackendMapping}
    (h : b.map k region access = .ok (mapping, b', k')) :
    ∃ record, k'.mappings.find? mapping.address.mapping = some record ∧
      record.access = access := by
  obtain ⟨id, h_map, rfl, -⟩ := map_eq_ok h
  obtain ⟨-, -, -, memory, -, h_find⟩ := Kernel.map_spec h_map
  exact ⟨_, h_find, rfl⟩

/-- A mapping that is opened can be touched in the way that was asked for. -/
theorem BufferObject.openMapping_access [PageSize] {env env' : Env SystemState} {id : BufferId}
    {h : Handle} {region : Rect} {corner : Corner} {access : Access} {mapping : BackendMapping}
    (h_open : openMapping systemBackend id h region corner access env = (.ok mapping, env')) :
    ∃ record, env'.devices.kernel.mappings.find? mapping.address.mapping = some record ∧
      record.access = access := by
  obtain ⟨given, h_call, -, -, h_given⟩ := openMapping_spec h_open
  obtain ⟨rfl, -⟩ := h_given mapping rfl
  simp only [systemBackend, SystemState.map] at h_call
  split at h_call
  · cases h_call
  split at h_call
  · cases h_call
  next h_map =>
  obtain ⟨h_ok, h_devices⟩ := Prod.mk.inj h_call
  obtain rfl := Except.ok.inj h_ok
  rw [← h_devices]
  exact SystemBuffer.map_access h_map

/-! ## Covered objects -/

/-- The mapping of an object, if it has one, can be touched in every way that the object is locked
    for. -/
def Covered (k : Kernel) (o : BufferObject) : Prop :=
  ∀ mapping, o.mapping = some mapping → ∃ record,
    k.mappings.find? mapping.address.mapping = some record ∧ o.lockedFor.access ⊆ record.access

theorem covered_of_unmapped {k : Kernel} {o : BufferObject} (h_mapping : o.mapping = none) :
    Covered k o := fun _ h_some => nomatch h_mapping.symm.trans h_some

theorem Covered.congr {k : Kernel} {o o' : BufferObject} (h : Covered k o)
    (h_mapping : o'.mapping = o.mapping) (h_usage : o'.lockedFor = o.lockedFor) : Covered k o' := by
  rw [Covered, h_mapping, h_usage]
  exact h

/-- A lock that is granted is for no more than the mapping was made for. -/
theorem BufferObject.LockOutcome.covered [PageSize] {env env' : Env SystemState}
    {o o' : BufferObject} {h : Handle} {request : LockRequest} (h_inv : LockInvariant o)
    (h_lock : LockOutcome systemBackend o h request env (.ok o', env'))
    (h_covered : Covered env.devices.kernel o) : Covered env'.devices.kernel o' := by
  cases h_lock with
  | device _ _ h_cpu =>
    -- the object is not locked for the CPU, nor was it before, so it is not mapped
    refine covered_of_unmapped (Option.not_isSome_iff_eq_none.mp fun h_some => ?_)
    have h_before := Usage.cpuAccess_of_subset (FlagSet.subset_union_right request.usage _)
      (h_inv.mapped_iff.mp h_some).2
    exact Bool.noConfusion (h_cpu.symm.trans h_before)
  | @mapped corner mapping _ _ _ _ _ _ h_open =>
    intro mapping' h_some
    obtain rfl : mapping = mapping' := Option.some.inj h_some
    obtain ⟨record, h_record, h_access⟩ := openMapping_access h_open
    have h_usage :
        ((o.withMapping mapping corner).addLock (request.usage ∪ o.lockedFor)).lockedFor =
          request.usage ∪ o.lockedFor :=
      LockInvariant.addLock_lockedFor (o.withMapping mapping corner) request.usage
    refine ⟨record, h_record, ?_⟩
    rw [h_access, h_usage]
    exact FlagSet.subset_refl _
  | shared _ h_nestable _ _ h_mapping _ =>
    -- the object is locked already, so nothing is added to what it is locked for
    have h_count : o.lockCount ≠ 0 := fun h_zero =>
      nomatch (h_inv.unmapped_of_count h_zero).symm.trans h_mapping
    obtain ⟨-, -, h_usage⟩ :=
      (h_inv.usage_of_nestable h_nestable).resolve_left fun h_first => h_count h_first.1
    exact h_covered.congr rfl ((LockInvariant.addLock_lockedFor o _).trans h_usage)

theorem BufferObject.UnlockOutcome.covered [PageSize] {env env' : Env SystemState}
    {o o' : BufferObject} (h_unlock : UnlockOutcome systemBackend o env (o', env'))
    (h_covered : Covered env.devices.kernel o) : Covered env'.devices.kernel o' := by
  cases h_unlock with
  | idle _ => exact h_covered
  | inner _ _ => exact h_covered.congr rfl rfl
  | last _ _ => exact covered_of_unmapped rfl
  | lastMapped _ _ => exact covered_of_unmapped rfl

/-! ## Elementary changes -/

/-- What holds of the objects of a world whose counts have stayed below the limit. -/
structure Equipped (env : Env SystemState) (objects : Table BufferId BufferObject) : Prop where
  provided : Provided env objects
  locks : LocksSound objects
  covered : ∀ id o, objects.find? id = some o → Covered env.devices.kernel o

/-- An object that keeps its mapping is covered after a change if it was before. -/
theorem Equipped.kept {env env' : Env SystemState} {objects objects' : Table BufferId BufferObject}
    (h : Equipped env objects) (h_acts : Kernel.Acts env.devices.kernel env'.devices.kernel)
    (h_provided : Provided env' objects') {id : BufferId} {o : BufferObject}
    (h_live : objects.find? id = some o) (h_live' : objects'.find? id = some o) :
    Covered env'.devices.kernel o := by
  intro mapping h_mapping
  obtain ⟨-, h_given, -⟩ := h.provided.record h_live h_mapping
  obtain ⟨-, -, b, memory, access, -, -, h_record'⟩ := h_provided.record h_live' h_mapping
  obtain ⟨record, h_record, h_access⟩ := h.covered id o h_live mapping h_mapping
  -- the mapping is an old one, so what is recorded of it is what was recorded
  rw [h_acts.mapping_before h_given h_record'] at h_record
  obtain rfl := Option.some.inj h_record
  exact ⟨_, h_record', h_access⟩

/-- Every elementary change keeps the mappings of objects fit for their locks. -/
theorem World.Change.equipped [PageSize] {w w' : World SystemState}
    (h_change : Change systemBackend (·.lockCount ≠ maxLockCount) w w')
    (h : Equipped w.env w.objects) : Equipped w'.env w'.objects := by
  have h_provided := h_change.provided h.provided
  have h_acts := h_change.acts
  refine ⟨h_provided, h_change.locksSound h.locks, fun id o' h_live' => ?_⟩
  have h_kept : w.objects.find? id = some o' → Covered w'.env.devices.kernel o' :=
    fun h_live => h.kept h_acts h_provided h_live h_live'
  cases h_change with
  | noted _ => exact h_kept h_live'
  | unallocated _ => exact h_kept h_live'
  | allocated h_call =>
    obtain ⟨rfl, -, -⟩ := BufferObject.allocate_ok h_call
    obtain ⟨-, rfl⟩ | ⟨-, h_live⟩ := Table.find?_insert_eq_some h_live'
    · exact covered_of_unmapped rfl
    · exact h_kept h_live
  | unimported _ => exact h_kept h_live'
  | imported h_call =>
    obtain ⟨rfl, -⟩ := BufferObject.importFrom_ok h_call
    obtain ⟨-, rfl⟩ | ⟨-, h_live⟩ := Table.find?_insert_eq_some h_live'
    · exact covered_of_unmapped rfl
    · exact h_kept h_live
  | @locked l o h_live _ handle request =>
    have h_outcome := BufferObject.lock_outcome systemBackend o handle request w.env
    unfold lockObject at h_live' h_kept ⊢
    rcases h_lock : o.lock systemBackend handle request w.env with ⟨f | locked, env⟩
    · rw [h_lock] at h_live' h_kept
      exact h_kept h_live'
    · rw [h_lock] at h_live' h_kept h_outcome
      obtain ⟨-, rfl⟩ | ⟨-, h_before⟩ := Table.find?_insert_eq_some h_live'
      · exact h_outcome.covered (h.locks o (Table.mem_values_of_find? h_live))
          (h.covered l o h_live)
      · exact h_kept h_before
  | @unlocked l o h_live =>
    have h_outcome := BufferObject.unlock_outcome systemBackend o w.env
    obtain ⟨-, rfl⟩ | ⟨-, h_before⟩ := Table.find?_insert_eq_some h_live'
    · exact h_outcome.covered (h.covered l o h_live)
    · exact h_kept h_before
  | @destroyed l _ =>
    rcases h_object : w.objects.find? l with _ | o
    · simp only [destroy, h_object] at h_live' h_kept ⊢
      exact h_kept h_live'
    · simp only [destroy, h_object] at h_live' h_kept ⊢
      exact h_kept (Table.find?_erase_eq_some h_live').2

end GraphicsBuffer
