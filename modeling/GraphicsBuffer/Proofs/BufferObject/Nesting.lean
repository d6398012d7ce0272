/-
  GraphicsBuffer.Proofs.BufferObject.Nesting

  The lock that opened a cycle, and locks inside it. A cycle begins with a lock of a buffer at rest
  and lasts until the buffer is at rest again. All the while the lock state is that of the first
  lock: the buffer is mapped if that lock asked for CPU access, at the address that it returned and
  up to the corner of its region. So a lock that asks for a part of the usage and of the region of
  the first one is always granted (`OpenedBy.lock_inside`).
-/

import GraphicsBuffer.Proofs.BufferObject.CpuUse
import GraphicsBuffer.Proofs.BufferObject.Cycle
import GraphicsBuffer.Proofs.PixelFormat

namespace GraphicsBuffer

/-- A lock contains what another asks for: a part of its usage and of its region, for a handle that
    agrees in format and usage. In a planar image both regions start at the origin. -/
structure Grant.Contains (g : Grant) (h : Handle) (request : LockRequest) : Prop where
  format : h.format = g.handle.format
  allowed : h.usage = g.handle.usage
  usage : request.usage ⊆ g.request.usage
  region : request.region.Inside g.request.region
  origin : h.format.planar = true → g.request.region.AtOrigin ∧ request.region.AtOrigin

namespace BufferObject

variable {σ : Type} {B : Backend σ} {o o' : BufferObject} {g : Grant} {h : Handle}
  {request : LockRequest} {env env' : Env σ}

/-- Whether a buffer has no lock and no mapping. -/
def atRest (o : BufferObject) : Bool := o.lockCount = 0 && !o.isMapped

/-- A lock began the cycle that a buffer is in. -/
structure OpenedBy (o : BufferObject) (g : Grant) : Prop where
  /-- The handle lets its buffer be locked for the usage, -/
  permitted : permits g.handle g.request.usage = true
  /-- and the buffer is locked for it. -/
  usage : g.request.usage ⊆ o.lockedFor
  /-- The lock returned the address at which the buffer is mapped, -/
  address : g.address = o.address?
  /-- and the buffer is mapped exactly if the lock asked for CPU access, -/
  mapped : o.isMapped = g.request.usage.cpuAccess
  /-- as far as its region reaches. -/
  corner : o.isMapped = true →
    g.handle.format.mapCorner g.request.region = .ok o.mappedCorner

namespace OpenedBy

/-- The first lock of a buffer at rest opens a cycle. -/
theorem of_atRest (h_mapped : o.MappedForCpu) (h_rest : o.atRest = true)
    (h_lock : o.lock B h request env = (.ok o', env')) :
    o'.OpenedBy ⟨h, request, o'.address?⟩ := by
  have h_outcome := h_lock ▸ lock_outcome B o h request env
  obtain ⟨-, h_unmapped⟩ : o.lockCount = 0 ∧ o.isMapped = false := by
    simpa [atRest] using h_rest
  -- nothing was asked of the CPU before
  have h_usage : (request.usage ∪ o.lockedFor).cpuAccess = request.usage.cpuAccess := by
    rw [Usage.cpuAccess_union, ← h_mapped, ← isMapped, h_unmapped, Bool.or_false]
  have h_lockedFor : ∀ o : BufferObject,
      request.usage ⊆ (o.addLock (request.usage ∪ o.lockedFor)).lockedFor := by
    intro o
    rw [LockInvariant.addLock_lockedFor]
    exact FlagSet.subset_union_left _ _
  cases h_outcome with
  | device h_permits _ h_cpu =>
    rw [h_usage] at h_cpu
    have h_still : (o.addLock (request.usage ∪ o.lockedFor)).isMapped = false := h_unmapped
    exact ⟨h_permits, h_lockedFor o, rfl, h_still.trans h_cpu.symm,
      fun h_is => absurd (h_still.symm.trans h_is) Bool.false_ne_true⟩
  | @mapped corner mapping _ h_permits _ h_cpu h_corner _ _ =>
    rw [h_usage] at h_cpu
    exact ⟨h_permits, h_lockedFor (o.withMapping mapping corner), rfl, h_cpu.symm, fun _ => h_corner⟩
  | shared _ _ _ _ h_mapping _ =>
    rw [isMapped, h_mapping] at h_unmapped
    exact nomatch h_unmapped

/-- Every later lock leaves the mapping alone, as long as the buffer does not come to rest. -/
theorem of_lock (h_opened : o.OpenedBy g) (h_mapped : o.MappedForCpu) (h_busy : o.atRest = false)
    (h_lock : o.lock B h request env = (.ok o', env')) : o'.OpenedBy g := by
  have h_outcome := h_lock ▸ lock_outcome B o h request env
  have h_added : (o.addLock (request.usage ∪ o.lockedFor)).OpenedBy g := by
    refine ⟨h_opened.permitted, ?_, h_opened.address, h_opened.mapped, h_opened.corner⟩
    rw [LockInvariant.addLock_lockedFor]
    exact FlagSet.subset_trans h_opened.usage (FlagSet.subset_union_right _ _)
  cases h_outcome with
  | device _ _ _ => exact h_added
  | mapped _ h_nestable h_cpu _ h_unmapped _ =>
    -- a buffer that is locked for devices only cannot be locked for more
    have h_device : o.lockedFor.cpuAccess = false := by
      rw [← h_mapped, h_unmapped]
      rfl
    have h_count : o.lockCount ≠ 0 := by
      intro h_count
      simp [atRest, h_count, isMapped, h_unmapped] at h_busy
    have h_subset : request.usage ⊆ o.lockedFor := by
      simpa [BufferObject.nestable, h_count] using h_nestable
    rw [FlagSet.union_eq_right h_subset, h_device] at h_cpu
    cases h_cpu
  | shared _ _ _ _ _ _ => exact h_added

/-- An unlock leaves it alone as well, unless it brings the buffer to rest. -/
theorem of_unlock (h_opened : o.OpenedBy g) (h_unlock : o.unlock B env = (o', env'))
    (h_busy : o'.atRest = false) : o'.OpenedBy g := by
  have h_outcome := h_unlock ▸ unlock_outcome B o env
  cases h_outcome with
  | idle _ => exact h_opened
  | inner _ _ =>
    exact ⟨h_opened.permitted, h_opened.usage, h_opened.address, h_opened.mapped, h_opened.corner⟩
  | last _ _ => exact nomatch h_busy
  | lastMapped _ _ => exact nomatch h_busy

/-- A lock inside the one that opened the cycle is granted. It makes no call, and it changes the
    count only. -/
theorem lock_inside (B : Backend σ) (h_opened : o.OpenedBy g) (h_mapped : o.MappedForCpu)
    (h_contains : g.Contains h request) (env : Env σ) :
    o.lock B h request env = (.ok { o with lockCount := o.lockCount + 1 },
      env.note (.locking o.lockCount request.usage)) := by
  have h_locked : request.usage ⊆ o.lockedFor :=
    FlagSet.subset_trans h_contains.usage h_opened.usage
  have h_union : request.usage ∪ o.lockedFor = o.lockedFor := FlagSet.union_eq_right h_locked
  have h_permits : permits h request.usage = true := by
    -- a part of what is permitted is permitted
    have h_permitted := h_opened.permitted
    rw [permits, Bool.or_eq_true, decide_eq_true_eq] at h_permitted ⊢
    rw [h_contains.allowed]
    exact h_permitted.imp_left (FlagSet.subset_trans h_contains.usage)
  have h_nestable : o.nestable request.usage = true := by
    rw [BufferObject.nestable, Bool.or_eq_true, decide_eq_true_eq, decide_eq_true_eq]
    exact .inr h_locked
  have h_added : o.addLock o.lockedFor = { o with lockCount := o.lockCount + 1 } := by
    rw [addLock, FlagSet.union_self]
  have h_cpu : o.lockedFor.cpuAccess = o.mapping.isSome := h_mapped.symm
  simp only [lock, h_permits, h_nestable, h_union, h_cpu, Bool.not_true, Bool.false_eq_true,
    if_false]
  rcases h_mapping : o.mapping with _ | mapping
  · simp only [Option.isSome_none, Bool.false_eq_true, if_false, h_added, h_mapping]
  · -- the corner of the region is inside the one that is mapped
    have h_is : o.isMapped = true := by rw [isMapped, h_mapping]; rfl
    have h_corner := h_opened.corner h_is
    rw [← h_contains.format] at h_corner
    obtain ⟨corner, h_found, h_within⟩ :=
      PixelFormat.mapCorner_inside h_contains.region h_contains.origin h_corner
    simp only [Option.isSome_some, if_true, coverRegion, h_found, h_mapping, h_within,
      Bool.not_true, Bool.and_false, Bool.false_eq_true, if_false, h_added]

end OpenedBy

end BufferObject

end GraphicsBuffer
