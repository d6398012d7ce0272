/-
  GraphicsBuffer.Proofs.BufferObject.Lock

  What a lock and an unlock can do, case by case, and the invariant of the lock state. A buffer is
  mapped exactly while it is locked for CPU usage, an unlocked buffer is locked for nothing, and a
  corner is recorded only next to a mapping.
-/

import GraphicsBuffer.BufferObject.Lock
import GraphicsBuffer.Proofs.Backend.Trace
import GraphicsBuffer.Proofs.Usage

namespace GraphicsBuffer.BufferObject

variable {σ : Type}

/-! ## Opening a mapping -/

section OpenMapping

variable {B : Backend σ} {id : BufferId} {h : Handle} {region : Rect} {corner : Corner}
  {access : Access} {env env' : Env σ}

/-- The environment in which a mapping is asked for: a folded image with an origin of its own has
    been reported. -/
theorem noted_origin (c : Prop) [Decidable c] (entry : LogEntry) (env : Env σ) :
    (if c then env.note entry else env).devices = env.devices ∧
      (if c then env.note entry else env).trace = env.trace ∧
      (if c then env.note entry else env).nextBuffer = env.nextBuffer := by
  split <;> exact ⟨rfl, rfl, rfl⟩

/-- Opening a mapping asks the backend once, for the region from the origin to the corner, whatever
    comes of it. The mapping that it gives is the backend's, with rows as long as the handle
    says. -/
theorem openMapping_spec {answer : Outcome BackendMapping}
    (h_open : openMapping B id h region corner access env = (answer, env')) :
    ∃ given, B.map id corner.fromOrigin access env.devices = (given, env'.devices) ∧
      env'.trace = env.trace ++ [.mapped id corner.fromOrigin access given] ∧
      env'.nextBuffer = env.nextBuffer ∧
      ∀ mapping, answer = .ok mapping → given = .ok mapping ∧ mapping.stride = h.stride := by
  obtain ⟨h_devices, h_trace, h_next⟩ := noted_origin
    (h.format.planar && (region.x ≠ 0 || region.y ≠ 0)) (.planarOrigin h.format) env
  simp only [openMapping] at h_open
  generalize (if h.format.planar && (region.x ≠ 0 || region.y ≠ 0) then
    env.note (.planarOrigin h.format) else env) = env₁ at h_open h_devices h_trace h_next
  rcases h_map : env₁.map B id corner.fromOrigin access with ⟨given, env₂⟩
  obtain ⟨h_call, h_trace₂, h_next₂⟩ := Env.map_spec h_map
  rw [h_devices] at h_call
  rw [h_trace] at h_trace₂
  rw [h_next] at h_next₂
  rw [h_map] at h_open
  refine ⟨given, ?_⟩
  -- the trace has the call in any case; only rows of the right length make it an answer
  rcases given with (e | a) | mapping
  · obtain ⟨rfl, rfl⟩ := Prod.mk.inj h_open
    exact ⟨h_call, h_trace₂, h_next₂, nofun⟩
  · obtain ⟨rfl, rfl⟩ := Prod.mk.inj h_open
    exact ⟨h_call, h_trace₂, h_next₂, nofun⟩
  · by_cases h_stride : mapping.stride = h.stride
    · simp only [h_stride, if_true] at h_open
      obtain ⟨rfl, rfl⟩ := Prod.mk.inj h_open
      exact ⟨h_call, h_trace₂, h_next₂, fun _ h_eq => by cases h_eq; exact ⟨rfl, h_stride⟩⟩
    · simp only [h_stride, if_false] at h_open
      obtain ⟨rfl, rfl⟩ := Prod.mk.inj h_open
      exact ⟨h_call, h_trace₂, h_next₂, nofun⟩

/-- Why a mapping is not opened: the backend refuses it or aborts; or it gives one whose rows are
    not as long as the handle says, which aborts the operation while the backend's mapping stays. -/
theorem openMapping_failed {f : Failure}
    (h_open : openMapping B id h region corner access env = (.error f, env')) :
    ∃ given, B.map id corner.fromOrigin access env.devices = (given, env'.devices) ∧
      env'.trace = env.trace ++ [.mapped id corner.fromOrigin access given] ∧
      ((∃ e, given = .error (.error e) ∧ f = .error .mappingFailed) ∨
        (∃ a, given = .error (.abort a) ∧ f = .abort a) ∨
        ∃ mapping, given = .ok mapping ∧ mapping.stride ≠ h.stride ∧
          f = .abort .strideMismatch) := by
  obtain ⟨h_devices, h_trace, -⟩ := noted_origin
    (h.format.planar && (region.x ≠ 0 || region.y ≠ 0)) (.planarOrigin h.format) env
  simp only [openMapping] at h_open
  generalize (if h.format.planar && (region.x ≠ 0 || region.y ≠ 0) then
    env.note (.planarOrigin h.format) else env) = env₁ at h_open h_devices h_trace
  rcases h_map : env₁.map B id corner.fromOrigin access with ⟨given, env₂⟩
  obtain ⟨h_call, h_trace₂, -⟩ := Env.map_spec h_map
  rw [h_devices] at h_call
  rw [h_trace] at h_trace₂
  rw [h_map] at h_open
  refine ⟨given, ?_⟩
  rcases given with (e | a) | mapping
  · obtain ⟨h_f, rfl⟩ := Prod.mk.inj h_open
    exact ⟨h_call, h_trace₂, .inl ⟨e, rfl, (Except.error.inj h_f).symm⟩⟩
  · obtain ⟨h_f, rfl⟩ := Prod.mk.inj h_open
    exact ⟨h_call, h_trace₂, .inr (.inl ⟨a, rfl, (Except.error.inj h_f).symm⟩)⟩
  · by_cases h_stride : mapping.stride = h.stride
    · simp only [h_stride, if_true] at h_open
      exact nomatch (Prod.mk.inj h_open).1
    · simp only [h_stride, if_false] at h_open
      obtain ⟨h_f, rfl⟩ := Prod.mk.inj h_open
      exact ⟨h_call, h_trace₂,
        .inr (.inr ⟨mapping, rfl, h_stride, (Except.error.inj h_f).symm⟩)⟩

end OpenMapping

/-! ## What a lock can do -/

/-- The object once a lock of it has opened a mapping up to a corner. -/
def withMapping (o : BufferObject) (mapping : BackendMapping) (corner : Corner) : BufferObject :=
  { o with mapping := some mapping, mappedCorner := corner }

/-- The answers that a lock can give, each with what decides for it. `env` is the environment in
    which the lock has been announced. -/
inductive LockOutcome (B : Backend σ) (o : BufferObject) (h : Handle) (request : LockRequest)
    (env : Env σ) : Outcome BufferObject × Env σ → Prop where
  /-- The handle does not let its buffer be locked for the usage. -/
  | notPermitted (h_permits : permits h request.usage = false) :
    LockOutcome B o h request env
      (.error (.error (.usageNotPermitted h.usage.bits request.usage.bits)),
        env.note (.notPermitted h.usage request.usage))
  /-- The outstanding locks do not cover the usage. -/
  | incompatible (h_permits : permits h request.usage = true)
      (h_nestable : o.nestable request.usage = false) :
    LockOutcome B o h request env
      (.error (.error (.incompatibleLock o.lockedFor.bits request.usage.bits)), env)
  /-- No CPU usage is involved. -/
  | device (h_permits : permits h request.usage = true)
      (h_nestable : o.nestable request.usage = true)
      (h_cpu : (request.usage ∪ o.lockedFor).cpuAccess = false) :
    LockOutcome B o h request env (.ok (o.addLock (request.usage ∪ o.lockedFor)), env)
  /-- The corner of the region does not fit its words. -/
  | noCorner {e : Error} (h_permits : permits h request.usage = true)
      (h_nestable : o.nestable request.usage = true)
      (h_cpu : (request.usage ∪ o.lockedFor).cpuAccess = true)
      (h_corner : h.format.mapCorner request.region = .error e) :
    LockOutcome B o h request env (.error (.error e), env)
  /-- The lock is the first with CPU usage and gets no mapping. -/
  | unmapped {corner : Corner} {f : Failure} {env' : Env σ}
      (h_permits : permits h request.usage = true)
      (h_nestable : o.nestable request.usage = true)
      (h_cpu : (request.usage ∪ o.lockedFor).cpuAccess = true)
      (h_corner : h.format.mapCorner request.region = .ok corner) (h_mapping : o.mapping = none)
      (h_open : openMapping B o.id h request.region corner (request.usage ∪ o.lockedFor).access
        env = (.error f, env')) :
    LockOutcome B o h request env (.error f, env')
  /-- The lock is the first with CPU usage and opens the mapping. -/
  | mapped {corner : Corner} {mapping : BackendMapping} {env' : Env σ}
      (h_permits : permits h request.usage = true)
      (h_nestable : o.nestable request.usage = true)
      (h_cpu : (request.usage ∪ o.lockedFor).cpuAccess = true)
      (h_corner : h.format.mapCorner request.region = .ok corner) (h_mapping : o.mapping = none)
      (h_open : openMapping B o.id h request.region corner (request.usage ∪ o.lockedFor).access
        env = (.ok mapping, env')) :
    LockOutcome B o h request env
      (.ok ((o.withMapping mapping corner).addLock (request.usage ∪ o.lockedFor)), env')
  /-- The lock asks for CPU access outside the region that is mapped. -/
  | beyond {corner : Corner} {mapping : BackendMapping}
      (h_permits : permits h request.usage = true)
      (h_nestable : o.nestable request.usage = true)
      (h_cpu : (request.usage ∪ o.lockedFor).cpuAccess = true)
      (h_corner : h.format.mapCorner request.region = .ok corner)
      (h_mapping : o.mapping = some mapping)
      (h_outside : (request.usage.cpuAccess && !corner.within o.mappedCorner) = true) :
    LockOutcome B o h request env
      (.error (.error .doubleMapping), env.note (.beyondMapping o.mappedCorner corner))
  /-- The lock shares the mapping that there is. -/
  | shared {corner : Corner} {mapping : BackendMapping}
      (h_permits : permits h request.usage = true)
      (h_nestable : o.nestable request.usage = true)
      (h_cpu : (request.usage ∪ o.lockedFor).cpuAccess = true)
      (h_corner : h.format.mapCorner request.region = .ok corner)
      (h_mapping : o.mapping = some mapping)
      (h_inside : (request.usage.cpuAccess && !corner.within o.mappedCorner) = false) :
    LockOutcome B o h request env (.ok (o.addLock (request.usage ∪ o.lockedFor)), env)

theorem lock_outcome (B : Backend σ) (o : BufferObject) (h : Handle) (request : LockRequest)
    (env : Env σ) :
    LockOutcome B o h request (env.note (.locking o.lockCount request.usage))
      (o.lock B h request env) := by
  simp only [lock]
  generalize env.note (.locking o.lockCount request.usage) = env₀
  -- the checks in the order in which a lock makes them
  rcases h_permits : permits h request.usage with _ | _
  · exact .notPermitted h_permits
  rcases h_nestable : o.nestable request.usage with _ | _
  · exact .incompatible h_permits h_nestable
  rcases h_cpu : (request.usage ∪ o.lockedFor).cpuAccess with _ | _
  · exact .device h_permits h_nestable h_cpu
  simp only [Bool.not_true, Bool.false_eq_true, if_false, if_true, coverRegion]
  rcases h_corner : h.format.mapCorner request.region with e | corner
  · exact .noCorner h_permits h_nestable h_cpu h_corner
  rcases h_mapping : o.mapping with _ | mapping
  · rcases h_open : openMapping B o.id h request.region corner
      (request.usage ∪ o.lockedFor).access env₀ with ⟨f | mapping, env'⟩
    · simp only [h_open]
      exact .unmapped h_permits h_nestable h_cpu h_corner h_mapping h_open
    · simp only [h_open]
      exact .mapped h_permits h_nestable h_cpu h_corner h_mapping h_open
  · rcases h_inside : request.usage.cpuAccess && !corner.within o.mappedCorner with _ | _
    · simp only [h_inside, Bool.false_eq_true, if_false]
      exact .shared h_permits h_nestable h_cpu h_corner h_mapping h_inside
    · simp only [h_inside, if_true]
      exact .beyond h_permits h_nestable h_cpu h_corner h_mapping h_inside

/-- A lock for the CPU whose corner does not fit its words fails there, and has only been
    reported. -/
theorem lock_noCorner_eq (B : Backend σ) {o : BufferObject} {h : Handle} {request : LockRequest}
    {e : Error} (env : Env σ) (h_permits : permits h request.usage = true)
    (h_nestable : o.nestable request.usage = true)
    (h_cpu : (request.usage ∪ o.lockedFor).cpuAccess = true)
    (h_corner : h.format.mapCorner request.region = .error e) :
    o.lock B h request env =
      (.error (.error e), env.note (.locking o.lockCount request.usage)) := by
  simp only [lock, h_permits, h_nestable, h_cpu, coverRegion, h_corner, Bool.not_true,
    Bool.false_eq_true, if_false, if_true]

/-- A lock for the CPU that finds no mapping comes down to the opening of one. -/
theorem lock_unmapped_eq (B : Backend σ) {o : BufferObject} {h : Handle} {request : LockRequest}
    {corner : Corner} (env : Env σ) (h_permits : permits h request.usage = true)
    (h_nestable : o.nestable request.usage = true)
    (h_cpu : (request.usage ∪ o.lockedFor).cpuAccess = true)
    (h_corner : h.format.mapCorner request.region = .ok corner) (h_unmapped : o.mapping = none) :
    o.lock B h request env =
      ((openMapping B o.id h request.region corner (request.usage ∪ o.lockedFor).access
          (env.note (.locking o.lockCount request.usage))).1.map fun mapping =>
            (o.withMapping mapping corner).addLock (request.usage ∪ o.lockedFor),
        (openMapping B o.id h request.region corner (request.usage ∪ o.lockedFor).access
          (env.note (.locking o.lockCount request.usage))).2) := by
  simp only [lock, h_permits, h_nestable, h_cpu, coverRegion, h_corner, h_unmapped]
  rcases openMapping B o.id h request.region corner (request.usage ∪ o.lockedFor).access
    (env.note (.locking o.lockCount request.usage)) with ⟨f | mapping, opened⟩ <;> rfl

/-- Whatever a lock does, no buffer is made and the object keeps its number. -/
theorem LockOutcome.numbers {B : Backend σ} {o : BufferObject} {h : Handle} {request : LockRequest}
    {env env' : Env σ} {answer : Outcome BufferObject}
    (h_lock : LockOutcome B o h request env (answer, env')) :
    env'.nextBuffer = env.nextBuffer ∧ ∀ o', answer = .ok o' → o'.id = o.id := by
  cases h_lock with
  | notPermitted _ => exact ⟨rfl, nofun⟩
  | incompatible _ _ => exact ⟨rfl, nofun⟩
  | device _ _ _ => exact ⟨rfl, fun _ h_eq => Except.ok.inj h_eq ▸ rfl⟩
  | noCorner _ _ _ _ => exact ⟨rfl, nofun⟩
  | unmapped _ _ _ _ _ h_open =>
    obtain ⟨_, -, -, h_next, -⟩ := openMapping_spec h_open
    exact ⟨h_next, nofun⟩
  | mapped _ _ _ _ _ h_open =>
    obtain ⟨_, -, -, h_next, -⟩ := openMapping_spec h_open
    exact ⟨h_next, fun _ h_eq => Except.ok.inj h_eq ▸ rfl⟩
  | beyond _ _ _ _ _ _ => exact ⟨rfl, nofun⟩
  | shared _ _ _ _ _ _ => exact ⟨rfl, fun _ h_eq => Except.ok.inj h_eq ▸ rfl⟩

/-! ## What an unlock can do -/

/-- What an unlock makes of an object and its environment. -/
inductive UnlockOutcome (B : Backend σ) (o : BufferObject) (env : Env σ) :
    BufferObject × Env σ → Prop where
  /-- The buffer was not locked. -/
  | idle (h_count : o.lockCount = 0) : UnlockOutcome B o env (o, env)
  /-- Other locks remain. -/
  | inner (h_count : o.lockCount ≠ 0) (h_more : o.lockCount ≠ 1) :
    UnlockOutcome B o env ({ o with lockCount := o.lockCount - 1 }, env)
  /-- The last lock goes, and there is no mapping. -/
  | last (h_count : o.lockCount = 1) (h_mapping : o.mapping = none) :
    UnlockOutcome B o env (o.unlocked, env)
  /-- The last lock goes and takes the mapping with it. -/
  | lastMapped {mapping : BackendMapping} (h_count : o.lockCount = 1)
      (h_mapping : o.mapping = some mapping) :
    UnlockOutcome B o env (o.unlocked, env.unmap B o.id mapping)

theorem unlock_outcome (B : Backend σ) (o : BufferObject) (env : Env σ) :
    UnlockOutcome B o env (o.unlock B env) := by
  unfold unlock
  by_cases h_count : o.lockCount = 0
  · rw [if_pos h_count]
    exact .idle h_count
  rw [if_neg h_count]
  by_cases h_last : o.lockCount = 1
  · rw [if_pos h_last]
    rcases h_mapping : o.mapping with _ | mapping
    · exact .last h_last h_mapping
    · exact .lastMapped h_last h_mapping
  · rw [if_neg h_last]
    exact .inner h_count h_last

theorem UnlockOutcome.numbers {B : Backend σ} {o o' : BufferObject} {env env' : Env σ}
    (h_unlock : UnlockOutcome B o env (o', env')) :
    env'.nextBuffer = env.nextBuffer ∧ o'.id = o.id := by
  cases h_unlock <;> exact ⟨rfl, rfl⟩

/-! ## The count of locks -/

/-- The count at which another lock would wrap. -/
def maxLockCount : UInt32 := 0xffffffff

theorem count_add_one_ne_zero {count : UInt32} (h_count : count ≠ maxLockCount) :
    count + 1 ≠ 0 := by
  intro h_zero
  apply h_count
  rw [← UInt32.toNat_inj, UInt32.toNat_add] at h_zero
  rw [← UInt32.toNat_inj]
  have h_lt := count.toNat_lt
  have h_one : (1 : UInt32).toNat = 1 := rfl
  have h_max : maxLockCount.toNat = 2 ^ 32 - 1 := rfl
  have h_null : (0 : UInt32).toNat = 0 := rfl
  omega

theorem count_sub_one_ne_zero {count : UInt32} (h_more : count ≠ 1) : count - 1 ≠ 0 := by
  intro h_zero
  apply h_more
  rw [← UInt32.sub_add_cancel count 1, h_zero]
  rfl

/-! ## The invariant of the lock state -/

/-- What holds of the lock state of every live buffer. -/
structure LockInvariant (o : BufferObject) : Prop where
  /-- A buffer is mapped exactly while it is locked for CPU usage. -/
  mapped_iff : o.mapping.isSome = true ↔ o.lockCount ≠ 0 ∧ o.lockedFor.cpuAccess = true
  /-- An unlocked buffer is locked for nothing. -/
  lockedFor_eq : o.lockCount = 0 → o.lockedFor = ∅
  /-- There is no corner without a mapping. -/
  corner_eq : o.mapping = none → o.mappedCorner = ⟨0, 0⟩

namespace LockInvariant

variable {B : Backend σ} {o o' : BufferObject} {h : Handle} {request : LockRequest}
  {env env' : Env σ}

theorem fresh (id : BufferId) : LockInvariant { id } where
  mapped_iff := by simp
  lockedFor_eq _ := rfl
  corner_eq _ := rfl

theorem unlocked (o : BufferObject) : LockInvariant o.unlocked where
  mapped_iff := by simp [BufferObject.unlocked]
  lockedFor_eq _ := rfl
  corner_eq _ := rfl

/-- The union that a nested lock asks for: that of the first lock is its own usage, that of a later
    one is what the buffer is locked for already. -/
theorem usage_of_nestable (h_inv : LockInvariant o) {usage : Usage}
    (h_nestable : o.nestable usage = true) :
    (o.lockCount = 0 ∧ usage ∪ o.lockedFor = usage) ∨
      (o.lockCount ≠ 0 ∧ usage ⊆ o.lockedFor ∧ usage ∪ o.lockedFor = o.lockedFor) := by
  rw [nestable, Bool.or_eq_true, decide_eq_true_eq, decide_eq_true_eq] at h_nestable
  by_cases h_count : o.lockCount = 0
  · rw [h_inv.lockedFor_eq h_count]
    exact .inl ⟨h_count, FlagSet.union_empty usage⟩
  · have h_subset := h_nestable.resolve_left h_count
    exact .inr ⟨h_count, h_subset, FlagSet.union_eq_right h_subset⟩

theorem addLock_lockedFor (o : BufferObject) (usage : Usage) :
    (o.addLock (usage ∪ o.lockedFor)).lockedFor = usage ∪ o.lockedFor :=
  FlagSet.union_eq_right (FlagSet.subset_union_right usage o.lockedFor)

/-- A lock that succeeds keeps the invariant, as long as the count does not wrap. -/
theorem of_lockOutcome (h_inv : LockInvariant o) (h_count : o.lockCount ≠ maxLockCount)
    (h_lock : LockOutcome B o h request env (.ok o', env')) : LockInvariant o' := by
  have h_next : o.lockCount + 1 ≠ 0 := count_add_one_ne_zero h_count
  cases h_lock with
  | device _ _ h_cpu =>
    -- nothing is asked of the CPU, nor was it before, so nothing is mapped
    have h_before : o.lockedFor.cpuAccess = false := by
      rw [Bool.eq_false_iff]
      intro h_locked
      rw [Usage.cpuAccess_of_subset (FlagSet.subset_union_right _ _) h_locked] at h_cpu
      exact Bool.noConfusion h_cpu
    have h_mapping : o.mapping.isSome = false := by
      rw [Bool.eq_false_iff, ne_eq, h_inv.mapped_iff, h_before]
      exact fun h_and => Bool.noConfusion h_and.2
    refine ⟨?_, fun h_zero => absurd h_zero h_next, h_inv.corner_eq⟩
    rw [addLock_lockedFor, h_cpu]
    exact ⟨fun h_some => Bool.noConfusion (h_mapping.symm.trans h_some),
      fun h_and => Bool.noConfusion h_and.2⟩
  | @mapped corner mapping _ _ _ h_cpu _ _ _ =>
    have h_lockedFor := addLock_lockedFor (o.withMapping mapping corner) request.usage
    refine ⟨?_, fun h_zero => absurd h_zero h_next, nofun⟩
    exact ⟨fun _ => ⟨h_next, h_lockedFor.symm ▸ h_cpu⟩, fun _ => rfl⟩
  | shared _ _ h_cpu _ h_mapping _ =>
    -- the mapping that there was is still in use
    refine ⟨?_, fun h_zero => absurd h_zero h_next, h_inv.corner_eq⟩
    rw [addLock_lockedFor]
    exact ⟨fun _ => ⟨h_next, h_cpu⟩, fun _ => by rw [addLock, h_mapping]; rfl⟩

theorem of_lock (h_inv : LockInvariant o) (h_count : o.lockCount ≠ maxLockCount)
    (h_lock : o.lock B h request env = (.ok o', env')) : LockInvariant o' :=
  h_inv.of_lockOutcome h_count (h_lock ▸ lock_outcome B o h request env)

theorem of_unlock (h_inv : LockInvariant o) (h_unlock : o.unlock B env = (o', env')) :
    LockInvariant o' := by
  have h_outcome := h_unlock ▸ unlock_outcome B o env
  cases h_outcome with
  | idle _ => exact h_inv
  | inner h_count h_more =>
    have h_next : o.lockCount - 1 ≠ 0 := count_sub_one_ne_zero h_more
    refine ⟨?_, fun h_zero => absurd h_zero h_next, h_inv.corner_eq⟩
    rw [h_inv.mapped_iff]
    exact and_congr_left fun _ => ⟨fun _ => h_next, fun _ => h_count⟩
  | last _ _ => exact unlocked o
  | lastMapped _ _ => exact unlocked o

/-! ## Locks of an unlocked buffer and nested locks -/

theorem unmapped_of_count (h_inv : LockInvariant o) (h_count : o.lockCount = 0) :
    o.mapping = none := by
  rw [← Option.not_isSome_iff_eq_none, h_inv.mapped_iff]
  exact fun h_and => h_and.1 h_count

theorem mapped_of_cpu (h_inv : LockInvariant o) (h_count : o.lockCount ≠ 0)
    (h_cpu : o.lockedFor.cpuAccess = true) : ∃ mapping, o.mapping = some mapping :=
  Option.isSome_iff_exists.mp (h_inv.mapped_iff.mpr ⟨h_count, h_cpu⟩)

/-- A lock that succeeds on an unlocked buffer decides what the buffer is locked for. If there is a
    mapping then, it was made by the one call of this lock. -/
theorem first_lock (h_inv : LockInvariant o) (h_count : o.lockCount = 0)
    (h_lock : LockOutcome B o h request env (.ok o', env')) :
    o'.id = o.id ∧ o'.lockCount = 1 ∧ o'.lockedFor = request.usage ∧
      (∀ mapping, o'.mapping = some mapping →
        env'.trace = env.trace ++
          [.mapped o'.id o'.mappedCorner.fromOrigin request.usage.access (.ok mapping)]) ∧
      (request.usage.cpuAccess = true →
        h.format.mapCorner request.region = .ok o'.mappedCorner) := by
  have h_unmapped := h_inv.unmapped_of_count h_count
  have h_usage : request.usage ∪ o.lockedFor = request.usage := by
    rw [h_inv.lockedFor_eq h_count, FlagSet.union_empty]
  have h_one : o.lockCount + 1 = 1 := by rw [h_count]; rfl
  cases h_lock with
  | device _ _ h_cpu =>
    rw [h_usage] at h_cpu
    refine ⟨rfl, h_one, (addLock_lockedFor o _).trans h_usage, fun mapping h_some => ?_,
      fun h_access => ?_⟩
    · exact nomatch h_unmapped.symm.trans h_some
    · exact Bool.noConfusion (h_cpu.symm.trans h_access)
  | @mapped corner mapping _ _ _ h_cpu h_corner _ h_open =>
    obtain ⟨given, -, h_trace, -, h_given⟩ := openMapping_spec h_open
    refine ⟨rfl, h_one, (addLock_lockedFor (o.withMapping mapping corner) _).trans h_usage,
      fun mapping' h_some => ?_, fun _ => h_corner⟩
    have h_same : mapping = mapping' := Option.some.inj h_some
    rw [h_trace, (h_given mapping rfl).1, ← h_same, h_usage]
    rfl
  | shared _ _ _ _ h_mapping _ =>
    exact nomatch h_unmapped.symm.trans h_mapping

/-- A lock that succeeds inside others only adds to the count; it calls no backend and, if it asks
    for CPU access, stays inside the region that is mapped. -/
theorem nested_lock (h_inv : LockInvariant o) (h_count : o.lockCount ≠ 0)
    (h_lock : LockOutcome B o h request env (.ok o', env')) :
    o' = { o with lockCount := o.lockCount + 1 } ∧ request.usage ⊆ o.lockedFor ∧
      env'.trace = env.trace ∧
      (request.usage.cpuAccess = true → ∃ corner,
        h.format.mapCorner request.region = .ok corner ∧
          corner.within o.mappedCorner = true) := by
  -- nothing new can be asked of a buffer that is locked already
  have h_nested : ∀ {usage : Usage}, o.nestable usage = true →
      usage ⊆ o.lockedFor ∧ usage ∪ o.lockedFor = o.lockedFor := fun h_nestable =>
    ((h_inv.usage_of_nestable h_nestable).resolve_left fun h => h_count h.1).2
  have h_added : ∀ {usage : Usage}, usage ∪ o.lockedFor = o.lockedFor →
      o.addLock (usage ∪ o.lockedFor) = { o with lockCount := o.lockCount + 1 } := by
    intro usage h_usage
    rw [h_usage, addLock, FlagSet.union_self]
  cases h_lock with
  | device _ h_nestable h_cpu =>
    obtain ⟨h_subset, h_usage⟩ := h_nested h_nestable
    refine ⟨h_added h_usage, h_subset, rfl, fun h_access => ?_⟩
    rw [Usage.cpuAccess_of_subset (FlagSet.subset_union_left _ _) h_access] at h_cpu
    exact Bool.noConfusion h_cpu
  | mapped _ h_nestable h_cpu _ h_mapping _ =>
    -- locked for the CPU and not mapped: there is no such object
    obtain ⟨-, h_usage⟩ := h_nested h_nestable
    rw [h_usage] at h_cpu
    obtain ⟨mapping, h_some⟩ := h_inv.mapped_of_cpu h_count h_cpu
    exact nomatch h_mapping.symm.trans h_some
  | shared _ h_nestable _ h_corner _ h_inside =>
    obtain ⟨h_subset, h_usage⟩ := h_nested h_nestable
    refine ⟨h_added h_usage, h_subset, rfl, fun h_access => ⟨_, h_corner, ?_⟩⟩
    rw [h_access, Bool.true_and, Bool.not_eq_false'] at h_inside
    exact h_inside

/-- A lock that fails on a locked buffer calls no backend. -/
theorem failed_nested_lock (h_inv : LockInvariant o) (h_count : o.lockCount ≠ 0) {f : Failure}
    (h_lock : LockOutcome B o h request env (.error f, env')) : env'.trace = env.trace := by
  cases h_lock with
  | notPermitted _ => rfl
  | incompatible _ _ => rfl
  | noCorner _ _ _ _ => rfl
  | unmapped _ h_nestable h_cpu _ h_mapping _ =>
    -- the mapping of the outer locks is missing, so they are not for the CPU, nor is this one
    obtain ⟨-, -, h_usage⟩ :=
      (h_inv.usage_of_nestable h_nestable).resolve_left fun h => h_count h.1
    rw [h_usage] at h_cpu
    obtain ⟨mapping, h_some⟩ := h_inv.mapped_of_cpu h_count h_cpu
    exact nomatch h_mapping.symm.trans h_some
  | beyond _ _ _ _ _ _ => rfl

end LockInvariant

end GraphicsBuffer.BufferObject
