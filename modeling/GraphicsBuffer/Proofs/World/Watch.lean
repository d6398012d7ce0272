/-
  GraphicsBuffer.Proofs.World.Watch

  One buffer at a time on the allocator on shared memory. Every call leaves all buffers alone but
  the one that it is about. What holds of a live object and its buffer therefore lasts, if the locks
  and unlocks of that object keep it.
-/

import GraphicsBuffer.Proofs.Backend.System
import GraphicsBuffer.Proofs.World.Names

namespace GraphicsBuffer

open SystemState (SameExcept)

variable [PageSize]

/-! ## Calls and operations on objects -/

section Frame

variable {env env' : Env SystemState} {h : Handle}

namespace Env

theorem create_same {device : DeviceId} {size : Extent} {layout : FourCC} {flags : BindFlags}
    {answer : Outcome BufferId}
    (h_call : env.create systemBackend device size layout flags = (answer, env')) :
    SameExcept env.nextBuffer env.devices env'.devices ∧
      ∀ id, answer = .ok id → id = env.nextBuffer := by
  obtain ⟨h_devices, -, h_next⟩ := Env.create_spec h_call
  refine ⟨h_devices ▸ SameExcept.add env.devices env.nextBuffer _, ?_⟩
  rcases h_next with ⟨f, rfl, -⟩ | ⟨rfl, -⟩
  · exact nofun
  · exact fun _ h_ok => (Except.ok.inj h_ok).symm

theorem importBuffer_same {device : DeviceId} {request : ImportRequest}
    {answer : Outcome BufferId}
    (h_call : env.importBuffer systemBackend device request = (answer, env')) :
    SameExcept env.nextBuffer env.devices env'.devices := by
  obtain ⟨h_devices, -, -⟩ := Env.importBuffer_spec h_call
  exact h_devices ▸ SameExcept.add env.devices env.nextBuffer _

/-- Asking for a descriptor changes nothing. -/
theorem exportDescriptor_same {id : BufferId} {answer : Outcome Descriptor}
    (h_call : env.exportDescriptor systemBackend id = (answer, env')) :
    env'.devices = env.devices := by
  obtain ⟨h_devices, -, -⟩ := Env.exportDescriptor_spec h_call
  simp only [systemBackend] at h_devices
  rcases h_find : env.devices.buffers.find? id with _ | b
  · rw [h_find] at h_devices
    exact (Prod.mk.inj h_devices).2.symm
  · rw [h_find] at h_devices
    exact (Prod.mk.inj h_devices).2.symm

end Env

namespace BufferObject

theorem allocate_same {m : ManagerId} {answer : Outcome (BufferObject × Handle)}
    (h_call : allocate systemBackend m h env = (answer, env')) :
    SameExcept env.nextBuffer env.devices env'.devices := by
  have h_outcome := h_call ▸ allocate_outcome systemBackend m h env
  cases h_outcome with
  | noStorage _ => exact .refl _ _
  | aborted _ h_create => exact (Env.create_same h_create).1
  | refused _ h_create => exact (Env.create_same h_create).1
  | unexported _ h_create h_export =>
    -- the buffer that was just made is the one that is freed again
    obtain ⟨h_same, h_number⟩ := Env.create_same h_create
    obtain rfl := h_number _ rfl
    rw [Env.destroy_devices, Env.exportDescriptor_same h_export]
    exact h_same.trans (.destroy _ _)
  | allocated _ h_create h_export =>
    rw [Env.exportDescriptor_same h_export]
    exact (Env.create_same h_create).1

theorem importFrom_same {m : ManagerId} {answer : Outcome BufferObject}
    (h_call : importFrom systemBackend m h env = (answer, env')) :
    SameExcept env.nextBuffer env.devices env'.devices := by
  have h_outcome := h_call ▸ importFrom_outcome systemBackend m h env
  cases h_outcome with
  | noDescriptor _ => exact .refl _ _
  | noStorage _ _ => exact .refl _ _
  | aborted _ _ h_import =>
    have h_same := Env.importBuffer_same h_import
    exact h_same
  | refused _ _ h_import =>
    have h_same := Env.importBuffer_same h_import
    exact h_same
  | imported _ _ h_import =>
    have h_same := Env.importBuffer_same h_import
    exact h_same

theorem openMapping_same {id : BufferId} {region : Rect} {corner : Corner} {access : Access}
    {answer : Outcome BackendMapping}
    (h_open : openMapping systemBackend id h region corner access env = (answer, env')) :
    SameExcept id env.devices env'.devices := by
  obtain ⟨given, h_call, -⟩ := openMapping_spec h_open
  have h_same := SameExcept.map env.devices id corner.fromOrigin access
  rw [show env.devices.map id corner.fromOrigin access = (given, env'.devices) from h_call]
    at h_same
  exact h_same

variable {o : BufferObject}

theorem LockOutcome.same {request : LockRequest} {answer : Outcome BufferObject}
    (h_lock : LockOutcome systemBackend o h request env (answer, env')) :
    SameExcept o.id env.devices env'.devices := by
  cases h_lock with
  | notPermitted _ => exact .refl _ _
  | incompatible _ _ => exact .refl _ _
  | device _ _ _ => exact .refl _ _
  | noCorner _ _ _ _ => exact .refl _ _
  | unmapped _ _ _ _ _ h_open => exact openMapping_same h_open
  | mapped _ _ _ _ _ h_open => exact openMapping_same h_open
  | beyond _ _ _ _ _ _ => exact .refl _ _
  | shared _ _ _ _ _ _ => exact .refl _ _

theorem UnlockOutcome.same {o' : BufferObject}
    (h_unlock : UnlockOutcome systemBackend o env (o', env')) :
    SameExcept o.id env.devices env'.devices := by
  cases h_unlock with
  | idle _ => exact .refl _ _
  | inner _ _ => exact .refl _ _
  | last _ _ => exact .refl _ _
  | lastMapped _ _ => exact .unmap env.devices o.id

theorem destroy_same (o : BufferObject) (env : Env SystemState) :
    SameExcept o.id env.devices (o.destroy systemBackend env).devices := by
  unfold destroy
  rcases o.mapping with _ | mapping
  · exact .destroy _ _
  · exact (SameExcept.unmap env.devices o.id).trans (.destroy _ _)

end BufferObject

end Frame

/-! ## What lasts -/

open BufferObject (LockOutcome UnlockOutcome)

/-- What holds of an object and the state of its buffer, and ends with no lock that is granted and
    no unlock of the object. -/
structure Abiding (P : BufferObject → SystemState → Prop) : Prop where
  /-- Other buffers have no part in it. -/
  of_same : ∀ {o s s'}, s'.buffers.find? o.id = s.buffers.find? o.id → P o s → P o s'
  of_locked : ∀ {o h request env o' env'},
    LockOutcome systemBackend o h request env (.ok o', env') → P o env.devices → P o' env'.devices
  of_unlocked : ∀ {o env o' env'},
    UnlockOutcome systemBackend o env (o', env') → P o env.devices → P o' env'.devices

/-- What no lock that fails ends either. -/
structure Lasting (P : BufferObject → SystemState → Prop) : Prop extends Abiding P where
  /-- A lock that fails leaves the object as it was, if not its buffer. -/
  of_failed : ∀ {o h request env f env'},
    LockOutcome systemBackend o h request env (.error f, env') → P o env.devices → P o env'.devices

namespace World

/-- Something holds of the object with a number that has been given out, unless it is gone. -/
structure Watched (P : BufferObject → SystemState → Prop) (id : BufferId) (env : Env SystemState)
    (objects : Table BufferId BufferObject) : Prop where
  numbered : Numbered env objects
  given_out : id < env.nextBuffer
  holds : ∀ o, objects.find? id = some o → P o env.devices

namespace Watched

variable {P : BufferObject → SystemState → Prop} {id : BufferId} {env env' : Env SystemState}
  {objects : Table BufferId BufferObject}

/-- Calls about other buffers do not matter. -/
theorem of_same (h : Watched P id env objects) (h_abiding : Abiding P)
    (h_next : env.nextBuffer ≤ env'.nextBuffer)
    (h_same : env'.devices.buffers.find? id = env.devices.buffers.find? id) :
    Watched P id env' objects where
  numbered := h.numbered.mono h_next
  given_out := Nat.lt_of_lt_of_le h.given_out h_next
  holds o h_live := by
    obtain ⟨rfl, -⟩ := h.numbered id o h_live
    exact h_abiding.of_same h_same (h.holds o h_live)

/-- The buffer of an object changes. -/
theorem keep (h : Watched P id env objects) (h_abiding : Abiding P) {o : BufferObject}
    (h_live : objects.find? o.id = some o) (h_next : env'.nextBuffer = env.nextBuffer)
    (h_same : SameExcept o.id env.devices env'.devices)
    (h_own : P o env.devices → P o env'.devices) : Watched P id env' objects := by
  by_cases h_eq : id = o.id
  · subst h_eq
    refine ⟨h.numbered.mono (Nat.le_of_eq h_next.symm), h_next ▸ h.given_out, fun o' h_find => ?_⟩
    obtain rfl := Option.some.inj (h_live.symm.trans h_find)
    exact h_own (h.holds o h_live)
  · exact h.of_same h_abiding (Nat.le_of_eq h_next.symm) (h_same id h_eq)

/-- An object changes together with its buffer. -/
theorem replace (h : Watched P id env objects) (h_abiding : Abiding P) {o o' : BufferObject}
    (h_live : objects.find? o.id = some o) (h_id : o'.id = o.id)
    (h_next : env'.nextBuffer = env.nextBuffer) (h_same : SameExcept o.id env.devices env'.devices)
    (h_own : P o env.devices → P o' env'.devices) :
    Watched P id env' (objects.insert o'.id o') where
  numbered := by
    refine h.numbered.insert (Nat.le_of_eq h_next.symm) ?_
    rw [h_id, h_next]
    exact (h.numbered o.id o h_live).2
  given_out := h_next ▸ h.given_out
  holds o'' h_find := by
    rcases Table.find?_insert_eq_some h_find with ⟨h_eq, rfl⟩ | ⟨h_ne, h_before⟩
    · rw [h_eq, h_id] at h
      exact h_own (h.holds o h_live)
    · obtain ⟨rfl, -⟩ := h.numbered id o'' h_before
      exact h_abiding.of_same (h_same o''.id (h_id ▸ h_ne)) (h.holds o'' h_before)

/-- An object goes with its buffer. -/
theorem erase (h : Watched P id env objects) (h_abiding : Abiding P) {number : BufferId}
    (h_next : env'.nextBuffer = env.nextBuffer)
    (h_same : SameExcept number env.devices env'.devices) :
    Watched P id env' (objects.erase number) where
  numbered l o h_find := by
    rw [h_next]
    exact h.numbered l o (Table.find?_erase_eq_some h_find).2
  given_out := h_next ▸ h.given_out
  holds o h_find := by
    obtain ⟨h_ne, h_before⟩ := Table.find?_erase_eq_some h_find
    obtain ⟨rfl, -⟩ := h.numbered id o h_before
    exact h_abiding.of_same (h_same o.id h_ne) (h.holds o h_before)

/-- Another object is new. -/
theorem insert (h : Watched P id env objects) (h_abiding : Abiding P) {number : BufferId}
    (h_number : number = env.nextBuffer) (h_next : env'.nextBuffer = env.nextBuffer + 1)
    (h_same : SameExcept env.nextBuffer env.devices env'.devices) :
    Watched P id env' (objects.insert number { id := number }) where
  numbered := by
    subst h_number
    exact h.numbered.insert (o := { id := env.nextBuffer }) (h_next ▸ Nat.le_succ _)
      (h_next ▸ Nat.lt_succ_self _)
  given_out := h_next ▸ Nat.lt_succ_of_lt h.given_out
  holds o h_find := by
    have h_ne : id ≠ env.nextBuffer := Nat.ne_of_lt h.given_out
    rw [Table.find?_insert_of_ne _ _ (h_number ▸ h_ne)] at h_find
    obtain ⟨rfl, -⟩ := h.numbered id o h_find
    exact h_abiding.of_same (h_same o.id h_ne) (h.holds o h_find)

/-- An object is locked. What becomes of its buffer if the lock fails is for `h_failed` to say. -/
theorem lockObject {w : World SystemState} (h : Watched P id w.env w.objects)
    (h_abiding : Abiding P) {l : BufferId} {o : BufferObject} (h_live : w.objects.find? l = some o)
    (handle : Handle) (request : LockRequest)
    (h_failed : ∀ {f env env'}, (w.lockObject systemBackend o handle request).1 = .error f →
      LockOutcome systemBackend o handle request env (.error f, env') → P o env.devices →
      P o env'.devices) :
    Watched P id (w.lockObject systemBackend o handle request).2.env
      (w.lockObject systemBackend o handle request).2.objects := by
  obtain ⟨rfl, -⟩ := h.numbered l o h_live
  have h_outcome := BufferObject.lock_outcome systemBackend o handle request w.env
  rcases h_lock : o.lock systemBackend handle request w.env with ⟨f | o', env⟩
  · rw [h_lock] at h_outcome
    simp only [World.lockObject, h_lock] at h_failed ⊢
    exact h.keep h_abiding h_live h_outcome.numbers.1 h_outcome.same
      fun h_own => (h_failed rfl h_outcome h_own :)
  · rw [h_lock] at h_outcome
    obtain ⟨h_next, h_id⟩ := h_outcome.numbers
    simp only [World.lockObject, h_lock]
    exact h.replace h_abiding h_live (h_id o' rfl) h_next h_outcome.same
      fun h_own => (h_abiding.of_locked h_outcome h_own :)

end Watched

/-- What abides of an object and its buffer, every elementary change keeps that is no lock. -/
theorem Change.watched_of_lock {P : BufferObject → SystemState → Prop} (h_abiding : Abiding P)
    {lockable : BufferObject → Prop} {w w' : World SystemState} {id : BufferId}
    (h_lock : ∀ {l o} handle request, w.objects.find? l = some o → lockable o →
      Watched P id (w.lockObject systemBackend o handle request).2.env
        (w.lockObject systemBackend o handle request).2.objects)
    (h_change : Change systemBackend lockable w w') (h : Watched P id w.env w.objects) :
    Watched P id w'.env w'.objects := by
  have h_ne : id ≠ w.env.nextBuffer := Nat.ne_of_lt h.given_out
  cases h_change with
  | noted _ => exact h.of_same h_abiding (Nat.le_refl _) rfl
  | unallocated h_call =>
    exact h.of_same h_abiding (BufferObject.allocate_nextBuffer_le h_call)
      (BufferObject.allocate_same h_call id h_ne)
  | allocated h_call =>
    obtain ⟨rfl, h_next, -⟩ := BufferObject.allocate_ok h_call
    exact h.insert h_abiding rfl h_next (BufferObject.allocate_same h_call)
  | unimported h_call =>
    exact h.of_same h_abiding (BufferObject.importFrom_nextBuffer_le h_call)
      (BufferObject.importFrom_same h_call id h_ne)
  | imported h_call =>
    obtain ⟨rfl, h_next⟩ := BufferObject.importFrom_ok h_call
    exact h.insert h_abiding rfl h_next (BufferObject.importFrom_same h_call)
  | locked h_live h_lockable handle request => exact h_lock handle request h_live h_lockable
  | @unlocked l o h_live =>
    obtain ⟨rfl, -⟩ := h.numbered l o h_live
    have h_outcome := BufferObject.unlock_outcome systemBackend o w.env
    rcases h_unlock : o.unlock systemBackend w.env with ⟨o', env⟩
    rw [h_unlock] at h_outcome
    obtain ⟨h_next, h_id⟩ := h_outcome.numbers
    simp only [unlockObject, h_unlock]
    exact h.replace h_abiding h_live h_id h_next h_outcome.same (h_abiding.of_unlocked h_outcome)
  | @destroyed l _ =>
    rcases h_object : w.objects.find? l with _ | o
    · simp only [destroy, h_object]
      exact h
    · obtain ⟨rfl, -⟩ := h.numbered l o h_object
      simp only [destroy, h_object]
      exact h.erase h_abiding (destroy_nextBuffer systemBackend o w.env)
        (BufferObject.destroy_same o w.env)

/-- What lasts of an object and its buffer, every elementary change keeps. -/
theorem Change.watched {P : BufferObject → SystemState → Prop} (h_lasting : Lasting P)
    {lockable : BufferObject → Prop} {w w' : World SystemState} {id : BufferId}
    (h_change : Change systemBackend lockable w w') (h : Watched P id w.env w.objects) :
    Watched P id w'.env w'.objects :=
  h_change.watched_of_lock h_lasting.toAbiding (fun handle request h_live _ =>
    h.lockObject h_lasting.toAbiding h_live handle request fun _ => h_lasting.of_failed) h

end World

end GraphicsBuffer
