/-
  GraphicsBuffer.Proofs.Session.AbortedLock

  Locks after an aborted lock. A lock that is aborted because the rows of its mapping are not as
  long as its handle says leaves the object as it was, but the buffer behind it stays mapped. From
  then on, for as long as the object lives, every lock that would have to map the buffer fails, with
  whatever handle it is asked for; all others answer as if nothing had happened.
-/

import GraphicsBuffer.Proofs.Backend.Stride
import GraphicsBuffer.Proofs.Session.Operation
import GraphicsBuffer.Proofs.Session.Watch

namespace GraphicsBuffer

/-! ## Mapped buffers -/

theorem SystemBuffer.map_mapped {b b' : SystemBuffer} {k k' : Kernel} {region : Rect}
    {access : Access} {mapping : BackendMapping}
    (h_map : b.map k region access = .ok (mapping, b', k')) : b'.mapping.isSome = true := by
  unfold SystemBuffer.map at h_map
  split at h_map
  · exact nomatch h_map
  split at h_map
  · exact nomatch h_map
  split at h_map
  · exact nomatch h_map
  split at h_map
  · split at h_map
    · exact nomatch h_map
    · cases h_map
      rfl
  · exact nomatch h_map

namespace SystemState

variable {s s' : SystemState} {id : BufferId}

/-- The buffer is there and is mapped. -/
def MappedBuffer (s : SystemState) (id : BufferId) : Prop :=
  ∃ b, s.buffers.find? id = some b ∧ b.mapping.isSome = true

/-- A buffer that is mapped is not mapped again. -/
theorem MappedBuffer.map_eq (h : s.MappedBuffer id) (region : Rect) (access : Access) :
    s.map id region access = (.error (.error .doubleMapping), s) := by
  obtain ⟨b, h_find, h_mapped⟩ := h
  have h_refused : b.map s.kernel region access = .error (.error .doubleMapping) := if_pos h_mapped
  simp only [SystemState.map, h_find, h_refused]

theorem mappedBuffer_of_map {region : Rect} {access : Access} {mapping : BackendMapping}
    (h_map : s.map id region access = (.ok mapping, s')) : s'.MappedBuffer id := by
  unfold SystemState.map at h_map
  rcases h_find : s.buffers.find? id with _ | b
  · simp [h_find] at h_map
  rcases h_call : b.map s.kernel region access with f | ⟨mapping', b', kernel⟩
  · simp [h_find, h_call] at h_map
  · simp only [h_find, h_call] at h_map
    obtain ⟨-, rfl⟩ := Prod.mk.inj h_map
    exact ⟨b', Table.find?_insert_self _ _ _, SystemBuffer.map_mapped h_call⟩

end SystemState

/-! ## Objects that cannot be mapped -/

namespace BufferObject

variable {o : BufferObject} {h : Handle} {request : LockRequest} {env env' : Env SystemState}

/-- A lock comes to ask the backend for a mapping: it passes all checks before that, involves the
    CPU, and the object has no mapping to share. -/
structure NeedsMapping (o : BufferObject) (h : Handle) (request : LockRequest) : Prop where
  permitted : permits h request.usage = true
  nestable : o.nestable request.usage = true
  cpu : (request.usage ∪ o.lockedFor).cpuAccess = true
  corner : ∃ corner, h.format.mapCorner request.region = .ok corner
  unmapped : o.mapping = none

/-- What a lock answers that needs no mapping does not depend on the devices. -/
theorem lock_answer_of_not_needsMapping {σ : Type} {B : Backend σ}
    (h_needs : ¬NeedsMapping o h request) (env env' : Env σ) :
    (o.lock B h request env).1 = (o.lock B h request env').1 := by
  simp only [lock]
  rcases h_permits : permits h request.usage with _ | _
  · rfl
  rcases h_nestable : o.nestable request.usage with _ | _
  · rfl
  rcases h_cpu : (request.usage ∪ o.lockedFor).cpuAccess with _ | _
  · rfl
  simp only [Bool.not_true, Bool.false_eq_true, if_false, if_true, coverRegion]
  rcases h_corner : h.format.mapCorner request.region with e | corner
  · rfl
  rcases h_mapping : o.mapping with _ | mapping
  · exact absurd ⟨h_permits, h_nestable, h_cpu, ⟨corner, h_corner⟩, h_mapping⟩ h_needs
  · by_cases h_outside : (request.usage.cpuAccess && !corner.within o.mappedCorner) = true
    · simp only [if_pos h_outside]
    · simp only [if_neg h_outside]

/-- The object records no mapping, but its buffer is mapped. -/
structure Unmappable (o : BufferObject) (s : SystemState) : Prop where
  unmapped : o.mapping = none
  mapped : s.MappedBuffer o.id

variable [PageSize]

theorem Unmappable.openMapping_eq {region : Rect} {corner : Corner} {access : Access}
    {answer : Outcome BackendMapping} (h_o : Unmappable o env.devices)
    (h_open : openMapping systemBackend o.id h region corner access env = (answer, env')) :
    answer = .error (.error .mappingFailed) ∧ env'.devices = env.devices := by
  have h_map := h_o.mapped.map_eq corner.fromOrigin access
  rcases answer with f | mapping
  · obtain ⟨given, h_call, -, h_given⟩ := openMapping_failed h_open
    obtain ⟨rfl, h_devices⟩ := Prod.mk.inj (h_map.symm.trans h_call)
    rcases h_given with ⟨e, -, rfl⟩ | ⟨a, h_abort, -⟩ | ⟨mapping, h_ok, -⟩
    · exact ⟨rfl, h_devices.symm⟩
    · exact nomatch h_abort
    · exact nomatch h_ok
  · obtain ⟨given, h_call, -, -, h_given⟩ := openMapping_spec h_open
    obtain ⟨rfl, -⟩ := Prod.mk.inj (h_map.symm.trans h_call)
    exact nomatch (h_given mapping rfl).1

/-- A lock that needs a mapping does not get one. -/
theorem Unmappable.lock_fails (h_o : Unmappable o env.devices)
    (h_needs : NeedsMapping o h request) :
    (o.lock systemBackend h request env).1 = .error (.error .mappingFailed) := by
  have h_outcome := lock_outcome systemBackend o h request env
  rcases h_lock : o.lock systemBackend h request env with ⟨answer, env'⟩
  rw [h_lock] at h_outcome
  have h_noted : Unmappable o (env.note (.locking o.lockCount request.usage)).devices := h_o
  obtain ⟨corner, h_corner⟩ := h_needs.corner
  cases h_outcome with
  | notPermitted h_permits => exact nomatch h_permits.symm.trans h_needs.permitted
  | incompatible _ h_nestable => exact nomatch h_nestable.symm.trans h_needs.nestable
  | device _ _ h_cpu => exact nomatch h_cpu.symm.trans h_needs.cpu
  | noCorner _ _ _ h_error => exact nomatch h_error.symm.trans h_corner
  | unmapped _ _ _ _ _ h_open =>
    obtain ⟨h_failed, -⟩ := h_noted.openMapping_eq h_open
    rw [Except.error.inj h_failed]
  | mapped _ _ _ _ _ h_open =>
    obtain ⟨h_failed, -⟩ := h_noted.openMapping_eq h_open
    exact nomatch h_failed
  | beyond _ _ _ _ h_mapping _ => exact nomatch h_mapping.symm.trans h_needs.unmapped
  | shared _ _ _ _ h_mapping _ => exact nomatch h_mapping.symm.trans h_needs.unmapped

/-- No lock and no unlock ends this. -/
theorem unmappable_lasting : Lasting Unmappable where
  of_same h_find h_o := by
    obtain ⟨b, h_there, h_mapped⟩ := h_o.mapped
    exact ⟨h_o.unmapped, b, h_find.trans h_there, h_mapped⟩
  of_failed h_lock h_o := by
    cases h_lock with
    | notPermitted _ => exact h_o
    | incompatible _ _ => exact h_o
    | noCorner _ _ _ _ => exact h_o
    | unmapped _ _ _ _ _ h_open =>
      rw [(h_o.openMapping_eq h_open).2]
      exact h_o
    | beyond _ _ _ _ _ _ => exact h_o
  of_locked h_lock h_o := by
    cases h_lock with
    | device _ _ _ => exact ⟨h_o.unmapped, h_o.mapped⟩
    | mapped _ _ _ _ _ h_open => exact nomatch (h_o.openMapping_eq h_open).1
    | shared _ _ _ _ h_mapping _ => exact nomatch h_mapping.symm.trans h_o.unmapped
  of_unlocked h_unlock h_o := by
    cases h_unlock with
    | idle _ => exact h_o
    | inner _ _ => exact ⟨h_o.unmapped, h_o.mapped⟩
    | last _ _ => exact ⟨rfl, h_o.mapped⟩
    | lastMapped _ h_mapping => exact nomatch h_mapping.symm.trans h_o.unmapped

/-- A lock that is aborted leaves its buffer mapped. -/
theorem unmappable_of_abort {a : Abort}
    (h_lock : o.lock systemBackend h request env = (.error (.abort a), env')) :
    Unmappable o env'.devices := by
  have h_outcome := lock_outcome systemBackend o h request env
  rw [h_lock] at h_outcome
  cases h_outcome with
  | unmapped _ _ _ _ h_mapping h_open =>
    obtain ⟨given, h_call, -, h_given⟩ := openMapping_failed h_open
    -- the allocator does not abort by itself, so it has mapped the buffer
    rcases h_given with ⟨e, -, h_error⟩ | ⟨b, rfl, -⟩ | ⟨mapping, rfl, -⟩
    · exact nomatch h_error
    · exact absurd rfl ((SystemState.map_stride h_call).2.1 b)
    · exact ⟨h_mapping, SystemState.mappedBuffer_of_map h_call⟩

end BufferObject

/-! ## Plays -/

namespace Session

open BufferObject (NeedsMapping Unmappable)
open World (Watched)

section Abort

variable {s s' : Session SystemState} {m : ManagerId} {name : Name} {request : LockRequest}
  {handle : Handle} {o : BufferObject} {a : Abort}

/-- A lock step that is aborted leaves the objects as they were, and from there on the object that
    it was about can not be mapped. -/
theorem watched_of_abort [PageSize] (h_numbered : World.Numbered s.world.env s.world.objects)
    (h_find : s.handles.find? name = some handle) (h_object : s.world.object? m handle = some o)
    (h_step : s.step systemBackend (.lock m name request) = (.failed (.abort a), s')) :
    s'.world.objects = s.world.objects ∧
      Watched Unmappable o.id s'.world.env s'.world.objects := by
  obtain ⟨id, -, h_live⟩ := World.object?_eq_some_iff.mp h_object
  obtain ⟨rfl, h_given⟩ := h_numbered id o h_live
  rw [step_lock_eq h_find h_object request] at h_step
  have h_failed : (s.world.lockObject systemBackend o handle request).1 = .error (.abort a) :=
    keepLock_failed (congrArg Prod.fst h_step)
  have h_state : (s.keepLock (some o) (s.world.lockObject systemBackend o handle request)).2 = s' :=
    congrArg Prod.snd h_step
  have h_world : s'.world = (s.world.lockObject systemBackend o handle request).2 := by
    rw [← h_state, keepLock_world]
  have h_outcome := BufferObject.lock_outcome systemBackend o handle request s.world.env
  rcases h_lock : o.lock systemBackend handle request s.world.env with ⟨f | o', env⟩
  · simp only [World.lockObject, h_lock] at h_failed h_world
    obtain rfl := Except.error.inj h_failed
    rw [h_lock] at h_outcome
    have h_next : env.nextBuffer = s.world.env.nextBuffer := h_outcome.numbers.1
    rw [h_world]
    refine ⟨rfl, h_numbered.mono (Nat.le_of_eq h_next.symm), h_next ▸ h_given, fun o'' h_find => ?_⟩
    obtain rfl := Option.some.inj (h_live.symm.trans h_find)
    exact BufferObject.unmappable_of_abort h_lock
  · simp [World.lockObject, h_lock] at h_failed

/-- An aborted lock of a buffer leaves its object as it was. In every later state, as long as the
    object is live and nothing touches the buffers but the session, a lock of it that needs a
    mapping fails, whatever handle it is asked for; any other lock of it answers as it would with
    any other devices, and so as it would have before. -/
theorem aborted_lock_lasts [PageSize] (kernel : Kernel) (kinds : List ManagerKind)
    (earlier later : List (Move SystemState))
    (h_reached : (start systemBackend { kernel } kinds).play systemBackend earlier = s)
    (h_find : s.handles.find? name = some handle) (h_object : s.world.object? m handle = some o)
    (h_step : s.step systemBackend (.lock m name request) = (.failed (.abort a), s'))
    (h_left : Obeys (after systemBackend) BuffersLeft s' later) :
    s'.world.objects = s.world.objects ∧
      ∀ o', (s'.play systemBackend later).world.objects.find? o.id = some o' →
        ∀ handle' request',
          (NeedsMapping o' handle' request' →
            (o'.lock systemBackend handle' request' (s'.play systemBackend later).world.env).1 =
              .error (.error .mappingFailed)) ∧
          (¬NeedsMapping o' handle' request' → ∀ env,
            (o'.lock systemBackend handle' request' (s'.play systemBackend later).world.env).1 =
              (o'.lock systemBackend handle' request' env).1) := by
  subst h_reached
  have h_accounted := (accounted_of_play systemBackend { kernel } kinds earlier).of_after
    (B := systemBackend) (.client (.lock m name request))
  rw [after, move, h_step] at h_accounted
  have h_numbered := numbered_of_play systemBackend { kernel } kinds earlier
  obtain ⟨h_same, h_watched⟩ := watched_of_abort h_numbered h_find h_object h_step
  have h_later := watched_play BufferObject.unmappable_lasting h_accounted h_watched h_left
  refine ⟨h_same, fun o' h_live handle' request' => ⟨fun h_needs => ?_, fun h_needs env => ?_⟩⟩
  · exact (h_later.holds o' h_live).lock_fails h_needs
  · exact BufferObject.lock_answer_of_not_needsMapping h_needs _ env

end Abort

/-- A buffer of sixteen by sixteen pixels is created, and its handle is told a stride that is not
    that of the buffer. -/
def misreadMoves : List (Move SystemState) :=
  [.client (.create 0 "h" ⟨16, 16⟩ PixelFormat.rgba8888 Usage.cpuWriteOften),
   .client (.assign "h" { stride := some 68 })]

/-- The session in which the handle is wrong about its buffer. -/
def misread : Session SystemState :=
  (start systemBackend { kernel := {} } [.full]).play systemBackend misreadMoves

/-- The handle as it was created. -/
def intactHandle : Handle :=
  { Handle.new ⟨16, 16⟩ PixelFormat.rgba8888 Usage.cpuWriteOften with
    stride := 64, descriptor := some (.memory 0), registration := some 1 }

/-- A lock of the whole buffer to be painted. -/
def paintRequest : LockRequest := ⟨Usage.cpuWriteOften, ⟨0, 0, 16, 16⟩⟩

/-- With the intact handle the buffer cannot be painted after the abort. -/
theorem aborted_lock_lasts_misread :
    (misread.step systemBackend (.lock 0 "h" paintRequest)).1 = .failed (.abort .strideMismatch) ∧
      ({ id := 1 } : BufferObject).NeedsMapping intactHandle paintRequest ∧
      (({ id := 1 } : BufferObject).lock systemBackend intactHandle paintRequest
        ((misread.step systemBackend (.lock 0 "h" paintRequest)).2.play systemBackend
          [.client (.assign "h" { stride := some 64 })]).world.env).1 =
        .error (.error .mappingFailed) := by
  have h_answer : (misread.step systemBackend (.lock 0 "h" paintRequest)).1 =
      .failed (.abort .strideMismatch) := by decide +kernel
  have h_needs : ({ id := 1 } : BufferObject).NeedsMapping intactHandle paintRequest :=
    ⟨by decide +kernel, by decide +kernel, by decide +kernel, ⟨⟨16, 16⟩, by decide +kernel⟩, rfl⟩
  have h_find : misread.handles.find? "h" = some { intactHandle with stride := 68 } := by
    decide +kernel
  have h_object :
      misread.world.object? 0 { intactHandle with stride := 68 } = some { id := 1 } := by
    decide +kernel
  obtain ⟨-, h_lasts⟩ := aborted_lock_lasts {} [.full] misreadMoves
    [.client (.assign "h" { stride := some 64 })] rfl h_find h_object (Prod.ext h_answer rfl)
    ⟨True.intro, True.intro⟩
  obtain ⟨h_fails, -⟩ := h_lasts { id := 1 } (by decide +kernel) intactHandle paintRequest
  exact ⟨h_answer, h_needs, h_fails h_needs⟩

/-- Without the aborted lock the same lock is granted. -/
theorem lock_after_abort_differs :
    (misread.step systemBackend (.lock 0 "h" paintRequest)).1 = .failed (.abort .strideMismatch) ∧
      ((((misread.after systemBackend (.client (.lock 0 "h" paintRequest))).after systemBackend
        (.client (.assign "h" { stride := some 64 }))).step systemBackend
          (.lock 0 "h" paintRequest)).1 = .failed (.error .mappingFailed)) ∧
      ((misread.after systemBackend (.client (.assign "h" { stride := some 64 }))).step
        systemBackend (.lock 0 "h" paintRequest)).1 = .locked (some ⟨1, 0⟩) none := by
  refine ⟨?_, ?_, ?_⟩ <;> decide +kernel

end Session

end GraphicsBuffer
