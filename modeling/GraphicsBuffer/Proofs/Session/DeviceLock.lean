/-
  GraphicsBuffer.Proofs.Session.DeviceLock

  Locks for devices only. What they are granted and what they change does not hang on their region
  (`device_lock_region`), with one exception: in a buffer that is mapped for the locks around it,
  the corner of the region is computed before it is known that nobody asks for it, and a corner that
  does not fit its words fails the lock (`device_lock_overruns`).
-/

import GraphicsBuffer.Backend.System
import GraphicsBuffer.Proofs.PixelFormat
import GraphicsBuffer.Proofs.Session.LockState
import GraphicsBuffer.Proofs.Session.LockStep

namespace GraphicsBuffer

/-! ## Objects -/

namespace BufferObject

variable {σ : Type} {o : BufferObject} {h : Handle} {usage : Usage} {request : LockRequest}
  {r r' : Rect} {e : Error}

/-- A lock gets as far as the corner of its region in a buffer that is mapped, and the corner does
    not fit its words. -/
structure Overruns (o : BufferObject) (h : Handle) (request : LockRequest) (e : Error) : Prop where
  permitted : permits h request.usage = true
  nestable : o.nestable request.usage = true
  mapped : o.isMapped = true
  corner : h.format.mapCorner request.region = .error e

/-- In a buffer that is locked for the CPU, the lock fails then and only says that it was asked
    for. -/
theorem lock_of_overruns (B : Backend σ) (h_mapped : o.MappedForCpu)
    (h_overruns : o.Overruns h request e) (env : Env σ) :
    o.lock B h request env =
      (.error (.error e), env.note (.locking o.lockCount request.usage)) := by
  have h_cpu : (request.usage ∪ o.lockedFor).cpuAccess = true := by
    rw [Usage.cpuAccess_union, ← h_mapped, ← isMapped, h_overruns.mapped, Bool.or_true]
  exact lock_noCorner_eq B env h_overruns.permitted h_overruns.nestable h_cpu h_overruns.corner

/-- Otherwise, if it is for devices only, it is granted as soon as it is permitted and fits the
    locks around it. -/
theorem lock_device_granted (B : Backend σ) (h_mapped : o.MappedForCpu)
    (h_device : request.usage.cpuAccess = false) (h_permits : permits h request.usage = true)
    (h_nestable : o.nestable request.usage = true) (h_fits : ∀ e, ¬o.Overruns h request e)
    (env : Env σ) :
    o.lock B h request env = (.ok (o.addLock (request.usage ∪ o.lockedFor)),
      env.note (.locking o.lockCount request.usage)) := by
  have h_cpu : (request.usage ∪ o.lockedFor).cpuAccess = o.mapping.isSome := by
    rw [Usage.cpuAccess_union, h_device, Bool.false_or, h_mapped]
  simp only [lock, h_permits, h_nestable, h_cpu, Bool.not_true, Bool.false_eq_true, if_false]
  rcases h_mapping : o.mapping with _ | mapping
  · rfl
  · rcases h_corner : h.format.mapCorner request.region with e | corner
    · have h_is : o.isMapped = true := by rw [isMapped, h_mapping]; rfl
      exact absurd ⟨h_permits, h_nestable, h_is, h_corner⟩ (h_fits e)
    · simp only [coverRegion, h_corner, h_mapping, h_device, Bool.false_and, Option.isSome_some,
        if_true, Bool.false_eq_true, if_false]

/-- So two locks for the same devices do the same in any two regions that do not overrun. -/
theorem lock_device_eq (B : Backend σ) (h_mapped : o.MappedForCpu)
    (h_device : usage.cpuAccess = false) (h_fits : ∀ e, ¬o.Overruns h ⟨usage, r⟩ e)
    (h_fits' : ∀ e, ¬o.Overruns h ⟨usage, r'⟩ e) (env : Env σ) :
    o.lock B h ⟨usage, r⟩ env = o.lock B h ⟨usage, r'⟩ env := by
  rcases h_permits : permits h usage with _ | _
  · simp only [lock, h_permits, Bool.not_false, if_true]
  rcases h_nestable : o.nestable usage with _ | _
  · simp only [lock, h_permits, h_nestable, Bool.not_true, Bool.not_false, Bool.false_eq_true,
      if_false, if_true]
  · rw [lock_device_granted B h_mapped h_device h_permits h_nestable h_fits,
      lock_device_granted B h_mapped h_device h_permits h_nestable h_fits']

end BufferObject

/-! ## Sessions -/

namespace Session

variable {σ : Type} {B : Backend σ} {s : Session σ} {place : LockPlace} {name : Name}
  {usage : Usage} {r r' : Rect} {e : Error}

/-- A lock that a client asks for overruns in the object that it finds. -/
def Overruns (s : Session σ) (place : LockPlace) (name : Name) (request : LockRequest) (e : Error) :
    Prop :=
  ∃ handle o, s.handles.find? name = some handle ∧ place.object? s handle = some o ∧
    o.Overruns handle request e

/-- What the region decides in a lock for devices only. -/
structure RegionMatters (B : Backend σ) (s : Session σ) (place : LockPlace) (name : Name)
    (usage : Usage) : Prop where
  /-- Nothing, between two regions that do not overrun: answer, locks, log, calls and all else are
      the same. In a buffer that is not mapped no region overruns. -/
  same : ∀ r r', (∀ e, ¬s.Overruns place name ⟨usage, r⟩ e) →
    (∀ e, ¬s.Overruns place name ⟨usage, r'⟩ e) →
    s.step B (place.lock name ⟨usage, r⟩) = s.step B (place.lock name ⟨usage, r'⟩)
  /-- A region that overruns makes the lock fail. All that is left of it is an entry in the log. -/
  overrun : ∀ r handle o e, s.handles.find? name = some handle →
    place.object? s handle = some o → o.Overruns handle ⟨usage, r⟩ e →
    (∃ fault, e = .arithmetic fault) ∧
      s.step B (place.lock name ⟨usage, r⟩) = (.failed (.error e), s.setWorld
        { s.world with env := s.world.env.note (.locking o.lockCount usage) })

theorem regionMatters (h_mapped : ∀ o ∈ s.world.objects.values, o.MappedForCpu)
    (h_device : usage.cpuAccess = false) (place : LockPlace) (name : Name) :
    RegionMatters B s place name usage := by
  have h_mapped' : ∀ {handle o}, place.object? s handle = some o → o.MappedForCpu := by
    intro handle o h_object
    obtain ⟨id, h_live⟩ := live_of_object? h_object
    exact h_mapped o (Table.mem_values_of_find? h_live)
  constructor
  · intro r r' h_fits h_fits'
    rcases found_or_none s place name with ⟨handle, o, h_find, h_object⟩ | h_none
    · have h_lock := BufferObject.lock_device_eq B (h_mapped' h_object) h_device
        (fun e h => h_fits e ⟨handle, o, h_find, h_object, h⟩)
        (fun e h => h_fits' e ⟨handle, o, h_find, h_object, h⟩) s.world.env
      rw [step_lock_of_object h_find h_object, step_lock_of_object h_find h_object,
        World.lockObject, World.lockObject, h_lock]
    · obtain ⟨answer, h_step⟩ := step_lock_of_none B s place name h_none
      rw [h_step, h_step]
  · intro r handle o e h_find h_object h_overruns
    refine ⟨PixelFormat.mapCorner_error h_overruns.corner, ?_⟩
    rw [step_lock_of_object h_find h_object, World.lockObject,
      BufferObject.lock_of_overruns B (h_mapped' h_object) h_overruns]
    rfl

/-- In every state that a play reaches, on any backend, a lock for devices only does not depend on
    its region, unless the buffer is mapped and the corner of the region does not fit. So it is for
    every live object and any handle, and for the steps of a client. -/
theorem device_lock_region (B : Backend σ) (devices : σ) (kinds : List ManagerKind)
    (moves : List (Move σ)) (h_device : usage.cpuAccess = false) :
    (∀ o ∈ ((start B devices kinds).play B moves).world.objects.values, ∀ h env r r',
        (∀ e, ¬o.Overruns h ⟨usage, r⟩ e) → (∀ e, ¬o.Overruns h ⟨usage, r'⟩ e) →
        o.lock B h ⟨usage, r⟩ env = o.lock B h ⟨usage, r'⟩ env) ∧
      ∀ place name, RegionMatters B ((start B devices kinds).play B moves) place name usage := by
  have h_mapped := mappedForCpu_of_play B devices kinds moves
  refine ⟨fun o h_mem h env r r' h_fits h_fits' => ?_, regionMatters h_mapped h_device⟩
  exact BufferObject.lock_device_eq B (h_mapped o h_mem) h_device h_fits h_fits' env

/-- A buffer that the CPU paints and a device samples is created and locked for both. -/
def sampledMoves : List (Move SystemState) :=
  let usage := Usage.cpuWriteOften ∪ Usage.texture
  [.client (.create 0 "a" ⟨16, 16⟩ PixelFormat.rgba8888 usage),
   .client (.lock 0 "a" ⟨usage, ⟨0, 0, 16, 16⟩⟩)]

/-- The session in which the buffer is mapped. -/
def sampled : Session SystemState :=
  (start systemBackend {} [.full]).play systemBackend sampledMoves

/-- The device may lock any region in it, also one that reaches far beyond the buffer. -/
theorem device_lock_region_sampled :
    Usage.texture.cpuAccess = false ∧
      RegionMatters systemBackend sampled (.table 0) "a" Usage.texture ∧
      (sampled.step systemBackend (.lock 0 "a" ⟨Usage.texture, ⟨0, 0, 16, 16⟩⟩)).1 =
        .locked (some ⟨1, 0⟩) (some ⟨1, 0⟩) ∧
      (sampled.step systemBackend (.lock 0 "a" ⟨Usage.texture, ⟨900, 0, 900, 900⟩⟩)).1 =
        .locked (some ⟨1, 0⟩) (some ⟨1, 0⟩) := by
  have h_device : Usage.texture.cpuAccess = false := by decide
  obtain ⟨-, h_matters⟩ :=
    device_lock_region systemBackend {} [.full] sampledMoves h_device
  exact ⟨h_device, h_matters (.table 0) "a", by decide +kernel, by decide +kernel⟩

/-- But not one whose corner does not fit: the buffer is locked already for what is asked, nothing
    is going to be touched, and the lock of one region is granted and that of the other fails. -/
theorem device_lock_overruns :
    Usage.texture.cpuAccess = false ∧
      (sampled.step systemBackend (.lock 0 "a" ⟨Usage.texture, ⟨0, 0, 16, 16⟩⟩)).1 =
        .locked (some ⟨1, 0⟩) (some ⟨1, 0⟩) ∧
      (sampled.step systemBackend (.lock 0 "a" ⟨Usage.texture, ⟨0xffffffff, 0, 1, 1⟩⟩)).1 =
        .failed (.error (.arithmetic ⟨⟨"x", 0xffffffff⟩, .add, ⟨"width", 1⟩⟩)) := by
  refine ⟨?_, ?_, ?_⟩ <;> decide +kernel

end Session

end GraphicsBuffer
