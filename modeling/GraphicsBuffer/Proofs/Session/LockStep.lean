/-
  GraphicsBuffer.Proofs.Session.LockStep

  The two steps that lock a buffer. A client locks the buffer that a handle stands for in a manager,
  or one that it keeps a reference to; what happens then is the same, and it is the lock of an
  object for a handle. Nothing happens if there is no such handle or no such object. All other steps
  leave the locks alone or unlock a buffer.
-/

import GraphicsBuffer.Proofs.Session.LockTally

namespace GraphicsBuffer

open World (Undisturbed)

/-- Where a client finds the buffer that it locks. -/
inductive LockPlace where
  /-- In the table of a manager, under the key of the handle. -/
  | table (m : ManagerId)
  /-- Behind a reference, whatever the handle stands for. -/
  | reference (o : Name)

namespace LockPlace

/-- The step that locks the buffer for a handle. -/
def lock (place : LockPlace) (name : Name) (request : LockRequest) : Step :=
  match place with
  | table m => .lock m name request
  | reference o => .lockObject o name request

/-- Where a step locks a buffer, for which handle, and what it asks for. -/
def ofStep? : Step → Option (LockPlace × Name × LockRequest)
  | .lock m name request => some (.table m, name, request)
  | .lockObject o name request => some (.reference o, name, request)
  | _ => none

theorem ofStep?_lock (place : LockPlace) (name : Name) (request : LockRequest) :
    ofStep? (place.lock name request) = some (place, name, request) := by
  cases place <;> rfl

theorem lock_of_ofStep? {step : Step} {place : LockPlace} {name : Name} {request : LockRequest}
    (h_step : ofStep? step = some (place, name, request)) : step = place.lock name request := by
  unfold ofStep? at h_step
  split at h_step
  · cases h_step
    rfl
  · cases h_step
    rfl
  · exact nomatch h_step

/-- The object of the buffer. -/
def object? {σ : Type} (place : LockPlace) (s : Session σ) (handle : Handle) :
    Option BufferObject :=
  match place with
  | table m => s.world.object? m handle
  | reference o => s.heldObject? o

end LockPlace

namespace Session

variable {σ : Type} {B : Backend σ} {s : Session σ} {place : LockPlace} {name : Name}
  {handle : Handle} {o : BufferObject}

/-- An object that is found is live. -/
theorem live_of_object? (h_object : place.object? s handle = some o) :
    ∃ id, s.world.objects.find? id = some o := by
  cases place with
  | table m =>
    obtain ⟨id, -, h_live⟩ := World.object?_eq_some_iff.mp h_object
    exact ⟨id, h_live⟩
  | reference name =>
    obtain ⟨holding, -, h_live⟩ := Option.bind_eq_some_iff.mp h_object
    exact ⟨holding.id, h_live⟩

/-- A handle and an object are found, or one of them is missing. -/
theorem found_or_none (s : Session σ) (place : LockPlace) (name : Name) :
    (∃ handle o, s.handles.find? name = some handle ∧ place.object? s handle = some o) ∨
      ∀ handle, s.handles.find? name = some handle → place.object? s handle = none := by
  rcases h_find : s.handles.find? name with _ | handle
  · exact .inr nofun
  rcases h_object : place.object? s handle with _ | o
  · refine .inr fun handle' h_same => ?_
    obtain rfl := Option.some.inj h_same
    exact h_object
  · exact .inl ⟨handle, o, rfl, h_object⟩

/-- A buffer that is found is locked as its object is. -/
theorem step_lock_of_object (h_find : s.handles.find? name = some handle)
    (h_object : place.object? s handle = some o) (request : LockRequest) :
    s.step B (place.lock name request) =
      s.keepLock (some o) (s.world.lockObject B o handle request) := by
  cases place with
  | table m => exact step_lock_eq h_find h_object request
  | reference name' =>
    have h_held : s.heldObject? name' = some o := h_object
    simp only [LockPlace.lock, step, withHandle, h_find, withObject, h_held]

/-- The answer to a client whose lock came to something. -/
def lockAnswer (before : Option Address) : Outcome (Option Address) → Answer
  | .error f => .failed f
  | .ok address => .locked address before

/-- The client is told what becomes of the lock of the object. -/
theorem step_lock_answer (h_find : s.handles.find? name = some handle)
    (h_object : place.object? s handle = some o) (request : LockRequest) :
    (s.step B (place.lock name request)).1 =
      lockAnswer o.address? (s.world.lockObject B o handle request).1 := by
  rw [step_lock_of_object h_find h_object]
  rcases s.world.lockObject B o handle request with ⟨f | address, w⟩ <;> rfl

/-- Without a handle or an object nothing happens, whatever is asked for. -/
theorem step_lock_of_none (B : Backend σ) (s : Session σ) (place : LockPlace) (name : Name)
    (h_none : ∀ handle, s.handles.find? name = some handle → place.object? s handle = none) :
    ∃ answer, ∀ request, s.step B (place.lock name request) = (answer, s) := by
  cases place with
  | table m =>
    simp only [LockPlace.lock, step, withManager, withHandle]
    rcases s.world.manager? m with _ | manager
    · exact ⟨_, fun _ => rfl⟩
    rcases h_find : s.handles.find? name with _ | handle
    · exact ⟨_, fun _ => rfl⟩
    · have h_object : s.world.object? m handle = none := h_none handle h_find
      simp only [World.lock, h_object, keepLock]
      exact ⟨_, fun _ => rfl⟩
  | reference o =>
    simp only [LockPlace.lock, step, withHandle, withObject]
    rcases h_find : s.handles.find? name with _ | handle
    · exact ⟨_, fun _ => rfl⟩
    · have h_object : s.heldObject? o = none := h_none handle h_find
      simp only [h_object]
      exact ⟨_, fun _ => rfl⟩

/-- All other steps leave the locks alone, or unlock a live object. -/
theorem unlocks_of_no_lock (B : Backend σ) (s : Session σ) {step : Step}
    (h_step : LockPlace.ofStep? step = none) :
    Undisturbed s.world (s.step B step).2.world ∨
      ∃ id o, s.world.objects.find? id = some o ∧
        (s.step B step).2.world = s.world.unlockObject B o := by
  by_cases h_locks : LocksOrUnlocks step
  · cases step with
    | lock m name request => exact nomatch h_step
    | lockObject o name request => exact nomatch h_step
    | unlock m name =>
      simp only [step, withManager, withHandle]
      rcases s.world.manager? m with _ | manager
      · exact .inl (.refl _)
      rcases s.handles.find? name with _ | handle
      · exact .inl (.refl _)
      simp only [World.unlock]
      rcases h_object : s.world.object? m handle with _ | o
      · exact .inl (.refl _)
      · obtain ⟨id, -, h_live⟩ := World.object?_eq_some_iff.mp h_object
        exact .inr ⟨id, o, h_live, rfl⟩
    | unlockObject name =>
      simp only [step, withObject]
      rcases h_object : s.heldObject? name with _ | o
      · exact .inl (.refl _)
      · obtain ⟨holding, -, h_live⟩ := Option.bind_eq_some_iff.mp h_object
        exact .inr ⟨holding.id, o, h_live, rfl⟩
    | _ => exact absurd h_locks id
  · exact .inl (step_undisturbed h_locks)

end Session

end GraphicsBuffer
