/-
  GraphicsBuffer.Proofs.Session.Registration

  Registering and unregistering the handles of a session: the answer in each case, with the session
  that is left where nothing is made or freed.
-/

import GraphicsBuffer.Proofs.Session.Exclusive
import GraphicsBuffer.Proofs.World.Registration

namespace GraphicsBuffer.Session

variable {σ : Type} {B : Backend σ} {s : Session σ} {m : ManagerId} {name : Name}
  {manager : Manager} {handle : Handle} {key : Key} {id : BufferId} {o : BufferObject}

section Steps

variable (h_manager : s.world.manager? m = some manager)
  (h_find : s.handles.find? name = some handle)

include h_manager h_find

/-! ## Registering -/

theorem step_register_eq :
    s.step B (.register m name) = s.keepHandle name (s.world.register B m handle) := by
  simp only [step, withManager, h_manager, withHandle, h_find]

/-- A handle that is registered in the manager is found, and put back under its name. -/
theorem step_register_of_found (h_lookup : s.world.lookup m handle = some id) :
    s.step B (.register m name) = (.done, s.setHandle name handle) := by
  obtain ⟨key, -, h_key, -, -⟩ := World.lookup_eq_some_iff.mp h_lookup
  obtain ⟨h_world, h_answer⟩ :=
    World.register_of_registered (w := s.world) B m (h_key ▸ Option.some_ne_none key)
  rw [h_lookup] at h_answer
  rw [step_register_eq h_manager h_find, ← Prod.mk.eta (p := s.world.register B m handle), h_world,
    h_answer]
  rfl

/-- A handle that is registered elsewhere, or was once, is not found. -/
theorem step_register_of_lost (h_key : handle.registration ≠ none)
    (h_lookup : s.world.lookup m handle = none) :
    s.step B (.register m name) = (.failed (.error .notRegistered), s) := by
  obtain ⟨h_world, h_answer⟩ := World.register_of_registered (w := s.world) B m h_key
  rw [h_lookup] at h_answer
  rw [step_register_eq h_manager h_find, ← Prod.mk.eta (p := s.world.register B m handle), h_world,
    h_answer]
  rfl

/-! ## Unregistering -/

theorem step_unregister_eq :
    s.step B (.unregister m name) = s.keepHandle name (s.world.unregister B m handle) := by
  simp only [step, withManager, h_manager, withHandle, h_find]

theorem step_unregister_of_none (h_object : s.world.object? m handle = none) :
    s.step B (.unregister m name) = (.failed (.error .notRegistered), s) := by
  rw [step_unregister_eq h_manager h_find, World.unregister_of_none B h_object]
  rfl

theorem step_unregister_of_locked (h_object : s.world.object? m handle = some o)
    (h_busy : o.lockCount ≠ 0) :
    s.step B (.unregister m name) = (.failed (.error (.bufferLocked o.lockCount)), s) := by
  rw [step_unregister_eq h_manager h_find, World.unregister_of_locked B h_object h_busy]
  rfl

theorem step_unregister_of_unlocked (h_object : s.world.object? m handle = some o)
    (h_count : o.lockCount = 0) : (s.step B (.unregister m name)).1 = .done := by
  obtain ⟨key, manager', id, h_key, h_manager', h_entry, h_live⟩ :=
    World.object?_eq_some_iff_entry.mp h_object
  rw [step_unregister_eq h_manager h_find,
    World.unregister_of_unlocked B h_key h_manager' h_entry h_live h_count]
  rfl

/-- Of the three cases one is answered with success. -/
theorem step_unregister_done_iff : (s.step B (.unregister m name)).1 = .done ↔
    ∃ o, s.world.object? m handle = some o ∧ o.lockCount = 0 := by
  constructor
  · intro h_answer
    rcases h_object : s.world.object? m handle with _ | o
    · rw [step_unregister_of_none h_manager h_find h_object] at h_answer
      exact nomatch h_answer
    by_cases h_count : o.lockCount = 0
    · exact ⟨o, rfl, h_count⟩
    · rw [step_unregister_of_locked h_manager h_find h_object h_count] at h_answer
      exact nomatch h_answer
  · rintro ⟨o, h_object, h_count⟩
    exact step_unregister_of_unlocked h_manager h_find h_object h_count

end Steps

/-- The buffer of an entry that goes is in no table any more. -/
theorem withdraw_unregistered (h_own : EntriesOwn s) (h_keyed : World.Keyed s.world)
    (h_manager : s.world.manager? m = some manager)
    (h_find : manager.buffers.find? key = some id) :
    id ∉ (s.world.withdraw m manager key).registered := by
  intro h_mem
  obtain ⟨l, other, key', h_other, h_entry⟩ := (h_keyed.withdraw h_manager key).exists_entry h_mem
  have h_left : (s.world.withdraw m manager key).entryAt (l, key') = some id :=
    World.entryAt_eq_some_iff.mpr ⟨other, h_other, h_entry⟩
  rw [World.withdraw, World.entryAt_erase h_manager] at h_left
  obtain ⟨-, ⟨⟩⟩ | ⟨h_ne, h_entry⟩ := update_eq_some_iff.mp h_left
  -- the buffer had this entry only
  exact h_ne (h_own.entries_own h_entry
    (World.entryAt_eq_some_iff.mpr ⟨manager, h_manager, h_find⟩))

end GraphicsBuffer.Session
