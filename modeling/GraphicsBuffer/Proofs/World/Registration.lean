/-
  GraphicsBuffer.Proofs.World.Registration

  Taking a buffer out of a table and bringing one into it, on any backend. A buffer leaves the table
  only if its object is there and has no lock; a handle brings a buffer in only if it is registered
  nowhere and the one import that is tried succeeds, or if it is new and the allocation succeeds.
-/

import GraphicsBuffer.Proofs.BufferObject.Account
import GraphicsBuffer.Proofs.BufferObject.Count
import GraphicsBuffer.Proofs.World.Ownership

namespace GraphicsBuffer.World

variable {σ : Type} {B : Backend σ} {w : World σ} {m : ManagerId} {manager : Manager} {h : Handle}
  {o : BufferObject}

/-! ## Handles that stand for an object -/

/-- A handle stands for an object if its key has an entry in the table, for a live buffer. -/
theorem object?_eq_some_iff_entry : w.object? m h = some o ↔ ∃ key manager id,
    h.registration = some key ∧ w.manager? m = some manager ∧
      manager.buffers.find? key = some id ∧ w.objects.find? id = some o := by
  simp only [object?_eq_some_iff, lookup_eq_some_iff]
  constructor
  · rintro ⟨id, ⟨key, manager, h_key, h_manager, h_find⟩, h_live⟩
    exact ⟨key, manager, id, h_key, h_manager, h_find, h_live⟩
  · rintro ⟨key, manager, id, h_key, h_manager, h_find, h_live⟩
    exact ⟨id, ⟨key, manager, h_key, h_manager, h_find⟩, h_live⟩

/-- A handle without a key stands for nothing, in any manager. -/
theorem object?_of_unregistered (w : World σ) (m : ManagerId) (h_key : h.registration = none) :
    w.object? m h = none := by
  rw [object?, lookup, h_key]
  rfl

/-- A table that changes leaves the kinds of the managers as they are. -/
theorem kinds_setManager (h_manager : w.manager? m = some manager)
    (buffers : Table Key BufferId) :
    (w.setManager m (some { manager with buffers })).managers.map (·.map (·.kind)) =
      w.managers.map (·.map (·.kind)) := by
  have h_slot : w.managers[m]? = some (some manager) := Option.join_eq_some_iff.mp h_manager
  refine List.ext_getElem? fun l => ?_
  rw [setManager, List.map_set, List.getElem?_set]
  split
  next h_eq =>
    subst h_eq
    have h_lt : m < w.managers.length := (List.getElem?_eq_some_iff.mp h_slot).1
    rw [List.length_map, if_pos h_lt, List.getElem?_map, h_slot]
    rfl
  next => rfl

/-! ## Unregistering -/

/-- A handle that stands for nothing cannot be unregistered. -/
theorem unregister_of_none (B : Backend σ) (h_object : w.object? m h = none) :
    w.unregister B m h = (.error (.error .notRegistered), w) := by
  unfold unregister
  split
  next key manager id h_key h_manager h_lookup =>
    have h_dead : w.objects.find? id = none := by
      rw [object?, h_lookup] at h_object
      exact h_object
    rw [h_dead]
  next => rfl

/-- A buffer that is locked stays in the table. -/
theorem unregister_of_locked (B : Backend σ) (h_object : w.object? m h = some o)
    (h_busy : o.lockCount ≠ 0) :
    w.unregister B m h = (.error (.error (.bufferLocked o.lockCount)), w) := by
  obtain ⟨key, manager, id, h_key, h_manager, h_find, h_live⟩ :=
    object?_eq_some_iff_entry.mp h_object
  have h_lookup : w.lookup m h = some id :=
    lookup_eq_some_iff.mpr ⟨key, manager, h_key, h_manager, h_find⟩
  simp only [unregister, h_key, h_manager, h_lookup, h_live, if_neg h_busy]

/-- The world without one entry of a table. -/
def withdraw (w : World σ) (m : ManagerId) (manager : Manager) (key : Key) : World σ :=
  w.setManager m (some { manager with buffers := manager.buffers.erase key })

/-- A buffer that is not locked leaves the table, and is looked at. -/
theorem unregister_of_unlocked (B : Backend σ) {key : Key} {id : BufferId}
    (h_key : h.registration = some key) (h_manager : w.manager? m = some manager)
    (h_find : manager.buffers.find? key = some id) (h_live : w.objects.find? id = some o)
    (h_count : o.lockCount = 0) : w.unregister B m h =
      (.ok { h with registration := none }, (w.withdraw m manager key).reap B id) := by
  have h_lookup : w.lookup m h = some id :=
    lookup_eq_some_iff.mpr ⟨key, manager, h_key, h_manager, h_find⟩
  simp only [unregister, h_key, h_manager, h_lookup, h_live, if_pos h_count, withdraw]

/-- An object without locks is freed by one call, without ending a mapping first. -/
theorem destroy_of_unlocked (B : Backend σ) {id : BufferId} (h_live : w.objects.find? id = some o)
    (h_inv : BufferObject.LockInvariant o) (h_count : o.lockCount = 0) :
    w.destroy B id =
      { w with env := w.env.destroy B o.id, objects := w.objects.erase id } := by
  simp only [destroy, h_live, BufferObject.destroy, h_inv.unmapped_of_count h_count]

/-! ## Creating -/

section Creating

variable (B : Backend σ) (h_manager : w.manager? m = some manager) {size : Extent}
  {format : PixelFormat} {usage : Usage} {env : Env σ}
include h_manager

/-- If no buffer can be allocated for a new handle, only the account of it is left. -/
theorem create_of_failed {f : Failure}
    (h_call : BufferObject.allocate B m (Handle.new size format usage) w.env = (.error f, env)) :
    w.create B m size format usage = (.error f, { w with env }) := by
  simp only [create, h_manager, h_call]

/-- If one is allocated, the handle is given the next key. -/
theorem create_of_allocated {h : Handle}
    (h_call : BufferObject.allocate B m (Handle.new size format usage) w.env =
      (.ok ({ id := w.env.nextBuffer }, h), env)) :
    w.create B m size format usage = (.ok { h with registration := some w.nextKey },
      ((w.addObject { id := w.env.nextBuffer } env).claim m manager h w.env.nextBuffer).2) := by
  simp only [create, h_manager, h_call]
  rfl

/-- So it is with every buffer that is created. -/
theorem create_of_manager (size : Extent) (format : PixelFormat) (usage : Usage) :
    (∃ f env, BufferObject.allocate B m (Handle.new size format usage) w.env = (.error f, env) ∧
        w.create B m size format usage = (.error f, { w with env })) ∨
      ∃ h env, BufferObject.allocate B m (Handle.new size format usage) w.env =
          (.ok ({ id := w.env.nextBuffer }, h), env) ∧
        w.create B m size format usage =
          (.ok { h with registration := some w.nextKey },
            ((w.addObject { id := w.env.nextBuffer } env).claim m manager h
              w.env.nextBuffer).2) := by
  rcases h_call : BufferObject.allocate B m (Handle.new size format usage) w.env with
    ⟨f | ⟨o, h⟩, env⟩
  · exact .inl ⟨f, env, rfl, create_of_failed B h_manager h_call⟩
  · obtain ⟨rfl, -, -⟩ := BufferObject.allocate_ok h_call
    exact .inr ⟨h, env, rfl, create_of_allocated B h_manager h_call⟩

end Creating

/-! ## Resolving and registering -/

/-- A handle that is registered somewhere is looked up and nothing else. -/
theorem resolve_of_registered (B : Backend σ) (w : World σ) (m : ManagerId) (useDevice : Bool)
    (h_key : h.registration ≠ none) :
    w.resolve B m useDevice h = (.ok (w.lookup m h, h), w) := by
  unfold resolve
  rw [if_pos (Option.isSome_iff_ne_none.mpr h_key)]

/-- Without a device every handle is looked up and nothing else. -/
theorem resolve_without_device (B : Backend σ) (w : World σ) (m : ManagerId) (h : Handle) :
    w.resolve B m false h = (.ok (w.lookup m h, h), w) := by
  by_cases h_key : h.registration = none
  · have h_lookup : w.lookup m h = none := by
      rw [lookup, h_key]
      rfl
    unfold resolve
    rw [h_key, h_lookup]
    rcases w.manager? m with _ | manager <;> rfl
  · exact resolve_of_registered B w m false h_key

theorem register_of_registered (B : Backend σ) (w : World σ) (m : ManagerId)
    (h_key : h.registration ≠ none) :
    (w.register B m h).2 = w ∧
      (w.register B m h).1 = if (w.lookup m h).isSome then .ok h
        else .error (.error .notRegistered) := by
  rw [register, resolve_of_registered B w m true h_key]
  rcases w.lookup m h with _ | id
  · exact ⟨rfl, rfl⟩
  · exact ⟨rfl, rfl⟩

/-- The environment in which a handle is imported: its adoption has been reported. -/
def adopting (w : World σ) (h : Handle) : Env σ := w.env.note (.adopting h.descriptor.isSome)

/-- A handle that is registered nowhere is imported; if that fails, only the account of it is
    left. -/
theorem register_of_unregistered (B : Backend σ) (h_manager : w.manager? m = some manager)
    (h_key : h.registration = none) :
    (∃ f env, BufferObject.importFrom B m h (w.adopting h) = (.error f, env) ∧
        w.register B m h = (.error f, { w with env })) ∨
      ∃ env, BufferObject.importFrom B m h (w.adopting h) =
          (.ok { id := w.env.nextBuffer }, env) ∧
        w.register B m h =
          (.ok { h with registration := some w.nextKey },
            ((w.addObject { id := w.env.nextBuffer } env).claim m manager h
              w.env.nextBuffer).2) := by
  rcases h_call : BufferObject.importFrom B m h (w.adopting h) with ⟨f | made, env⟩
  · refine .inl ⟨f, env, rfl, ?_⟩
    rw [adopting] at h_call
    simp only [register, resolve, h_key, h_manager, h_call, Option.isSome_none,
      Bool.false_eq_true, if_false]
  · obtain ⟨rfl, -⟩ := BufferObject.importFrom_ok h_call
    refine .inr ⟨env, rfl, ?_⟩
    rw [adopting] at h_call
    simp only [register, resolve, h_key, h_manager, h_call, Option.isSome_none,
      Bool.false_eq_true, if_false]
    rfl

end GraphicsBuffer.World

namespace GraphicsBuffer.BufferObject

variable {σ : Type} {B : Backend σ} {device : DeviceId} {h : Handle} {env env' : Env σ}

/-- Without a descriptor, or with a format that has no layout or a folded image that has no size,
    nothing is imported, and the backend is asked nothing. -/
theorem importFrom_silent (B : Backend σ) (device : DeviceId) (env : Env σ)
    (h_lacks : h.descriptor = none ∨ ∃ e, storage h = .error e) :
    env.callsSince (importFrom B device h env).2 = [] ∧
      ∃ e, (importFrom B device h env).1 = .error (.error e) := by
  have h_still : env.callsSince env = [] := Env.callsSince_of_still rfl
  unfold importFrom
  rcases h_descriptor : h.descriptor with _ | descriptor
  · exact ⟨h_still, _, rfl⟩
  · obtain ⟨e, h_storage⟩ := h_lacks.resolve_left (by simp [h_descriptor])
    simp only [h_storage]
    exact ⟨h_still, e, rfl⟩

/-- Otherwise it is asked once, for what the handle describes, and what it answers decides. -/
theorem importFrom_once (B : Backend σ) (device : DeviceId) (env : Env σ) {descriptor : Descriptor}
    {layout : FourCC} {size : Extent} (h_descriptor : h.descriptor = some descriptor)
    (h_storage : storage h = .ok (layout, size)) :
    ∃ given, env.callsSince (importFrom B device h env).2 =
        [.imported device ⟨size, layout, some descriptor, h.stride, h.modifier⟩ given] ∧
      ((∃ id, given = .ok id) ↔ ∃ o, (importFrom B device h env).1 = .ok o) := by
  rcases h_import : (env.note (.importing size layout)).importBuffer B device
    ⟨size, layout, some descriptor, h.stride, h.modifier⟩ with ⟨given, env'⟩
  obtain ⟨-, h_trace, -⟩ := Env.importBuffer_spec h_import
  refine ⟨given, ?_⟩
  simp only [importFrom, h_descriptor, h_storage, h_import]
  -- the call is in the trace, whatever is reported after it
  rcases given with (e | a) | id
  · exact ⟨Env.callsSince_of_trace h_trace, by simp⟩
  · exact ⟨Env.callsSince_of_trace h_trace, by simp⟩
  · exact ⟨Env.callsSince_of_trace h_trace, by simp⟩

/-- An import that fails gives no number out. -/
theorem importFrom_error_nextBuffer {f : Failure}
    (h_call : importFrom B device h env = (.error f, env')) : env'.nextBuffer = env.nextBuffer := by
  have h_outcome := h_call ▸ importFrom_outcome B device h env
  -- only a call that succeeds gives a number out
  have h_kept : ∀ {env₁ env₂ : Env σ} {request : ImportRequest} {g : Failure},
      env₁.importBuffer B device request = (.error g, env₂) →
        env₂.nextBuffer = env₁.nextBuffer := by
    intro env₁ env₂ request g h_import
    obtain ⟨-, -, ⟨_, -, h_next, -⟩ | ⟨h_ok, -, -⟩⟩ := Env.importBuffer_spec h_import
    · exact h_next
    · exact nomatch h_ok
  cases h_outcome with
  | noDescriptor _ => rfl
  | noStorage _ _ => rfl
  | aborted _ _ h_import => exact (h_kept h_import :)
  | refused _ _ h_import => exact (h_kept h_import :)

end GraphicsBuffer.BufferObject
