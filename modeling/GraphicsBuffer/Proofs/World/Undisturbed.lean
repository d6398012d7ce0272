/-
  GraphicsBuffer.Proofs.World.Undisturbed

  Operations that are neither locks nor unlocks leave the lock state of all buffers alone. After
  them every live object is one that was there before, just as it was, or a new one.
-/

import GraphicsBuffer.Proofs.BufferObject.Count
import GraphicsBuffer.Proofs.World.Names

namespace GraphicsBuffer.World

variable {σ : Type} {B : Backend σ} {w w' w'' : World σ}

/-- Nothing was locked or unlocked: an object that is there was there before, or is new. -/
structure Undisturbed (w w' : World σ) : Prop where
  numbers : w.env.nextBuffer ≤ w'.env.nextBuffer
  objects : ∀ {id o}, w'.objects.find? id = some o →
    w.objects.find? id = some o ∨ (w.env.nextBuffer ≤ id ∧ o = { id })

namespace Undisturbed

theorem refl (w : World σ) : Undisturbed w w := ⟨Nat.le_refl _, .inl⟩

theorem trans (h : Undisturbed w w') (h' : Undisturbed w' w'') : Undisturbed w w'' where
  numbers := Nat.le_trans h.numbers h'.numbers
  objects h_find := by
    rcases h'.objects h_find with h_before | ⟨h_next, h_new⟩
    · exact h.objects h_before
    · exact .inr ⟨Nat.le_trans h.numbers h_next, h_new⟩

/-- The objects are the same, and numbers may have been used up. -/
theorem of_objects (h_numbers : w.env.nextBuffer ≤ w'.env.nextBuffer)
    (h_objects : w'.objects = w.objects) : Undisturbed w w' :=
  ⟨h_numbers, fun h_find => .inl (h_objects ▸ h_find)⟩

/-- A new object is added. -/
theorem addObject {env : Env σ} (h_numbers : env.nextBuffer = w.env.nextBuffer + 1) :
    Undisturbed w (w.addObject { id := w.env.nextBuffer } env) where
  numbers := h_numbers ▸ Nat.le_succ _
  objects h_find := by
    rcases Table.find?_insert_eq_some h_find with ⟨rfl, rfl⟩ | ⟨-, h_before⟩
    · exact .inr ⟨Nat.le_refl _, rfl⟩
    · exact .inl h_before

/-- Tables and references are no part of the objects. -/
theorem of_eq {w₁ : World σ} (h : Undisturbed w w₁) (h_env : w'.env = w₁.env)
    (h_objects : w'.objects = w₁.objects) : Undisturbed w w' :=
  h.trans (of_objects (Nat.le_of_eq (congrArg Env.nextBuffer h_env.symm)) h_objects)

/-! ## Lifetime of objects -/

variable (B w)

theorem destroy (id : BufferId) : Undisturbed w (w.destroy B id) := by
  unfold World.destroy
  rcases w.objects.find? id with _ | o
  · exact refl w
  · -- one object goes, and all others stay as they were
    refine ⟨Nat.le_of_eq (destroy_nextBuffer B o w.env).symm, fun h_find => ?_⟩
    exact .inl (Table.find?_erase_eq_some h_find).2

theorem reap (id : BufferId) : Undisturbed w (w.reap B id) := by
  unfold World.reap
  split
  · exact destroy B w id
  · exact refl w

theorem reaps (ids : List BufferId) :
    Undisturbed w (ids.foldl (fun w id => w.reap B id) w) := by
  -- on the buffers that are left; each is looked at in the world that the last one left
  induction ids generalizing w with
  | nil => exact refl w
  | cons id rest ih => exact (reap B w id).trans (ih (w.reap B id))

theorem release (id : BufferId) : Undisturbed w (w.release B id) := by
  -- the reference that goes is no part of the objects
  have h_reap : Undisturbed { w with held := w.held.erase id } (w.release B id) := reap B _ id
  exact ⟨h_reap.numbers, h_reap.objects⟩

theorem dropManager (m : ManagerId) : Undisturbed w (w.dropManager B m) := by
  unfold World.dropManager
  rcases w.manager? m with _ | manager
  · exact refl w
  · have h_reaps := reaps B (w.setManager m none) manager.buffers.values
    exact ⟨h_reaps.numbers, h_reaps.objects⟩

/-! ## Operations -/

variable (m : ManagerId) (h : Handle)

theorem create (size : Extent) (format : PixelFormat) (usage : Usage) :
    Undisturbed w (w.create B m size format usage).2 := by
  unfold World.create
  rcases w.manager? m with _ | manager
  · exact refl w
  rcases h_call : BufferObject.allocate B m (Handle.new size format usage) w.env with
    ⟨f | ⟨o, h'⟩, env⟩
  · exact of_objects (BufferObject.allocate_nextBuffer_le h_call) rfl
  · obtain ⟨rfl, h_next, -⟩ := BufferObject.allocate_ok h_call
    exact (addObject h_next).of_eq rfl rfl

theorem resolve (useDevice : Bool) : Undisturbed w (w.resolve B m useDevice h).2 := by
  unfold World.resolve
  split
  · exact refl w
  rcases w.manager? m with _ | manager
  · exact refl w
  rcases useDevice with _ | _
  · exact refl w
  rcases h_call : BufferObject.importFrom B m h (w.env.note (.adopting h.descriptor.isSome)) with
    ⟨f | o, env⟩
  · simp only [h_call]
    exact of_objects (BufferObject.importFrom_nextBuffer_le h_call :) rfl
  · obtain ⟨rfl, h_next⟩ := BufferObject.importFrom_ok h_call
    simp only [h_call]
    exact (addObject (h_next :)).of_eq rfl rfl

theorem register : Undisturbed w (w.register B m h).2 := by
  have h_resolve := resolve B w m h true
  unfold World.register
  generalize w.resolve B m true h = answered at h_resolve ⊢
  rcases answered with ⟨f | ⟨_ | id, h'⟩, w'⟩ <;> exact h_resolve

theorem unregister : Undisturbed w (w.unregister B m h).2 := by
  unfold World.unregister
  split
  next key manager id _ _ _ =>
    rcases w.objects.find? id with _ | o
    · exact refl w
    simp only
    split
    · have h_reap := reap B
        (w.setManager m (some { manager with buffers := manager.buffers.erase key })) id
      exact ⟨h_reap.numbers, h_reap.objects⟩
    · exact refl w
  next => exact refl w

theorem hold : Undisturbed w (w.hold m h).2 := by
  unfold World.hold
  rcases w.lookup m h with _ | id
  · exact refl w
  · exact of_objects (Nat.le_refl _) rfl

theorem allocate : Undisturbed w (w.allocate B m h).2 := by
  unfold World.allocate
  rcases h_call : BufferObject.allocate B m h w.env with ⟨f | ⟨o, h'⟩, env⟩
  · exact of_objects (BufferObject.allocate_nextBuffer_le h_call) rfl
  · obtain ⟨rfl, h_next, -⟩ := BufferObject.allocate_ok h_call
    exact (addObject h_next).of_eq rfl rfl

theorem importFrom : Undisturbed w (w.importFrom B m h).2 := by
  unfold World.importFrom
  rcases h_call : BufferObject.importFrom B m h w.env with ⟨f | o, env⟩
  · exact of_objects (BufferObject.importFrom_nextBuffer_le h_call) rfl
  · obtain ⟨rfl, h_next⟩ := BufferObject.importFrom_ok h_call
    exact (addObject h_next).of_eq rfl rfl

theorem insert (id : BufferId) : Undisturbed w (w.insert m h id).2 := by
  unfold World.insert
  rcases w.manager? m with _ | manager
  · exact refl w
  · exact of_objects (Nat.le_refl _) rfl

end Undisturbed

/-! ## Locks -/

/-- A lock of a live object that fails leaves the objects alone; one that is granted adds one to the
    count of its object only. -/
theorem lockObject_effect (B : Backend σ) {id : BufferId} {o : BufferObject}
    (h_numbered : Numbered w.env w.objects) (h_live : w.objects.find? id = some o) (h : Handle)
    (request : LockRequest) {answer : Outcome (Option Address)}
    (h_lock : w.lockObject B o h request = (answer, w')) :
    w'.env.nextBuffer = w.env.nextBuffer ∧
      ((∃ f, answer = .error f ∧ w'.objects = w.objects) ∨
        ∃ address o', answer = .ok address ∧ o'.lockCount = o.lockCount + 1 ∧
          w'.objects.find? = Function.update w.objects.find? id (some o')) := by
  have h_outcome := BufferObject.lock_outcome B o h request w.env
  unfold lockObject at h_lock
  rcases h_call : o.lock B h request w.env with ⟨f | o', env⟩
  · rw [h_call] at h_lock h_outcome
    obtain ⟨rfl, rfl⟩ := Prod.mk.inj h_lock
    exact ⟨(h_outcome.numbers.1 :), .inl ⟨f, rfl, rfl⟩⟩
  · rw [h_call] at h_lock h_outcome
    obtain ⟨rfl, rfl⟩ := Prod.mk.inj h_lock
    -- the object is put back under the number at which it was found
    have h_id : o'.id = id := (h_outcome.numbers.2 o' rfl).trans (h_numbered id o h_live).1
    refine ⟨(h_outcome.numbers.1 :), .inr ⟨o'.address?, o', rfl, h_outcome.lockCount_eq, ?_⟩⟩
    rw [← h_id]
    exact Table.find?_insert_eq_update _ _ _

/-- An unlock that finds no lock does nothing. -/
theorem unlockObject_idle (B : Backend σ) {id : BufferId} {o : BufferObject}
    (h_numbered : Numbered w.env w.objects) (h_live : w.objects.find? id = some o)
    (h_count : o.lockCount = 0) : Undisturbed w (w.unlockObject B o) := by
  simp only [unlockObject, BufferObject.unlock_of_idle B h_count]
  refine ⟨Nat.le_refl _, fun {id' o'} h_find => .inl ?_⟩
  -- what is put back is what was there
  rcases Table.find?_insert_eq_some h_find with ⟨rfl, rfl⟩ | ⟨-, h_before⟩
  · rw [(h_numbered id o' h_live).1]
    exact h_live
  · exact h_before

/-- An unlock that finds a lock takes one off the count of its object only. -/
theorem unlockObject_effect (B : Backend σ) {id : BufferId} {o : BufferObject}
    (h_numbered : Numbered w.env w.objects) (h_live : w.objects.find? id = some o)
    (h_count : o.lockCount ≠ 0) :
    (w.unlockObject B o).env.nextBuffer = w.env.nextBuffer ∧
      ∃ o', o'.lockCount = o.lockCount - 1 ∧
        (w.unlockObject B o).objects.find? = Function.update w.objects.find? id (some o') := by
  have h_outcome := BufferObject.unlock_outcome B o w.env
  rcases h_call : o.unlock B w.env with ⟨o', env⟩
  rw [h_call] at h_outcome
  have h_id : o'.id = id := h_outcome.numbers.2.trans (h_numbered id o h_live).1
  simp only [unlockObject, h_call]
  refine ⟨(h_outcome.numbers.1 :), o', h_outcome.lockCount_eq h_count, ?_⟩
  rw [← h_id]
  exact Table.find?_insert_eq_update _ _ _

end GraphicsBuffer.World
