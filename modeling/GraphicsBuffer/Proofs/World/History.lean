/-
  GraphicsBuffer.Proofs.World.History

  Managers never look at the account of what was done. With more in its past, a world answers the
  same and changes the same.
-/

import GraphicsBuffer.World
import GraphicsBuffer.Proofs.Backend.History

namespace GraphicsBuffer.World

variable {σ : Type} (B : Backend σ) (w : World σ) (past : History)

/-- The world with more in its past. -/
def under : World σ := { w with env := w.env.under past }

/-- The world with nothing in its past. -/
def forget : World σ := { w with env := w.env.forget }

@[simp] theorem under_env : (w.under past).env = w.env.under past := rfl

@[simp] theorem under_objects : (w.under past).objects = w.objects := rfl

@[simp] theorem under_managers : (w.under past).managers = w.managers := rfl

@[simp] theorem under_held : (w.under past).held = w.held := rfl

@[simp] theorem under_nextKey : (w.under past).nextKey = w.nextKey := rfl

@[simp] theorem under_forget : (w.under past).forget = w.forget := rfl

theorem forget_under_history : w.forget.under w.env.history = w := by
  rw [under, forget, Env.forget_under_history]

/-! ## Lookups -/

@[simp] theorem manager?_under (m : ManagerId) : (w.under past).manager? m = w.manager? m := rfl

@[simp] theorem lookup_under (m : ManagerId) (h : Handle) :
    (w.under past).lookup m h = w.lookup m h := rfl

@[simp] theorem object?_under (m : ManagerId) (h : Handle) :
    (w.under past).object? m h = w.object? m h := rfl

@[simp] theorem references_under (id : BufferId) :
    (w.under past).references id = w.references id := rfl

/-! ## Tables and references -/

@[simp] theorem setManager_under (m : ManagerId) (manager : Option Manager) :
    (w.under past).setManager m manager = (w.setManager m manager).under past := rfl

@[simp] theorem retain_under (id : BufferId) :
    (w.under past).retain id = (w.retain id).under past := rfl

@[simp] theorem claim_under (m : ManagerId) (manager : Manager) (h : Handle) (id : BufferId) :
    (w.under past).claim m manager h id =
      ((w.claim m manager h id).1, (w.claim m manager h id).2.under past) := rfl

@[simp] theorem addObject_under (o : BufferObject) (env : Env σ) :
    (w.under past).addObject o (env.under past) = (w.addObject o env).under past := rfl

@[simp] theorem destroy_under (id : BufferId) :
    (w.under past).destroy B id = (w.destroy B id).under past := by
  simp only [destroy, under_objects, under_env]
  rcases w.objects.find? id with _ | o
  · rfl
  · simp only [BufferObject.destroy_under]
    rfl

@[simp] theorem reap_under (id : BufferId) :
    (w.under past).reap B id = (w.reap B id).under past := by
  simp only [reap, references_under, destroy_under]
  split <;> rfl

@[simp] theorem release_under (id : BufferId) :
    (w.under past).release B id = (w.release B id).under past :=
  reap_under B { w with held := w.held.erase id } past id

@[simp] theorem dropManager_under (m : ManagerId) :
    (w.under past).dropManager B m = (w.dropManager B m).under past := by
  simp only [dropManager, manager?_under, setManager_under]
  rcases w.manager? m with _ | manager
  · rfl
  · exact List.foldl_hom (fun w => w.under past) fun w id => reap_under B w past id

/-! ## Operations -/

@[simp] theorem create_under (m : ManagerId) (size : Extent) (format : PixelFormat)
    (usage : Usage) :
    (w.under past).create B m size format usage =
      ((w.create B m size format usage).1, (w.create B m size format usage).2.under past) := by
  simp only [create, manager?_under, under_env, BufferObject.allocate_under]
  rcases w.manager? m with _ | manager
  · rfl
  rcases BufferObject.allocate B m (Handle.new size format usage) w.env with ⟨f | ⟨o, h⟩, env⟩ <;>
    rfl

@[simp] theorem resolve_under (m : ManagerId) (useDevice : Bool) (h : Handle) :
    (w.under past).resolve B m useDevice h =
      ((w.resolve B m useDevice h).1, (w.resolve B m useDevice h).2.under past) := by
  simp only [resolve, manager?_under, lookup_under, under_env, Env.note_under,
    BufferObject.importFrom_under]
  split
  · rfl
  rcases w.manager? m with _ | manager
  · rfl
  rcases useDevice with _ | _
  · rfl
  rcases BufferObject.importFrom B m h (w.env.note (.adopting h.descriptor.isSome)) with
    ⟨f | o, env⟩ <;> rfl

@[simp] theorem register_under (m : ManagerId) (h : Handle) :
    (w.under past).register B m h =
      ((w.register B m h).1, (w.register B m h).2.under past) := by
  simp only [register, resolve_under]
  rcases w.resolve B m true h with ⟨f | ⟨_ | id, h'⟩, w'⟩ <;> rfl

@[simp] theorem unregister_under (m : ManagerId) (h : Handle) :
    (w.under past).unregister B m h =
      ((w.unregister B m h).1, (w.unregister B m h).2.under past) := by
  simp only [unregister, manager?_under, lookup_under, under_objects]
  rcases h.registration with _ | key
  · rfl
  rcases w.manager? m with _ | manager
  · rfl
  rcases w.lookup m h with _ | id
  · rfl
  simp only
  rcases w.objects.find? id with _ | o
  · rfl
  simp only [setManager_under, reap_under]
  split <;> rfl

@[simp] theorem lockObject_under (o : BufferObject) (h : Handle) (request : LockRequest) :
    (w.under past).lockObject B o h request =
      ((w.lockObject B o h request).1, (w.lockObject B o h request).2.under past) := by
  simp only [lockObject, under_env, BufferObject.lock_under]
  rcases o.lock B h request w.env with ⟨f | o', env⟩ <;> rfl

@[simp] theorem unlockObject_under (o : BufferObject) :
    (w.under past).unlockObject B o = (w.unlockObject B o).under past := by
  simp only [unlockObject, under_env, BufferObject.unlock_under, addObject_under]

@[simp] theorem lock_under (m : ManagerId) (h : Handle) (request : LockRequest) :
    (w.under past).lock B m h request =
      ((w.lock B m h request).1, (w.lock B m h request).2.under past) := by
  simp only [lock, object?_under]
  rcases w.object? m h with _ | o
  · rfl
  · exact lockObject_under B w past o h request

@[simp] theorem unlock_under (m : ManagerId) (h : Handle) :
    (w.under past).unlock B m h = ((w.unlock B m h).1, (w.unlock B m h).2.under past) := by
  simp only [unlock, object?_under]
  rcases w.object? m h with _ | o
  · rfl
  · simp only [unlockObject_under]

@[simp] theorem hold_under (m : ManagerId) (h : Handle) :
    (w.under past).hold m h = ((w.hold m h).1, (w.hold m h).2.under past) := by
  simp only [hold, lookup_under]
  rcases w.lookup m h with _ | id <;> rfl

@[simp] theorem allocate_under (m : ManagerId) (h : Handle) :
    (w.under past).allocate B m h =
      ((w.allocate B m h).1, (w.allocate B m h).2.under past) := by
  simp only [allocate, under_env, BufferObject.allocate_under]
  rcases BufferObject.allocate B m h w.env with ⟨f | ⟨o, h'⟩, env⟩ <;> rfl

@[simp] theorem importFrom_under (m : ManagerId) (h : Handle) :
    (w.under past).importFrom B m h =
      ((w.importFrom B m h).1, (w.importFrom B m h).2.under past) := by
  simp only [importFrom, under_env, BufferObject.importFrom_under]
  rcases BufferObject.importFrom B m h w.env with ⟨f | o, env⟩ <;> rfl

@[simp] theorem insert_under (m : ManagerId) (h : Handle) (id : BufferId) :
    (w.under past).insert m h id = ((w.insert m h id).1, (w.insert m h id).2.under past) := by
  simp only [insert, manager?_under]
  rcases w.manager? m with _ | manager <;> rfl

end GraphicsBuffer.World
