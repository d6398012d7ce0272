/-
  GraphicsBuffer.Proofs.World.Names

  What every elementary change keeps of the names of buffers. Whatever a table or a reference
  names is live, and a live object is found under its own number, which is never given out again.
-/

import GraphicsBuffer.Proofs.BufferObject.Lock
import GraphicsBuffer.Proofs.World.Evolution

namespace GraphicsBuffer.World

variable {σ : Type} {B : Backend σ} {lockable : BufferObject → Prop} {w w' : World σ}

/-- Live objects are found under their own numbers, and all of them have been given out. -/
def Numbered (env : Env σ) (objects : Table BufferId BufferObject) : Prop :=
  ∀ id o, objects.find? id = some o → o.id = id ∧ id < env.nextBuffer

/-! ## Live names -/

theorem addObject_keeps (w : World σ) (o : BufferObject) (env : Env σ) {id : BufferId}
    (h_live : ∃ o, w.objects.find? id = some o) :
    ∃ o', (w.addObject o env).objects.find? id = some o' := by
  rw [addObject, Table.find?_insert]
  by_cases h_id : id = o.id
  · exact ⟨o, if_pos h_id⟩
  · rw [if_neg h_id]
    exact h_live

theorem NamesLive.addObject (h_names : NamesLive w) (o : BufferObject) (env : Env σ) :
    NamesLive (w.addObject o env) :=
  fun id h_named => addObject_keeps w o env (h_names id h_named)

theorem Change.namesLive (h_change : Change B lockable w w') (h_names : NamesLive w) :
    NamesLive w' := by
  cases h_change with
  | noted entry => exact h_names
  | unallocated h_call => exact h_names
  | allocated h_call => exact h_names.addObject _ _
  | unimported h_call => exact h_names
  | imported h_call => exact h_names.addObject _ _
  | @locked _ o h_live _ h request =>
    rcases h_lock : o.lock B h request w.env with ⟨f | o', env⟩
    · simp only [lockObject, h_lock]
      exact h_names
    · simp only [lockObject, h_lock]
      exact h_names.addObject o' env
  | unlocked h_live => exact h_names.addObject _ _
  | @destroyed id h_unnamed =>
    obtain ⟨h_registered, h_held⟩ := references_eq_zero_iff.mp h_unnamed
    rcases h_object : w.objects.find? id with _ | o
    · simp only [destroy, h_object]
      exact h_names
    · simp only [destroy, h_object]
      intro other h_named
      -- the object that goes is not the one that is named
      have h_other : other ≠ id := by
        rintro rfl
        exact h_named.elim h_registered h_held
      obtain ⟨o', h_live⟩ := h_names other h_named
      exact ⟨o', (Table.find?_erase_of_ne _ h_other).trans h_live⟩

/-- A table that is replaced by one with fewer buffers, or with live ones, keeps names live. -/
theorem NamesLive.setManager {m : ManagerId} {x : Option Manager} (h_names : NamesLive w)
    (h_manager : ∀ l, (w.setManager m x).manager? l = if l = m then x else w.manager? l)
    (h_values : ∀ manager, x = some manager → ∀ id ∈ manager.buffers.values,
      ∃ o, w.objects.find? id = some o) : NamesLive (w.setManager m x) := by
  rintro id (h_mem | h_mem)
  · obtain ⟨l, manager, h_l, h_mem⟩ := mem_registered.mp h_mem
    rw [h_manager] at h_l
    by_cases h_eq : l = m
    · rw [if_pos h_eq] at h_l
      exact h_values manager h_l id h_mem
    · rw [if_neg h_eq] at h_l
      exact h_names id (.inl (mem_registered.mpr ⟨l, manager, h_l, h_mem⟩))
  · exact h_names id (.inr h_mem)

theorem NamesLive.of_manager {m : ManagerId} {manager : Manager} (h_names : NamesLive w)
    (h_manager : w.manager? m = some manager) {id : BufferId}
    (h_mem : id ∈ manager.buffers.values) : ∃ o, w.objects.find? id = some o :=
  h_names id (.inl (mem_registered.mpr ⟨m, manager, h_manager, h_mem⟩))

theorem NamesLive.withdraw {m : ManagerId} {manager : Manager} (h_names : NamesLive w)
    (h_manager : w.manager? m = some manager) (key : Key) :
    NamesLive (w.setManager m (some { manager with buffers := manager.buffers.erase key })) := by
  refine h_names.setManager (manager?_setManager h_manager _) ?_
  rintro _ ⟨⟩ other h_mem
  exact h_names.of_manager h_manager (Table.values_erase_subset h_mem)

theorem NamesLive.close (h_names : NamesLive w) (m : ManagerId) :
    NamesLive (w.setManager m none) :=
  h_names.setManager (manager?_setManager_none w m) nofun

theorem Evolves.namesLive (h_evolves : Evolves B lockable w w') (h_names : NamesLive w) :
    NamesLive w' :=
  h_evolves.keeps Change.namesLive h_names

theorem Claims.namesLive {m : ManagerId} {id : BufferId} {h' : Handle}
    (h_claims : Claims B lockable w m id h' w') (h_names : NamesLive w) : NamesLive w' := by
  obtain ⟨h_evolves, h_manager, h_live, -⟩ := h_claims
  have h_names₁ := h_evolves.namesLive h_names
  rw [← h_evolves.manager?_eq] at h_manager
  refine NamesLive.setManager h_names₁ (manager?_setManager h_manager _) ?_
  rintro _ ⟨⟩ other h_mem
  -- the table names what it named before, and the buffer that it takes in
  rw [Table.values_insert, List.mem_append, List.mem_singleton] at h_mem
  rcases h_mem with h_mem | rfl
  · exact h_names₁.of_manager h_manager (Table.values_erase_subset h_mem)
  · exact h_live

theorem Retains.namesLive {id : BufferId} (h_retains : Retains B lockable w id w')
    (h_names : NamesLive w) : NamesLive w' := by
  obtain ⟨h_evolves, h_live⟩ := h_retains
  have h_names₁ := h_evolves.namesLive h_names
  -- the references gain one, and that is to a live buffer
  rintro other (h_mem | h_mem)
  · exact h_names₁ other (.inl h_mem)
  · rcases List.mem_cons.mp h_mem with rfl | h_mem
    · exact h_live
    · exact h_names₁ other (.inr h_mem)

theorem Claims.held_eq {m : ManagerId} {id : BufferId} {h' : Handle}
    (h_claims : Claims B lockable w m id h' w') : w'.held = w.held := by
  obtain ⟨h_evolves, -, -, -⟩ := h_claims
  exact h_evolves.held_eq

theorem Retains.held_eq {id : BufferId} (h_retains : Retains B lockable w id w') :
    w'.held = id :: w.held := by
  obtain ⟨h_evolves, -⟩ := h_retains
  exact congrArg (id :: ·) h_evolves.held_eq

theorem release_held (w : World σ) (id : BufferId) :
    (w.release B id).held = w.held.erase id := by
  have h_reap : Evolves B (fun _ => True) _ (w.release B id) := reap_evolves _ id
  exact h_reap.held_eq

theorem NamesLive.release (h_names : NamesLive w) (id : BufferId) :
    NamesLive (w.release B id) := by
  have h_reap : Evolves B (fun _ => True) _ (w.release B id) := reap_evolves _ id
  refine h_reap.namesLive ?_
  rintro other (h_mem | h_mem)
  · exact h_names other (.inl h_mem)
  · exact h_names other (.inr (List.mem_of_mem_erase h_mem))

/-! ## Numbers -/

section Numbered

variable {env env' : Env σ} {objects : Table BufferId BufferObject}

theorem Numbered.insert (h_numbered : Numbered env objects) {o : BufferObject}
    (h_env : env.nextBuffer ≤ env'.nextBuffer) (h_id : o.id < env'.nextBuffer) :
    Numbered env' (objects.insert o.id o) := by
  intro id o' h_find
  rcases Table.find?_insert_eq_some h_find with ⟨rfl, rfl⟩ | ⟨-, h_before⟩
  · exact ⟨rfl, h_id⟩
  · exact ⟨(h_numbered id o' h_before).1, Nat.lt_of_lt_of_le (h_numbered id o' h_before).2 h_env⟩

theorem Numbered.mono (h_numbered : Numbered env objects)
    (h_env : env.nextBuffer ≤ env'.nextBuffer) : Numbered env' objects :=
  fun id o h_find =>
    ⟨(h_numbered id o h_find).1, Nat.lt_of_lt_of_le (h_numbered id o h_find).2 h_env⟩

end Numbered

theorem destroy_nextBuffer (B : Backend σ) (o : BufferObject) (env : Env σ) :
    (o.destroy B env).nextBuffer = env.nextBuffer := by
  unfold BufferObject.destroy
  rcases o.mapping with _ | mapping <;> rfl

/-- Numbers of buffers are given out upwards. -/
theorem Change.nextBuffer_le (h_change : Change B lockable w w') :
    w.env.nextBuffer ≤ w'.env.nextBuffer := by
  cases h_change with
  | noted _ => exact Nat.le_refl _
  | unallocated h_call => exact BufferObject.allocate_nextBuffer_le h_call
  | allocated h_call => exact BufferObject.allocate_nextBuffer_le h_call
  | unimported h_call => exact BufferObject.importFrom_nextBuffer_le h_call
  | imported h_call => exact BufferObject.importFrom_nextBuffer_le h_call
  | @locked _ o _ _ h request =>
    have h_outcome := BufferObject.lock_outcome B o h request w.env
    unfold lockObject
    rcases h_lock : o.lock B h request w.env with ⟨f | o', env⟩ <;>
      exact Nat.le_of_eq (h_lock ▸ h_outcome).numbers.1.symm
  | @unlocked _ o _ =>
    exact Nat.le_of_eq (BufferObject.unlock_outcome B o w.env).numbers.1.symm
  | @destroyed id _ =>
    unfold destroy
    rcases w.objects.find? id with _ | o
    · exact Nat.le_refl _
    · exact Nat.le_of_eq (destroy_nextBuffer B o w.env).symm

theorem Change.numbered (h_change : Change B lockable w w')
    (h_numbered : Numbered w.env w.objects) :
    Numbered w'.env w'.objects := by
  cases h_change with
  | noted entry => exact h_numbered
  | unallocated h_call => exact h_numbered.mono (BufferObject.allocate_nextBuffer_le h_call)
  | allocated h_call =>
    obtain ⟨rfl, h_next, -⟩ := BufferObject.allocate_ok h_call
    exact h_numbered.insert (h_next ▸ Nat.le_succ _) (h_next ▸ Nat.lt_succ_self _)
  | unimported h_call => exact h_numbered.mono (BufferObject.importFrom_nextBuffer_le h_call)
  | imported h_call =>
    obtain ⟨rfl, h_next⟩ := BufferObject.importFrom_ok h_call
    exact h_numbered.insert (h_next ▸ Nat.le_succ _) (h_next ▸ Nat.lt_succ_self _)
  | @locked id o h_live _ h request =>
    obtain ⟨h_id, h_lt⟩ := h_numbered id o h_live
    rcases h_lock : o.lock B h request w.env with ⟨f | o', env⟩
    · obtain ⟨h_next, -⟩ := (h_lock ▸ BufferObject.lock_outcome B o h request w.env).numbers
      simp only [lockObject, h_lock]
      exact h_numbered.mono (Nat.le_of_eq h_next.symm)
    · obtain ⟨h_next, h_same⟩ := (h_lock ▸ BufferObject.lock_outcome B o h request w.env).numbers
      simp only [lockObject, h_lock]
      refine h_numbered.insert (Nat.le_of_eq h_next.symm) ?_
      show o'.id < env.nextBuffer
      rw [h_same o' rfl, h_id, h_next]
      exact h_lt
  | @unlocked id o h_live =>
    -- the object is put back under its own number, as after a lock
    obtain ⟨h_id, h_lt⟩ := h_numbered id o h_live
    rcases h_unlock : o.unlock B w.env with ⟨o', env⟩
    obtain ⟨h_next, h_same⟩ := (h_unlock ▸ BufferObject.unlock_outcome B o w.env).numbers
    simp only [unlockObject, h_unlock]
    refine h_numbered.insert (Nat.le_of_eq h_next.symm) ?_
    show o'.id < env.nextBuffer
    rw [h_same, h_id, h_next]
    exact h_lt
  | @destroyed id h_unnamed =>
    rcases h_object : w.objects.find? id with _ | o
    · simp only [destroy, h_object]
      exact h_numbered
    · simp only [destroy, h_object]
      intro other o' h_find
      rw [destroy_nextBuffer]
      exact h_numbered other o' (Table.find?_erase_eq_some h_find).2

end GraphicsBuffer.World
