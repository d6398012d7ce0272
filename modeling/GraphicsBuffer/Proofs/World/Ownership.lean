/-
  GraphicsBuffer.Proofs.World.Ownership

  Nothing is forgotten. Every live object is named by a table or by a reference that was handed
  out: an object that is made gets a name in the same operation, and an object that loses a name is
  looked at and freed if that was the last.
-/

import GraphicsBuffer.Proofs.World.Names
import GraphicsBuffer.Proofs.World.Operation

namespace GraphicsBuffer.World

variable {σ : Type} {B : Backend σ} {tolerated : Failure → Prop} {w w' : World σ}
  {m : ManagerId} {manager : Manager} {id : BufferId}

/-! ## Keys of entries -/

/-- The entries of tables have distinct keys, all of which have been given out. -/
structure Keyed (w : World σ) : Prop where
  distinct : ∀ {m manager}, w.manager? m = some manager → manager.buffers.Distinct
  used : ∀ {m manager key id}, w.manager? m = some manager →
    manager.buffers.find? key = some id → key < w.nextKey

namespace Keyed

theorem start (B : Backend σ) (devices : σ) (kinds : List ManagerKind) :
    Keyed (start B devices kinds) where
  distinct h_manager := by
    rw [start_buffers h_manager]
    exact Table.Distinct.empty
  used h_manager h_find := by
    rw [start_buffers h_manager] at h_find
    exact nomatch h_find

theorem evolves {lockable : BufferObject → Prop} (h : Keyed w)
    (h_evolves : Evolves B lockable w w') : Keyed w' where
  distinct h_manager := by
    rw [h_evolves.manager?_eq] at h_manager
    exact h.distinct h_manager
  used h_manager h_find := by
    rw [h_evolves.manager?_eq] at h_manager
    rw [h_evolves.nextKey_eq]
    exact h.used h_manager h_find

/-- The next key is that of no entry. -/
theorem next_free (h : Keyed w) (h_manager : w.manager? m = some manager) :
    manager.buffers.find? w.nextKey = none := by
  rw [Option.eq_none_iff_forall_ne_some]
  exact fun id h_find => Nat.lt_irrefl _ (h.used h_manager h_find)

/-- A buffer that a table names has an entry. -/
theorem exists_entry (h : Keyed w) (h_mem : id ∈ w.registered) :
    ∃ m manager key, w.manager? m = some manager ∧ manager.buffers.find? key = some id := by
  obtain ⟨m, manager, h_manager, h_value⟩ := mem_registered.mp h_mem
  obtain ⟨⟨key, _⟩, h_entry, rfl⟩ := List.mem_map.mp h_value
  exact ⟨m, manager, key, h_manager, (h.distinct h_manager).find?_of_mem_entries h_entry⟩

/-- A table may be replaced by one whose entries have distinct keys that have been given out. -/
theorem setManager {x : Option Manager} {next : Key} (h : Keyed w)
    (h_manager : ∀ l, (w.setManager m x).manager? l = if l = m then x else w.manager? l)
    (h_next : w.nextKey ≤ next)
    (h_x : ∀ manager, x = some manager → manager.buffers.Distinct ∧
      ∀ key id, manager.buffers.find? key = some id → key < next) :
    Keyed { w.setManager m x with nextKey := next } where
  distinct {l y} h_l := by
    rw [show manager? { w.setManager m x with nextKey := next } l = _ from h_manager l] at h_l
    by_cases h_eq : l = m
    · rw [if_pos h_eq] at h_l
      exact (h_x y h_l).1
    · rw [if_neg h_eq] at h_l
      exact h.distinct h_l
  used {l y key id} h_l h_find := by
    rw [show manager? { w.setManager m x with nextKey := next } l = _ from h_manager l] at h_l
    by_cases h_eq : l = m
    · rw [if_pos h_eq] at h_l
      exact (h_x y h_l).2 key id h_find
    · rw [if_neg h_eq] at h_l
      exact Nat.lt_of_lt_of_le (h.used h_l h_find) h_next

theorem claim (h : Keyed w) (h_manager : w.manager? m = some manager) (handle : Handle)
    (id : BufferId) : Keyed (w.claim m manager handle id).2 := by
  refine h.setManager (manager?_setManager h_manager _) (Nat.le_succ _) ?_
  rintro _ ⟨⟩
  refine ⟨(h.distinct h_manager).insert _ _, fun key id' h_find => ?_⟩
  rcases Table.find?_insert_eq_some h_find with ⟨rfl, -⟩ | ⟨-, h_find⟩
  · exact Nat.lt_succ_self _
  · exact Nat.lt_succ_of_lt (h.used h_manager h_find)

theorem withdraw (h : Keyed w) (h_manager : w.manager? m = some manager) (key : Key) :
    Keyed (w.setManager m (some { manager with buffers := manager.buffers.erase key })) := by
  refine h.setManager (manager?_setManager h_manager _) (Nat.le_refl _) ?_
  rintro _ ⟨⟩
  refine ⟨(h.distinct h_manager).erase key, fun key' id' h_find => ?_⟩
  exact h.used h_manager (Table.find?_erase_eq_some h_find).2

theorem close (h : Keyed w) (m : ManagerId) : Keyed (w.setManager m none) :=
  h.setManager (manager?_setManager_none w m) (Nat.le_refl _) nofun

end Keyed

/-! ## Names of objects -/

/-- When one table is replaced, what it named loses a name; all others keep theirs. -/
theorem registered_of_replaced {x : Option Manager}
    (h_managers : ∀ l, w'.manager? l = if l = m then x else w.manager? l)
    (h_mem : id ∈ w.registered) :
    (∃ manager, w.manager? m = some manager ∧ id ∈ manager.buffers.values) ∨
      id ∈ w'.registered := by
  obtain ⟨l, manager, h_manager, h_named⟩ := mem_registered.mp h_mem
  by_cases h_eq : l = m
  · subst h_eq
    exact .inl ⟨manager, h_manager, h_named⟩
  · have h_kept : w'.manager? l = some manager := by
      rw [h_managers l, if_neg h_eq]
      exact h_manager
    exact .inr (mem_registered.mpr ⟨l, manager, h_kept, h_named⟩)

/-- Every live object has a name, except those that are loose. -/
structure Owned (loose : List BufferId) (w : World σ) : Prop where
  keyed : Keyed w
  named : ∀ id o, w.objects.find? id = some o → id ∈ loose ∨ id ∈ w.registered ∨ id ∈ w.held

namespace Owned

variable {loose : List BufferId}

theorem start (B : Backend σ) (devices : σ) (kinds : List ManagerKind) :
    Owned [] (start B devices kinds) := ⟨.start B devices kinds, nofun⟩

theorem weaken (h : Owned loose w) (id : BufferId) : Owned (id :: loose) w :=
  ⟨h.keyed, fun l o h_live => (h.named l o h_live).imp_left (List.mem_cons_of_mem _)⟩

/-- Another environment, with the objects and names as they were. -/
theorem withEnv (h : Owned loose w) (env : Env σ) : Owned loose { w with env } :=
  ⟨⟨h.keyed.distinct, h.keyed.used⟩, h.named⟩

/-- An object that is added is loose. -/
theorem addObject (h : Owned loose w) (o : BufferObject) (env : Env σ) :
    Owned (o.id :: loose) (w.addObject o env) := by
  refine ⟨⟨h.keyed.distinct, h.keyed.used⟩, fun id o' h_find => ?_⟩
  rcases Table.find?_insert_eq_some h_find with ⟨rfl, -⟩ | ⟨-, h_before⟩
  · exact .inl List.mem_cons_self
  · exact (h.named id o' h_before).imp_left (List.mem_cons_of_mem _)

/-- An object that takes the place of one with its number is named as that was. -/
theorem replace (h : Owned loose w) {o : BufferObject} (h_live : ∃ o', w.objects.find? o.id = some o')
    (env : Env σ) : Owned loose (w.addObject o env) := by
  refine ⟨⟨h.keyed.distinct, h.keyed.used⟩, fun id o' h_find => ?_⟩
  rcases Table.find?_insert_eq_some h_find with ⟨rfl, -⟩ | ⟨-, h_before⟩
  · obtain ⟨o'', h_before⟩ := h_live
    exact h.named _ o'' h_before
  · exact h.named id o' h_before

/-- A loose object gets a name in a table. -/
theorem claim (h : Owned (id :: loose) w) (h_manager : w.manager? m = some manager)
    (handle : Handle) : Owned loose (w.claim m manager handle id).2 := by
  have h_managers : ∀ l, (w.claim m manager handle id).2.manager? l =
      if l = m then some { manager with buffers := manager.buffers.insert w.nextKey id }
      else w.manager? l := manager?_setManager h_manager _
  -- the entry takes the place of none
  have h_values : (manager.buffers.insert w.nextKey id).values = manager.buffers.values ++ [id] := by
    rw [Table.values_insert, Table.erase_of_find?_eq_none (h.keyed.next_free h_manager)]
  have h_table : ∀ l ∈ manager.buffers.values ++ [id],
      l ∈ (w.claim m manager handle id).2.registered := by
    intro l h_mem
    refine mem_registered.mpr ⟨m, _, (h_managers m).trans (if_pos rfl), ?_⟩
    rw [h_values]
    exact h_mem
  refine ⟨h.keyed.claim h_manager handle id, fun l o h_live => ?_⟩
  rcases h.named l o h_live with h_mem | h_mem | h_mem
  · rcases List.mem_cons.mp h_mem with rfl | h_mem
    · exact .inr (.inl (h_table l (List.mem_append_right _ (List.mem_singleton.mpr rfl))))
    · exact .inl h_mem
  · rcases registered_of_replaced h_managers h_mem with ⟨other, h_other, h_named⟩ | h_mem
    · cases h_other.symm.trans h_manager
      exact .inr (.inl (h_table l (List.mem_append_left _ h_named)))
    · exact .inr (.inl h_mem)
  · exact .inr (.inr h_mem)

/-- A loose object gets a name by a reference. -/
theorem retain (h : Owned (id :: loose) w) : Owned loose (w.retain id) := by
  refine ⟨⟨h.keyed.distinct, h.keyed.used⟩, fun l o h_live => ?_⟩
  rcases h.named l o h_live with h_mem | h_mem | h_mem
  · rcases List.mem_cons.mp h_mem with rfl | h_mem
    · exact .inr (.inr List.mem_cons_self)
    · exact .inl h_mem
  · exact .inr (.inl h_mem)
  · exact .inr (.inr (List.mem_cons_of_mem _ h_mem))

/-- An object whose entry is taken out of a table is loose. -/
theorem withdraw (h : Owned loose w) (h_manager : w.manager? m = some manager) {key : Key}
    (h_find : manager.buffers.find? key = some id) :
    Owned (id :: loose)
      (w.setManager m (some { manager with buffers := manager.buffers.erase key })) := by
  have h_managers := manager?_setManager h_manager
    (some { manager with buffers := manager.buffers.erase key })
  refine ⟨h.keyed.withdraw h_manager key, fun l o h_live => ?_⟩
  rcases h.named l o h_live with h_mem | h_mem | h_mem
  · exact .inl (List.mem_cons_of_mem _ h_mem)
  · rcases registered_of_replaced h_managers h_mem with ⟨other, h_other, h_named⟩ | h_mem
    · cases h_other.symm.trans h_manager
      -- the table loses one entry only
      have h_perm := (h.keyed.distinct h_manager).values_perm h_find
      rcases List.mem_cons.mp (h_perm.mem_iff.mp h_named) with rfl | h_rest
      · exact .inl List.mem_cons_self
      · have h_there := (h_managers m).trans (if_pos rfl)
        exact .inr (.inl (mem_registered.mpr ⟨m, _, h_there, h_rest⟩))
    · exact .inr (.inl h_mem)
  · exact .inr (.inr h_mem)

/-- The objects of a manager that ends are loose. -/
theorem close (h : Owned loose w) (h_manager : w.manager? m = some manager) :
    Owned (manager.buffers.values ++ loose) (w.setManager m none) := by
  refine ⟨h.keyed.close m, fun l o h_live => ?_⟩
  rcases h.named l o h_live with h_mem | h_mem | h_mem
  · exact .inl (List.mem_append_right _ h_mem)
  · rcases registered_of_replaced (manager?_setManager_none w m) h_mem with
      ⟨other, h_other, h_named⟩ | h_mem
    · cases h_other.symm.trans h_manager
      exact .inl (List.mem_append_left _ h_named)
    · exact .inr (.inl h_mem)
  · exact .inr (.inr h_mem)

/-- An object that a reference no longer names is loose. -/
theorem letGo (h : Owned loose w) (id : BufferId) :
    Owned (id :: loose) { w with held := w.held.erase id } := by
  refine ⟨⟨h.keyed.distinct, h.keyed.used⟩, fun l o h_live => ?_⟩
  rcases h.named l o h_live with h_mem | h_mem | h_mem
  · exact .inl (List.mem_cons_of_mem _ h_mem)
  · exact .inr (.inl h_mem)
  · by_cases h_eq : l = id
    · exact .inl (h_eq ▸ List.mem_cons_self)
    · exact .inr (.inr ((List.mem_erase_of_ne h_eq).mpr h_mem))

/-- A loose object that is looked at is freed, or it has a name after all. -/
theorem reap (h : Owned (id :: loose) w) : Owned loose (w.reap B id) := by
  have h_reap : Evolves B (fun _ => True) w (w.reap B id) := reap_evolves w id
  refine ⟨h.keyed.evolves h_reap, fun l o h_live => ?_⟩
  have h_registered : (w.reap B id).registered = w.registered := by
    rw [registered, h_reap.managers_eq, registered]
  rw [h_registered, h_reap.held_eq]
  unfold World.reap at h_live
  by_cases h_unnamed : w.references id = 0
  · rw [if_pos h_unnamed] at h_live
    unfold destroy at h_live
    rcases h_object : w.objects.find? id with _ | o'
    · simp only [h_object] at h_live
      rcases h.named l o h_live with h_mem | h_named
      · rcases List.mem_cons.mp h_mem with rfl | h_mem
        · rw [h_object] at h_live
          cases h_live
        · exact .inl h_mem
      · exact .inr h_named
    · simp only [h_object] at h_live
      obtain ⟨h_ne, h_before⟩ := Table.find?_erase_eq_some h_live
      rcases h.named l o h_before with h_mem | h_named
      · exact .inl ((List.mem_cons.mp h_mem).resolve_left h_ne)
      · exact .inr h_named
  · rw [if_neg h_unnamed] at h_live
    rcases h.named l o h_live with h_mem | h_named
    · rcases List.mem_cons.mp h_mem with rfl | h_mem
      · -- something names it, or the references to it would be none
        rw [references_eq_zero_iff, not_and_or, not_not, not_not] at h_unnamed
        exact .inr h_unnamed
      · exact .inl h_mem
    · exact .inr h_named

theorem reaps {ids : List BufferId} (h : Owned (ids ++ loose) w) :
    Owned loose (ids.foldl (fun w id => w.reap B id) w) := by
  induction ids generalizing w with
  | nil => exact h
  | cons id rest ih => exact ih h.reap

end Owned

/-! ## Operations -/

theorem Operation.numbered (h_operation : Operation B tolerated w w')
    (h : Numbered w.env w.objects) : Numbered w'.env w'.objects := by
  refine h_operation.keeps Change.numbered (fun handle request h_live _ h_before => ?_) h
  have h_locked : Change B (fun _ => True) _ _ := .locked h_live True.intro handle request
  exact h_locked.numbered h_before

/-- After every operation all live objects are named, if they were before. -/
theorem Operation.owned (h_operation : Operation B tolerated w w')
    (h_numbered : Numbered w.env w.objects) (h : Owned [] w) : Owned [] w' := by
  cases h_operation with
  | created m size format usage =>
    unfold create
    rcases h_manager : w.manager? m with _ | manager
    · exact h
    rcases h_call : BufferObject.allocate B m (Handle.new size format usage) w.env with
      ⟨f | ⟨o, h'⟩, env⟩
    · exact h.withEnv env
    · -- the object is added and registered at once
      exact (h.addObject o env).claim h_manager h'
  | resolved m useDevice handle =>
    unfold resolve
    rcases h_owned : handle.registration.isSome with _ | _
    · rcases h_manager : w.manager? m with _ | manager
      · exact h
      rcases useDevice with _ | _
      · exact h
      simp only [Bool.false_eq_true, if_false]
      rcases h_call : BufferObject.importFrom B m handle
        (w.env.note (.adopting handle.descriptor.isSome)) with ⟨f | o, env⟩
      · exact h.withEnv env
      · exact (h.addObject o env).claim h_manager handle
    · exact h
  | unregistered m handle =>
    unfold unregister
    split
    next key manager id h_key h_manager h_lookup =>
      rcases h_object : w.objects.find? id with _ | o
      · exact h
      by_cases h_count : o.lockCount = 0
      · simp only [if_pos h_count]
        obtain ⟨key', manager', h_key', h_manager', h_find⟩ := lookup_eq_some_iff.mp h_lookup
        cases h_key.symm.trans h_key'
        cases h_manager.symm.trans h_manager'
        exact (h.withdraw h_manager h_find).reap
      · simp only [if_neg h_count]
        exact h
    next => exact h
  | @locked id o h_live handle request _ =>
    have h_outcome := BufferObject.lock_outcome B o handle request w.env
    rcases h_lock : o.lock B handle request w.env with ⟨f | o', env⟩
    · simp only [lockObject, h_lock]
      exact h.withEnv env
    · simp only [lockObject, h_lock]
      rw [h_lock] at h_outcome
      have h_id : o'.id = id := (h_outcome.numbers.2 o' rfl).trans (h_numbered id o h_live).1
      exact h.replace ⟨o, h_id ▸ h_live⟩ env
  | @unlocked id o h_live =>
    have h_outcome := BufferObject.unlock_outcome B o w.env
    rcases h_unlock : o.unlock B w.env with ⟨o', env⟩
    simp only [unlockObject, h_unlock]
    rw [h_unlock] at h_outcome
    have h_id : o'.id = id := h_outcome.numbers.2.trans (h_numbered id o h_live).1
    exact h.replace ⟨o, h_id ▸ h_live⟩ env
  | held m handle =>
    unfold hold
    rcases w.lookup m handle with _ | id
    · exact h
    · exact (h.weaken id).retain
  | allocated m handle =>
    unfold allocate
    rcases h_call : BufferObject.allocate B m handle w.env with ⟨f | ⟨o, h'⟩, env⟩
    · exact h.withEnv env
    · exact (h.addObject o env).retain
  | imported m handle =>
    unfold importFrom
    rcases h_call : BufferObject.importFrom B m handle w.env with ⟨f | o, env⟩
    · exact h.withEnv env
    · exact (h.addObject o env).retain
  | @inserted m handle id h_live =>
    unfold insert
    rcases h_manager : w.manager? m with _ | manager
    · exact h
    · exact (h.weaken id).claim h_manager handle
  | released id => exact (h.letGo id).reap
  | closed m =>
    unfold dropManager
    rcases h_manager : w.manager? m with _ | manager
    · exact h
    · exact (h.close h_manager).reaps

end GraphicsBuffer.World
