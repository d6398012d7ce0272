/-
  GraphicsBuffer.Proofs.World.Evolution

  What the operations of a world do: elementary changes of its objects, and at most one entry that
  a table gains or loses.
-/

import GraphicsBuffer.Proofs.World.Change

namespace GraphicsBuffer.World

variable {σ : Type} {B : Backend σ} {lockable : BufferObject → Prop} {w w' : World σ}
  {m : ManagerId} {h : Handle}

open Relation.ReflTransGen (refl single)

/-! ## Looking handles up -/

theorem lookup_eq_some_iff {id : BufferId} :
    w.lookup m h = some id ↔ ∃ key manager, h.registration = some key ∧
      w.manager? m = some manager ∧ manager.buffers.find? key = some id := by
  simp only [lookup, Option.bind_eq_bind, Option.bind_eq_some_iff]
  constructor
  · rintro ⟨key, h_key, manager, h_manager, h_find⟩
    exact ⟨key, manager, h_key, h_manager, h_find⟩
  · rintro ⟨key, manager, h_key, h_manager, h_find⟩
    exact ⟨key, h_key, manager, h_manager, h_find⟩

theorem object?_eq_some_iff {o : BufferObject} :
    w.object? m h = some o ↔ ∃ id, w.lookup m h = some id ∧ w.objects.find? id = some o := by
  simp only [object?, Option.bind_eq_bind, Option.bind_eq_some_iff]

theorem registered_of_lookup {id : BufferId} (h_lookup : w.lookup m h = some id) :
    id ∈ w.registered := by
  obtain ⟨key, manager, -, h_manager, h_find⟩ := lookup_eq_some_iff.mp h_lookup
  exact mem_registered.mpr ⟨m, manager, h_manager, Table.mem_values_of_find? h_find⟩

theorem addObject_live (w : World σ) (o : BufferObject) (env : Env σ) :
    ∃ o', (w.addObject o env).objects.find? o.id = some o' := ⟨o, Table.find?_insert_self _ _ _⟩

/-! ## Lifetime of objects -/

theorem reap_evolves (w : World σ) (id : BufferId) : Evolves B lockable w (w.reap B id) := by
  unfold reap
  by_cases h_unnamed : w.references id = 0
  · rw [if_pos h_unnamed]
    exact single (.destroyed h_unnamed)
  · rw [if_neg h_unnamed]

theorem reaps_evolve (w : World σ) (ids : List BufferId) :
    Evolves B lockable w (ids.foldl (fun w id => w.reap B id) w) := by
  -- on the buffers that are left; each is looked at in the world that the last one left
  induction ids generalizing w with
  | nil => exact refl
  | cons id rest ih => exact (reap_evolves w id).trans (ih (w.reap B id))

variable (B lockable) in
/-- A manager that ends leaves a world without it, whose objects are then reaped. -/
theorem dropManager_evolves (w : World σ) (m : ManagerId) :
    w.dropManager B m = w ∨ Evolves B lockable (w.setManager m none) (w.dropManager B m) := by
  unfold dropManager
  rcases w.manager? m with _ | manager
  · exact .inl rfl
  · exact .inr (reaps_evolve _ _)

/-! ## Registration -/

/-- A table takes in a live buffer, after elementary changes, and a handle gets the key. -/
inductive Claims (B : Backend σ) (lockable : BufferObject → Prop) (w : World σ) (m : ManagerId)
    (id : BufferId) : Handle → World σ → Prop where
  | intro {w₁ : World σ} {manager : Manager} {h h' : Handle} (h_evolves : Evolves B lockable w w₁)
      (h_manager : w.manager? m = some manager) (h_live : ∃ o, w₁.objects.find? id = some o)
      (h_key : h'.registration = some w.nextKey) :
    Claims B lockable w m id h' (w₁.claim m manager h id).2

theorem Claims.registry {id : BufferId} {h' : Handle} (h_claims : Claims B lockable w m id h' w') :
    ∃ manager, w.manager? m = some manager ∧ h'.registration = some w.nextKey ∧
      w'.nextKey = w.nextKey + 1 ∧ ∀ l, w'.manager? l =
        if l = m then some { manager with buffers := manager.buffers.insert w.nextKey id }
        else w.manager? l := by
  obtain ⟨h_evolves, h_manager, -, h_key⟩ := h_claims
  have h_manager₁ := h_manager
  rw [← h_evolves.manager?_eq] at h_manager₁
  refine ⟨_, h_manager, h_key, congrArg (· + 1) h_evolves.nextKey_eq, fun l => ?_⟩
  rw [← h_evolves.nextKey_eq, ← h_evolves.manager?_eq]
  exact manager?_setManager h_manager₁ _ l

variable (lockable) in
/-- A handle that is created stands for the next buffer. -/
theorem create_outcome {size : Extent} {format : PixelFormat} {usage : Usage}
    {answer : Outcome Handle} (h_create : w.create B m size format usage = (answer, w')) :
    (∃ f, answer = .error f ∧ Evolves B lockable w w') ∨
      ∃ h', answer = .ok h' ∧ Claims B lockable w m w.env.nextBuffer h' w' := by
  unfold create at h_create
  rcases h_manager : w.manager? m with _ | manager
  · simp only [h_manager] at h_create
    obtain ⟨rfl, rfl⟩ := Prod.mk.inj h_create
    exact .inl ⟨_, rfl, refl⟩
  rcases h_call : BufferObject.allocate B m (Handle.new size format usage) w.env with
    ⟨f | ⟨o, h'⟩, env⟩
  · simp only [h_manager, h_call] at h_create
    obtain ⟨rfl, rfl⟩ := Prod.mk.inj h_create
    exact .inl ⟨f, rfl, single (.unallocated h_call)⟩
  · simp only [h_manager, h_call] at h_create
    obtain ⟨rfl, rfl⟩ := Prod.mk.inj h_create
    obtain ⟨rfl, -, -⟩ := BufferObject.allocate_ok h_call
    exact .inr ⟨_, rfl, .intro (single (.allocated h_call)) h_manager (addObject_live w _ env) rfl⟩

variable (lockable) in
/-- A handle that is resolved is registered already, or stays unregistered, or is made to stand for
    the next buffer. -/
theorem resolve_outcome {useDevice : Bool} {answer : Outcome (Option BufferId × Handle)}
    (h_resolve : w.resolve B m useDevice h = (answer, w')) :
    (∃ f, answer = .error f ∧ Evolves B lockable w w') ∨
      (∃ found, answer = .ok (found, h) ∧ w' = w ∧ (h.registration = none → found = none)) ∨
      ∃ h', h.registration = none ∧ answer = .ok (some w.env.nextBuffer, h') ∧
        Claims B lockable w m w.env.nextBuffer h' w' := by
  unfold resolve at h_resolve
  rcases h_owned : h.registration with _ | key
  · simp only [h_owned, Option.isSome_none, Bool.false_eq_true, if_false] at h_resolve
    rcases h_manager : w.manager? m with _ | manager
    · simp only [h_manager] at h_resolve
      obtain ⟨rfl, rfl⟩ := Prod.mk.inj h_resolve
      exact .inr (.inl ⟨none, rfl, rfl, fun _ => rfl⟩)
    rcases useDevice with _ | _
    · simp only [h_manager] at h_resolve
      obtain ⟨rfl, rfl⟩ := Prod.mk.inj h_resolve
      exact .inr (.inl ⟨none, rfl, rfl, fun _ => rfl⟩)
    -- the report of the adoption comes before the import
    let w₁ : World σ := { w with env := w.env.note (.adopting h.descriptor.isSome) }
    have h_noted : Evolves B lockable w w₁ := single (.noted (.adopting h.descriptor.isSome))
    rcases h_call : BufferObject.importFrom B m h w₁.env with ⟨f | o, env⟩
    · simp only [h_manager, show w.env.note (.adopting h.descriptor.isSome) = w₁.env from rfl,
        h_call] at h_resolve
      obtain ⟨rfl, rfl⟩ := Prod.mk.inj h_resolve
      have h_change : Change B lockable w₁ { w₁ with env } := .unimported h_call
      exact .inl ⟨f, rfl, h_noted.tail h_change⟩
    · simp only [h_manager, show w.env.note (.adopting h.descriptor.isSome) = w₁.env from rfl,
        h_call] at h_resolve
      obtain ⟨rfl, rfl⟩ := Prod.mk.inj h_resolve
      obtain ⟨rfl, -⟩ := BufferObject.importFrom_ok h_call
      have h_change : Change B lockable w₁ (w₁.addObject _ env) := .imported h_call
      exact .inr (.inr ⟨_, rfl, rfl,
        .intro (h_noted.tail h_change) h_manager (addObject_live w₁ _ env) rfl⟩)
  · simp only [h_owned, Option.isSome_some, if_true] at h_resolve
    obtain ⟨rfl, rfl⟩ := Prod.mk.inj h_resolve
    exact .inr (.inl ⟨_, rfl, rfl, nofun⟩)

variable (lockable) in
/-- A handle that is registered was registered already, or is made to stand for the next buffer. -/
theorem register_outcome {answer : Outcome Handle}
    (h_register : w.register B m h = (answer, w')) :
    (∃ f, answer = .error f ∧ Evolves B lockable w w') ∨
      (h.registration ≠ none ∧ answer = .ok h ∧ w' = w) ∨
      ∃ h', h.registration = none ∧ answer = .ok h' ∧
        Claims B lockable w m w.env.nextBuffer h' w' := by
  unfold register at h_register
  rcases h_resolve : w.resolve B m true h with ⟨resolved, w₁⟩
  rw [h_resolve] at h_register
  -- with a device at hand, what is not resolved is registered elsewhere, or the manager is gone
  rcases resolve_outcome lockable h_resolve with
    ⟨f, rfl, h_evolves⟩ | ⟨found, rfl, rfl, h_found⟩ | ⟨h', h_unowned, rfl, h_claims⟩
  · obtain ⟨rfl, rfl⟩ := Prod.mk.inj h_register
    exact .inl ⟨f, rfl, h_evolves⟩
  · rcases found with _ | id
    · obtain ⟨rfl, rfl⟩ := Prod.mk.inj h_register
      exact .inl ⟨_, rfl, refl⟩
    · obtain ⟨rfl, rfl⟩ := Prod.mk.inj h_register
      exact .inr (.inl ⟨fun h_unowned => (nomatch h_found h_unowned), rfl, rfl⟩)
  · obtain ⟨rfl, rfl⟩ := Prod.mk.inj h_register
    exact .inr (.inr ⟨h', h_unowned, rfl, h_claims⟩)

variable (lockable) in
/-- A handle that is unregistered gives up the entry that its key has in the manager's table. -/
theorem unregister_outcome {answer : Outcome Handle}
    (h_unregister : w.unregister B m h = (answer, w')) :
    (∃ f, answer = .error f ∧ w' = w) ∨
      ∃ key manager id, h.registration = some key ∧ w.manager? m = some manager ∧
        manager.buffers.find? key = some id ∧ answer = .ok { h with registration := none } ∧
        Evolves B lockable
          (w.setManager m (some { manager with buffers := manager.buffers.erase key })) w' := by
  unfold unregister at h_unregister
  split at h_unregister
  next key manager id h_key h_manager h_lookup =>
    rcases h_object : w.objects.find? id with _ | o
    · simp only [h_object] at h_unregister
      obtain ⟨rfl, rfl⟩ := Prod.mk.inj h_unregister
      exact .inl ⟨_, rfl, rfl⟩
    by_cases h_count : o.lockCount = 0
    · simp only [h_object, h_count, if_true] at h_unregister
      obtain ⟨rfl, rfl⟩ := Prod.mk.inj h_unregister
      -- the entry that was looked up is the one under the key of the handle
      obtain ⟨key', manager', h_key', h_manager', h_find⟩ := lookup_eq_some_iff.mp h_lookup
      cases h_key.symm.trans h_key'
      cases h_manager.symm.trans h_manager'
      exact .inr ⟨key, manager, id, h_key, h_manager, h_find, rfl, reap_evolves _ id⟩
    · simp only [h_object, h_count, if_false] at h_unregister
      obtain ⟨rfl, rfl⟩ := Prod.mk.inj h_unregister
      exact .inl ⟨_, rfl, rfl⟩
  next =>
    obtain ⟨rfl, rfl⟩ := Prod.mk.inj h_unregister
    exact .inl ⟨_, rfl, rfl⟩

theorem insert_outcome {id : BufferId} (h_manager : ∃ manager, w.manager? m = some manager)
    (h_live : ∃ o, w.objects.find? id = some o) :
    Claims B lockable w m id (w.insert m h id).1 (w.insert m h id).2 := by
  obtain ⟨manager, h_manager⟩ := h_manager
  simp only [insert, h_manager]
  exact .intro refl h_manager h_live rfl

/-! ## Locks -/

theorem lock_evolves (h_lockable : ∀ o ∈ w.objects.values, lockable o) (request : LockRequest) :
    Evolves B lockable w (w.lock B m h request).2 := by
  unfold lock
  rcases h_object : w.object? m h with _ | o
  · exact refl
  · obtain ⟨id, -, h_live⟩ := object?_eq_some_iff.mp h_object
    exact single (.locked h_live (h_lockable o (Table.mem_values_of_find? h_live)) h request)

theorem unlock_evolves : Evolves B lockable w (w.unlock B m h).2 := by
  unfold unlock
  rcases h_object : w.object? m h with _ | o
  · exact refl
  · obtain ⟨id, -, h_live⟩ := object?_eq_some_iff.mp h_object
    exact single (.unlocked h_live)

/-! ## References -/

/-- A reference to a live buffer is handed out, after elementary changes. -/
inductive Retains (B : Backend σ) (lockable : BufferObject → Prop) (w : World σ) (id : BufferId) :
    World σ → Prop where
  | intro {w₁ : World σ} (h_evolves : Evolves B lockable w w₁)
      (h_live : ∃ o, w₁.objects.find? id = some o) : Retains B lockable w id (w₁.retain id)

theorem Retains.registry {id : BufferId} (h_retains : Retains B lockable w id w') :
    w'.manager? = w.manager? ∧ w'.nextKey = w.nextKey := by
  obtain ⟨h_evolves, -⟩ := h_retains
  exact ⟨h_evolves.manager?_eq, h_evolves.nextKey_eq⟩

variable (B lockable) in
theorem hold_outcome (h_names : NamesLive w) {answer : Except Error BufferId}
    (h_hold : w.hold m h = (answer, w')) :
    (∃ e, answer = .error e ∧ w' = w) ∨ ∃ id, answer = .ok id ∧ Retains B lockable w id w' := by
  unfold hold at h_hold
  rcases h_lookup : w.lookup m h with _ | id
  · rw [h_lookup] at h_hold
    obtain ⟨rfl, rfl⟩ := Prod.mk.inj h_hold
    exact .inl ⟨_, rfl, rfl⟩
  · rw [h_lookup] at h_hold
    obtain ⟨rfl, rfl⟩ := Prod.mk.inj h_hold
    -- what a table names is live, so the reference is to a live buffer
    exact .inr ⟨id, rfl, .intro refl (h_names id (.inl (registered_of_lookup h_lookup)))⟩

variable (lockable) in
theorem allocate_retains {answer : Outcome (BufferId × Handle)}
    (h_allocate : w.allocate B m h = (answer, w')) :
    (∃ f, answer = .error f ∧ Evolves B lockable w w') ∨
      ∃ id h', answer = .ok (id, h') ∧ h'.registration = h.registration ∧
        Retains B lockable w id w' := by
  unfold allocate at h_allocate
  rcases h_call : BufferObject.allocate B m h w.env with ⟨f | ⟨o, h'⟩, env⟩
  · rw [h_call] at h_allocate
    obtain ⟨rfl, rfl⟩ := Prod.mk.inj h_allocate
    exact .inl ⟨f, rfl, single (.unallocated h_call)⟩
  · rw [h_call] at h_allocate
    obtain ⟨rfl, rfl⟩ := Prod.mk.inj h_allocate
    obtain ⟨-, -, h_registration⟩ := BufferObject.allocate_ok h_call
    exact .inr ⟨o.id, h', rfl, h_registration,
      .intro (single (.allocated h_call)) (addObject_live w o env)⟩

variable (lockable) in
theorem importFrom_retains {answer : Outcome BufferId}
    (h_import : w.importFrom B m h = (answer, w')) :
    (∃ f, answer = .error f ∧ Evolves B lockable w w') ∨
      ∃ id, answer = .ok id ∧ Retains B lockable w id w' := by
  unfold importFrom at h_import
  rcases h_call : BufferObject.importFrom B m h w.env with ⟨f | o, env⟩
  · rw [h_call] at h_import
    obtain ⟨rfl, rfl⟩ := Prod.mk.inj h_import
    exact .inl ⟨f, rfl, single (.unimported h_call)⟩
  · rw [h_call] at h_import
    obtain ⟨rfl, rfl⟩ := Prod.mk.inj h_import
    exact .inr ⟨o.id, rfl, .intro (single (.imported h_call)) (addObject_live w o env)⟩

end GraphicsBuffer.World
