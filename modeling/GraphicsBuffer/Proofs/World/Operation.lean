/-
  GraphicsBuffer.Proofs.World.Operation

  The operations of a world as one relation. A client reaches a world through them only, so what
  every operation keeps, every client keeps. What elementary changes keep of the objects and the
  environment, and locks that end as tolerated, every operation keeps.
-/

import GraphicsBuffer.Proofs.World.Evolution

namespace GraphicsBuffer.World

variable {σ : Type} {B : Backend σ} {tolerated : Failure → Prop} {w w' : World σ}

/-- What a client can do to a world at once. `tolerated` says which failures locks may meet. -/
inductive Operation (B : Backend σ) (tolerated : Failure → Prop) (w : World σ) :
    World σ → Prop where
  | created (m : ManagerId) (size : Extent) (format : PixelFormat) (usage : Usage) :
    Operation B tolerated w (w.create B m size format usage).2
  | resolved (m : ManagerId) (useDevice : Bool) (h : Handle) :
    Operation B tolerated w (w.resolve B m useDevice h).2
  | unregistered (m : ManagerId) (h : Handle) : Operation B tolerated w (w.unregister B m h).2
  | locked {id : BufferId} {o : BufferObject} (h_live : w.objects.find? id = some o) (h : Handle)
      (request : LockRequest)
      (h_tolerated : ∀ f, (w.lockObject B o h request).1 = .error f → tolerated f) :
    Operation B tolerated w (w.lockObject B o h request).2
  | unlocked {id : BufferId} {o : BufferObject} (h_live : w.objects.find? id = some o) :
    Operation B tolerated w (w.unlockObject B o)
  | held (m : ManagerId) (h : Handle) : Operation B tolerated w (w.hold m h).2
  | allocated (m : ManagerId) (h : Handle) : Operation B tolerated w (w.allocate B m h).2
  | imported (m : ManagerId) (h : Handle) : Operation B tolerated w (w.importFrom B m h).2
  | inserted (m : ManagerId) (h : Handle) {id : BufferId}
      (h_live : ∃ o, w.objects.find? id = some o) : Operation B tolerated w (w.insert m h id).2
  | released (id : BufferId) : Operation B tolerated w (w.release B id)
  | closed (m : ManagerId) : Operation B tolerated w (w.dropManager B m)

/-- A sequence of operations. -/
abbrev Operates (B : Backend σ) (tolerated : Failure → Prop) : World σ → World σ → Prop :=
  Relation.ReflTransGen (Operation B tolerated)

/-- What every operation keeps, every sequence of them keeps. -/
theorem Operates.keeps {J : World σ → Prop}
    (h_operation : ∀ {w w'}, Operation B tolerated w w' → J w → J w')
    (h_operates : Operates B tolerated w w') (h : J w) : J w' := by
  -- on the sequence, from its start
  induction h_operates with
  | refl => exact h
  | tail _ h_last ih => exact h_operation h_last ih

/-! ## Objects and environment -/

section Keep

variable {I : Env σ → Table BufferId BufferObject → Prop}

/-- The table that takes a buffer in is no part of the objects or the environment. -/
theorem Claims.keeps {lockable : BufferObject → Prop} {m : ManagerId} {id : BufferId} {h' : Handle}
    (h_change : ∀ {w w'}, Change B lockable w w' → I w.env w.objects → I w'.env w'.objects)
    (h_claims : Claims B lockable w m id h' w') (h : I w.env w.objects) :
    I w'.env w'.objects := by
  obtain ⟨h_evolves, -, -, -⟩ := h_claims
  exact (h_evolves.keeps (I := fun w => I w.env w.objects) h_change h :)

theorem Retains.keeps {lockable : BufferObject → Prop} {id : BufferId}
    (h_change : ∀ {w w'}, Change B lockable w w' → I w.env w.objects → I w'.env w'.objects)
    (h_retains : Retains B lockable w id w') (h : I w.env w.objects) : I w'.env w'.objects := by
  obtain ⟨h_evolves, -⟩ := h_retains
  exact (h_evolves.keeps (I := fun w => I w.env w.objects) h_change h :)

/-- What elementary changes keep that are no locks, and locks that meet only tolerated failures,
    every operation keeps. -/
theorem Operation.keeps
    (h_change : ∀ {w w'}, Change B (fun _ => False) w w' →
      I w.env w.objects → I w'.env w'.objects)
    (h_lock : ∀ {w : World σ} {id o} h request, w.objects.find? id = some o →
      (∀ f, (w.lockObject B o h request).1 = .error f → tolerated f) → I w.env w.objects →
      I (w.lockObject B o h request).2.env (w.lockObject B o h request).2.objects)
    (h_operation : Operation B tolerated w w') (h : I w.env w.objects) : I w'.env w'.objects := by
  have h_evolves : ∀ {w w'}, Evolves B (fun _ => False) w w' →
      I w.env w.objects → I w'.env w'.objects :=
    fun h_world h_before => h_world.keeps (I := fun w => I w.env w.objects) h_change h_before
  cases h_operation with
  | created m size format usage =>
    rcases h_create : w.create B m size format usage with ⟨answer, w'⟩
    rcases create_outcome (fun _ => False) h_create with ⟨f, -, h_world⟩ | ⟨h', -, h_claims⟩
    · exact h_evolves h_world h
    · exact h_claims.keeps h_change h
  | resolved m useDevice handle =>
    rcases h_resolve : w.resolve B m useDevice handle with ⟨answer, w'⟩
    rcases resolve_outcome (fun _ => False) h_resolve with
      ⟨f, -, h_world⟩ | ⟨found, -, rfl, -⟩ | ⟨h', -, -, h_claims⟩
    · exact h_evolves h_world h
    · exact h
    · exact h_claims.keeps h_change h
  | unregistered m handle =>
    rcases h_unregister : w.unregister B m handle with ⟨answer, w'⟩
    rcases unregister_outcome (fun _ => False) h_unregister with
      ⟨f, -, rfl⟩ | ⟨key, manager, id, -, -, -, -, h_world⟩
    · exact h
    · exact (h_evolves h_world h :)
  | locked h_live handle request h_tolerated => exact h_lock handle request h_live h_tolerated h
  | unlocked h_live => exact h_change (.unlocked h_live) h
  | held m handle =>
    unfold hold
    rcases w.lookup m handle with _ | id
    · exact h
    · exact h
  | allocated m handle =>
    rcases h_allocate : w.allocate B m handle with ⟨answer, w'⟩
    rcases allocate_retains (fun _ => False) h_allocate with
      ⟨f, -, h_world⟩ | ⟨id, h', -, -, h_retains⟩
    · exact h_evolves h_world h
    · exact h_retains.keeps h_change h
  | imported m handle =>
    rcases h_import : w.importFrom B m handle with ⟨answer, w'⟩
    rcases importFrom_retains (fun _ => False) h_import with
      ⟨f, -, h_world⟩ | ⟨id, -, h_retains⟩
    · exact h_evolves h_world h
    · exact h_retains.keeps h_change h
  | inserted m handle h_live =>
    unfold insert
    rcases w.manager? m with _ | manager
    · exact h
    · exact h
  | released id =>
    -- the reference goes before the buffer is looked at
    have h_reap : Evolves B (fun _ => False) { w with held := w.held.erase id } (w.release B id) :=
      reap_evolves _ id
    exact h_evolves h_reap h
  | closed m =>
    rcases dropManager_evolves B (fun _ => False) w m with h_same | h_world
    · rw [h_same]
      exact h
    · exact (h_evolves h_world h :)

end Keep

end GraphicsBuffer.World
