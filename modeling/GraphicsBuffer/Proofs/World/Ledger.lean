/-
  GraphicsBuffer.Proofs.World.Ledger

  The buffers of a backend and the live objects of a world. Every elementary change keeps them in
  step: a buffer is made together with its object and freed together with it, and an operation that
  fails frees what it made.
-/

import GraphicsBuffer.Proofs.BufferObject.Account
import GraphicsBuffer.Proofs.World.Names

namespace GraphicsBuffer.World

variable {σ : Type} {B : Backend σ} {lockable : BufferObject → Prop} {w w' : World σ}

/-- The calls so far are balanced by the live objects, which are found under their own numbers. -/
structure Balanced (env : Env σ) (objects : Table BufferId BufferObject) : Prop where
  numbered : Numbered env objects
  ledger : Ledger env.trace env.nextBuffer objects.keys

namespace Balanced

variable {env env' : Env σ} {objects : Table BufferId BufferObject}

theorem distinct (h : Balanced env objects) : objects.Distinct := h.ledger.alive_nodup

/-- An object is found exactly if its buffer is alive. -/
theorem live_iff (h : Balanced env objects) {id : BufferId} :
    (∃ o, objects.find? id = some o) ↔ AliveAfter env.trace id := by
  rw [← Table.mem_keys_iff, h.ledger.mem_alive_iff]

/-- No object has the number that the next buffer gets. -/
theorem next_free (h : Balanced env objects) : objects.find? env.nextBuffer = none := by
  rw [Option.eq_none_iff_forall_ne_some]
  intro o h_live
  exact Nat.lt_irrefl _ (h.numbered _ o h_live).2

/-- The keys after an object is put in the place of one with its number. -/
theorem keys_replace (h : Balanced env objects) {id : BufferId} {o o' : BufferObject}
    (h_live : objects.find? id = some o) (h_id : o'.id = o.id) :
    objects.keys.Perm (objects.insert o'.id o').keys := by
  have h_number : o'.id = id := h_id.trans (h.numbered id o h_live).1
  rw [h_number]
  exact (h.distinct.keys_insert_perm h_live o').symm

end Balanced

/-- An elementary change keeps the calls and the live objects in balance. -/
theorem Change.balanced (h_change : Change B lockable w w') (h : Balanced w.env w.objects) :
    Balanced w'.env w'.objects := by
  refine ⟨h_change.numbered h.numbered, ?_⟩
  cases h_change with
  | noted _ => exact h.ledger
  | unallocated h_call => exact BufferObject.allocate_error_ledger h_call h.ledger
  | allocated h_call =>
    have h_ledger := BufferObject.allocate_ok_ledger h_call h.ledger
    obtain ⟨rfl, -, -⟩ := BufferObject.allocate_ok h_call
    show Ledger _ _ (w.objects.insert w.env.nextBuffer _).keys
    rw [Table.keys_insert_of_find?_eq_none _ h.next_free]
    exact h_ledger
  | unimported h_call => exact BufferObject.importFrom_error_ledger h_call h.ledger
  | imported h_call =>
    have h_ledger := BufferObject.importFrom_ok_ledger h_call h.ledger
    obtain ⟨rfl, -⟩ := BufferObject.importFrom_ok h_call
    show Ledger _ _ (w.objects.insert w.env.nextBuffer _).keys
    rw [Table.keys_insert_of_find?_eq_none _ h.next_free]
    exact h_ledger
  | @locked id o h_live _ handle request =>
    have h_outcome := BufferObject.lock_outcome B o handle request w.env
    rcases h_lock : o.lock B handle request w.env with ⟨answer, env⟩
    rw [h_lock] at h_outcome
    have h_id := h_outcome.numbers.2
    have h_ledger : Ledger env.trace env.nextBuffer w.objects.keys := h_outcome.ledger h.ledger
    rcases answer with f | o'
    · simp only [lockObject, h_lock]
      exact h_ledger
    · simp only [lockObject, h_lock]
      exact h_ledger.perm (h.keys_replace h_live (h_id o' rfl))
  | @unlocked id o h_live =>
    have h_outcome := BufferObject.unlock_outcome B o w.env
    rcases h_unlock : o.unlock B w.env with ⟨o', env⟩
    rw [h_unlock] at h_outcome
    have h_id := h_outcome.numbers.2
    have h_ledger : Ledger env.trace env.nextBuffer w.objects.keys := h_outcome.ledger h.ledger
    simp only [unlockObject, h_unlock]
    exact h_ledger.perm (h.keys_replace h_live h_id)
  | @destroyed id _ =>
    rcases h_object : w.objects.find? id with _ | o
    · simp only [destroy, h_object]
      exact h.ledger
    · obtain ⟨rfl, -⟩ := h.numbered id o h_object
      simp only [destroy, h_object]
      rw [destroy_nextBuffer]
      exact BufferObject.destroy_ledger (h.ledger.perm (h.distinct.keys_perm h_object))

end GraphicsBuffer.World
