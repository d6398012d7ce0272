/-
  GraphicsBuffer.Proofs.World.Pairing

  The mappings of a backend and those that live objects record. As long as no lock is aborted after
  its buffer was mapped, every operation keeps them in step, so an object asks for a mapping only
  while its buffer has none, and ends the one that it was given.
-/

import GraphicsBuffer.Proofs.Backend.Pairing
import GraphicsBuffer.Proofs.BufferObject.Account
import GraphicsBuffer.Proofs.World.Names
import GraphicsBuffer.Proofs.World.Operation

namespace GraphicsBuffer

/-! ## Locks -/

namespace BufferObject

variable {σ : Type} {B : Backend σ} {env env' : Env σ} {o : BufferObject} {h : Handle}

/-- What a lock that is not aborted does to the mapping of its object: nothing; or it asks for one
    where there is none, and the object records the one that is granted. -/
theorem LockOutcome.mapping {request : LockRequest} {answer : Outcome BufferObject}
    (h_lock : LockOutcome B o h request env (answer, env'))
    (h_abort : ∀ f, answer = .error f → f ≠ .abort .strideMismatch) :
    (env'.trace = env.trace ∧ ∀ o', answer = .ok o' → o'.mapping = o.mapping) ∨
      (o.mapping = none ∧ (∃ f, answer = .error f) ∧ ∃ region access g,
        env'.trace = env.trace ++ [.mapped o.id region access (.error g)]) ∨
      (o.mapping = none ∧ ∃ region access mapping o', answer = .ok o' ∧
        o'.mapping = some mapping ∧
        env'.trace = env.trace ++ [.mapped o.id region access (.ok mapping)]) := by
  cases h_lock with
  | notPermitted _ => exact .inl ⟨rfl, nofun⟩
  | incompatible _ _ => exact .inl ⟨rfl, nofun⟩
  | device _ _ _ => exact .inl ⟨rfl, fun _ h_ok => Except.ok.inj h_ok ▸ rfl⟩
  | noCorner _ _ _ _ => exact .inl ⟨rfl, nofun⟩
  | unmapped _ _ _ _ h_mapping h_open =>
    obtain ⟨given, -, h_trace, h_given⟩ := openMapping_failed h_open
    -- the backend gave a mapping only if the lock is aborted
    rcases h_given with ⟨e, rfl, -⟩ | ⟨a, rfl, -⟩ | ⟨_, -, -, h_f⟩
    · exact .inr (.inl ⟨h_mapping, ⟨_, rfl⟩, _, _, _, h_trace⟩)
    · exact .inr (.inl ⟨h_mapping, ⟨_, rfl⟩, _, _, _, h_trace⟩)
    · exact absurd h_f (h_abort _ rfl)
  | mapped _ _ _ _ h_mapping h_open =>
    obtain ⟨given, -, h_trace, -, h_given⟩ := openMapping_spec h_open
    rw [(h_given _ rfl).1] at h_trace
    exact .inr (.inr ⟨h_mapping, _, _, _, _, rfl, rfl, h_trace⟩)
  | beyond _ _ _ _ _ _ => exact .inl ⟨rfl, nofun⟩
  | shared _ _ _ _ _ _ => exact .inl ⟨rfl, fun _ h_ok => Except.ok.inj h_ok ▸ rfl⟩

end BufferObject

/-! ## Changes and operations -/

namespace World

variable {σ : Type} {B : Backend σ} {w w' : World σ}

/-- The mapping that the object of a buffer records. -/
def mappingsOf (objects : Table BufferId BufferObject) (id : BufferId) : Option BackendMapping :=
  (objects.find? id).bind (·.mapping)

theorem mappingsOf_insert (objects : Table BufferId BufferObject) (id : BufferId)
    (o : BufferObject) :
    mappingsOf (objects.insert id o) = Function.update (mappingsOf objects) id o.mapping := by
  funext l
  rw [mappingsOf, Table.find?_insert, Function.update_apply]
  by_cases h_eq : l = id
  · rw [if_pos h_eq, if_pos h_eq]
    rfl
  · rw [if_neg h_eq, if_neg h_eq]
    rfl

theorem mappingsOf_erase (objects : Table BufferId BufferObject) (id : BufferId) :
    mappingsOf (objects.erase id) = Function.update (mappingsOf objects) id none := by
  funext l
  rw [mappingsOf, Table.find?_erase, Function.update_apply]
  by_cases h_eq : l = id
  · rw [if_pos h_eq, if_pos h_eq]
    rfl
  · rw [if_neg h_eq, if_neg h_eq]
    rfl

theorem mappingsOf_live {objects : Table BufferId BufferObject} {id : BufferId} {o : BufferObject}
    (h_live : objects.find? id = some o) : mappingsOf objects id = o.mapping := by
  rw [mappingsOf, h_live]
  rfl

/-- The calls so far are paired, and the mappings in use are those that live objects record. -/
structure MappingsRecorded (env : Env σ) (objects : Table BufferId BufferObject) : Prop where
  numbered : Numbered env objects
  pairing : Pairing env.trace (mappingsOf objects)

namespace MappingsRecorded

variable {env env' : Env σ} {objects : Table BufferId BufferObject}

/-- No mapping is recorded of a buffer that is yet to be made. -/
theorem next_unmapped (h : MappingsRecorded env objects) :
    mappingsOf objects env.nextBuffer = none := by
  rcases h_live : objects.find? env.nextBuffer with _ | o
  · rw [mappingsOf, h_live]
    rfl
  · exact absurd (h.numbered _ o h_live).2 (Nat.lt_irrefl _)

/-- An object without a mapping changes nothing for a buffer that has none. -/
theorem mappingsOf_insert_unmapped {id : BufferId} (h_none : mappingsOf objects id = none)
    {o : BufferObject} (h_o : o.mapping = none) :
    mappingsOf (objects.insert id o) = mappingsOf objects := by
  rw [mappingsOf_insert, h_o, ← h_none, Function.update_eq_self]

/-- An allocation concerns no mapping, and a buffer that it frees again was never mapped. -/
theorem allocate (h : MappingsRecorded env objects) {m : ManagerId} {handle : Handle}
    {answer : Outcome (BufferObject × Handle)}
    (h_call : BufferObject.allocate B m handle env = (answer, env')) :
    Pairing env'.trace (mappingsOf objects) := by
  rcases BufferObject.allocate_trace h_call with ⟨_, calls, -, -, h_trace, h_calls⟩ |
    ⟨f, size, layout, -, -, h_trace⟩ | ⟨_, size, layout, descriptor, -, -, h_trace⟩
  · rw [h_trace]
    refine h.pairing.quiets fun call h_mem => ?_
    obtain ⟨_, _, _, rfl⟩ := h_calls call h_mem
    rfl
  · have h_split : env'.trace = env.trace ++
        [.created m size layout handle.usage.bindFlags (.ok env.nextBuffer),
          .exported env.nextBuffer (.error f)] ++ [.destroyed env.nextBuffer] := by
      rw [h_trace, List.append_assoc]
      rfl
    rw [h_split]
    exact (h.pairing.quiets (by simp [Call.quiet])).destroy h.next_unmapped
  · rw [h_trace]
    exact h.pairing.quiets (by simp [Call.quiet])

theorem importFrom (h : MappingsRecorded env objects) {m : ManagerId} {handle : Handle}
    {answer : Outcome BufferObject}
    (h_call : BufferObject.importFrom B m handle env = (answer, env')) :
    Pairing env'.trace (mappingsOf objects) := by
  rcases BufferObject.importFrom_trace h_call with ⟨_, calls, -, -, h_trace, h_calls⟩ |
    ⟨request, -, -, h_trace⟩
  · rw [h_trace]
    refine h.pairing.quiets fun call h_mem => ?_
    obtain ⟨_, _, rfl⟩ := h_calls call h_mem
    rfl
  · rw [h_trace]
    exact h.pairing.quiets (by simp [Call.quiet])

end MappingsRecorded

/-- Every elementary change but a lock keeps the mappings recorded. -/
theorem Change.mappingsRecorded (h_change : Change B (fun _ => False) w w')
    (h : MappingsRecorded w.env w.objects) : MappingsRecorded w'.env w'.objects := by
  refine ⟨h_change.numbered h.numbered, ?_⟩
  cases h_change with
  | noted _ => exact h.pairing
  | unallocated h_call => exact h.allocate h_call
  | allocated h_call =>
    have h_pairing := h.allocate h_call
    obtain ⟨rfl, -, -⟩ := BufferObject.allocate_ok h_call
    show Pairing _ (mappingsOf (w.objects.insert w.env.nextBuffer _))
    rw [MappingsRecorded.mappingsOf_insert_unmapped h.next_unmapped rfl]
    exact h_pairing
  | unimported h_call => exact h.importFrom h_call
  | imported h_call =>
    have h_pairing := h.importFrom h_call
    obtain ⟨rfl, -⟩ := BufferObject.importFrom_ok h_call
    show Pairing _ (mappingsOf (w.objects.insert w.env.nextBuffer _))
    rw [MappingsRecorded.mappingsOf_insert_unmapped h.next_unmapped rfl]
    exact h_pairing
  | locked _ h_lockable _ _ => exact h_lockable.elim
  | @unlocked id o h_live =>
    obtain ⟨rfl, -⟩ := h.numbered id o h_live
    have h_outcome := BufferObject.unlock_outcome B o w.env
    rcases h_unlock : o.unlock B w.env with ⟨o', env⟩
    rw [h_unlock] at h_outcome
    have h_id : o'.id = o.id := h_outcome.numbers.2
    simp only [unlockObject, h_unlock]
    show Pairing env.trace (mappingsOf (w.objects.insert o'.id o'))
    rw [mappingsOf_insert, h_id]
    rcases h_outcome.trace with ⟨h_trace, h_same⟩ | ⟨mapping, h_mapping, h_none, h_trace⟩
    · rw [h_trace, h_same, ← mappingsOf_live h_live, Function.update_eq_self]
      exact h.pairing
    · rw [h_trace, h_none]
      exact h.pairing.unmap ((mappingsOf_live h_live).trans h_mapping)
  | @destroyed id _ =>
    rcases h_object : w.objects.find? id with _ | o
    · simp only [destroy, h_object]
      exact h.pairing
    obtain ⟨rfl, -⟩ := h.numbered id o h_object
    simp only [destroy, h_object]
    rw [mappingsOf_erase]
    rcases BufferObject.destroy_trace B o w.env with ⟨h_none, h_trace⟩ |
      ⟨mapping, h_mapping, h_trace⟩
    · have h_unmapped : mappingsOf w.objects o.id = none :=
        (mappingsOf_live h_object).trans h_none
      have h_same : Function.update (mappingsOf w.objects) o.id none = mappingsOf w.objects := by
        rw [← h_unmapped, Function.update_eq_self]
      rw [h_trace, h_same]
      exact h.pairing.destroy h_unmapped
    · -- the mapping that is recorded ends before the buffer does
      rw [h_trace]
      exact (h.pairing.unmap ((mappingsOf_live h_object).trans h_mapping)).destroy
        (Function.update_self _ _ _)

/-- A lock that is not aborted keeps the mappings recorded. -/
theorem lockObject_mappingsRecorded {id : BufferId} {o : BufferObject} (handle : Handle)
    (request : LockRequest) (h_live : w.objects.find? id = some o)
    (h_abort : ∀ f, (w.lockObject B o handle request).1 = .error f →
      f ≠ .abort .strideMismatch)
    (h : MappingsRecorded w.env w.objects) :
    MappingsRecorded (w.lockObject B o handle request).2.env
      (w.lockObject B o handle request).2.objects := by
  have h_change : Change B (fun _ => True) w (w.lockObject B o handle request).2 :=
    .locked h_live True.intro handle request
  refine ⟨h_change.numbered h.numbered, ?_⟩
  obtain ⟨rfl, -⟩ := h.numbered id o h_live
  have h_recorded : mappingsOf w.objects o.id = o.mapping := mappingsOf_live h_live
  have h_outcome := BufferObject.lock_outcome B o handle request w.env
  rcases h_lock : o.lock B handle request w.env with ⟨answer, env⟩
  rw [h_lock] at h_outcome
  have h_id := h_outcome.numbers.2
  have h_tolerated : ∀ f, answer = .error f → f ≠ .abort .strideMismatch := by
    rintro f rfl
    refine h_abort f ?_
    simp only [lockObject, h_lock]
  rcases h_outcome.mapping h_tolerated with ⟨h_trace, h_same⟩ |
    ⟨h_none, ⟨f, rfl⟩, region, access, g, h_trace⟩ |
    ⟨h_none, region, access, mapping, o', rfl, h_mapping, h_trace⟩
  · rcases answer with f | o'
    · simp only [lockObject, h_lock]
      rw [h_trace]
      exact h.pairing
    · simp only [lockObject, h_lock]
      show Pairing env.trace (mappingsOf (w.objects.insert o'.id o'))
      rw [h_trace, mappingsOf_insert, h_id o' rfl, h_same o' rfl, ← h_recorded,
        Function.update_eq_self]
      exact h.pairing
  · simp only [lockObject, h_lock]
    rw [h_trace]
    exact h.pairing.map_error (h_recorded.trans h_none) region access g
  · simp only [lockObject, h_lock]
    show Pairing env.trace (mappingsOf (w.objects.insert o'.id o'))
    rw [h_trace, mappingsOf_insert, h_id o' rfl, h_mapping]
    exact h.pairing.map (h_recorded.trans h_none) region access mapping

theorem Operation.mappingsRecorded
    (h_operation : Operation B (· ≠ .abort .strideMismatch) w w')
    (h : MappingsRecorded w.env w.objects) : MappingsRecorded w'.env w'.objects :=
  h_operation.keeps Change.mappingsRecorded
    (fun handle request h_live h_abort h_before =>
      lockObject_mappingsRecorded handle request h_live h_abort h_before) h

end World

end GraphicsBuffer
