/-
  GraphicsBuffer.Proofs.World.Change

  The elementary changes of a world. Every operation of the managers is a sequence of them
  (`create_evolves` and the others), so what each elementary change keeps, every operation keeps.
-/

import GraphicsBuffer.World
import GraphicsBuffer.Proofs.BufferObject.Origin
import GraphicsBuffer.Proofs.Table
import Mathlib.Logic.Relation

namespace GraphicsBuffer.World

variable {σ : Type}

/-! ## Managers -/

/-- A manager that is started has no buffers. -/
theorem start_buffers {B : Backend σ} {devices : σ} {kinds : List ManagerKind} {m : ManagerId}
    {manager : Manager} (h_manager : (start B devices kinds).manager? m = some manager) :
    manager.buffers = ∅ := by
  rw [manager?, start, List.getElem?_map, Option.join_eq_some_iff] at h_manager
  obtain ⟨kind, -, h_eq⟩ := Option.map_eq_some_iff.mp h_manager
  cases h_eq
  rfl

theorem manager?_setManager {w : World σ} {m : ManagerId} {manager : Manager}
    (h_manager : w.manager? m = some manager) (x : Option Manager) (l : ManagerId) :
    (w.setManager m x).manager? l = if l = m then x else w.manager? l := by
  have h_lt : m < w.managers.length := by
    by_contra h_ge
    rw [manager?, List.getElem?_eq_none (Nat.le_of_not_lt h_ge)] at h_manager
    exact nomatch h_manager
  simp only [manager?, setManager, List.getElem?_set]
  by_cases h_eq : l = m
  · rw [if_pos h_eq.symm, if_pos h_eq, if_pos h_lt]
    rfl
  · rw [if_neg (Ne.symm h_eq), if_neg h_eq]

theorem manager?_setManager_none (w : World σ) (m l : ManagerId) :
    (w.setManager m none).manager? l = if l = m then none else w.manager? l := by
  -- a manager that is gone, or never was, can be ended once more
  rcases h_manager : w.manager? m with _ | manager
  · simp only [manager?, setManager, List.getElem?_set] at h_manager ⊢
    by_cases h_eq : l = m
    · rw [if_pos h_eq.symm, if_pos h_eq]
      split <;> rfl
    · rw [if_neg (Ne.symm h_eq), if_neg h_eq]
  · exact manager?_setManager h_manager none l

/-! ## Names of buffers -/

theorem mem_registered {w : World σ} {id : BufferId} : id ∈ w.registered ↔
    ∃ m manager, w.manager? m = some manager ∧ id ∈ manager.buffers.values := by
  rw [registered, List.mem_flatMap]
  constructor
  · rintro ⟨slot, h_slot, h_mem⟩
    obtain ⟨m, h_slot⟩ := List.mem_iff_getElem?.mp h_slot
    cases slot with
    | none => simp at h_mem
    | some manager =>
      refine ⟨m, manager, ?_, h_mem⟩
      rw [manager?, h_slot]
      rfl
  · rintro ⟨m, manager, h_manager, h_mem⟩
    refine ⟨some manager, List.mem_iff_getElem?.mpr ⟨m, ?_⟩, h_mem⟩
    rw [manager?] at h_manager
    rcases h_slot : w.managers[m]? with _ | slot
    · rw [h_slot] at h_manager
      exact nomatch h_manager
    · rw [h_slot] at h_manager
      exact congrArg some h_manager

theorem references_eq_zero_iff {w : World σ} {id : BufferId} :
    w.references id = 0 ↔ id ∉ w.registered ∧ id ∉ w.held := by
  rw [references, Nat.add_eq_zero_iff, List.count_eq_zero, List.count_eq_zero]

/-- Every buffer that a table or a reference names has a live object. -/
def NamesLive (w : World σ) : Prop :=
  ∀ id, id ∈ w.registered ∨ id ∈ w.held → ∃ o, w.objects.find? id = some o

/-! ## Elementary changes -/

/-- What can happen at once to the objects of a world and to its environment. `lockable` says which
    objects may be locked. -/
inductive Change (B : Backend σ) (lockable : BufferObject → Prop) (w : World σ) :
    World σ → Prop where
  /-- Something is reported. -/
  | noted (entry : LogEntry) : Change B lockable w { w with env := w.env.note entry }
  /-- An allocation fails. -/
  | unallocated {m : ManagerId} {h : Handle} {f : Failure} {env : Env σ}
      (h_call : BufferObject.allocate B m h w.env = (.error f, env)) :
    Change B lockable w { w with env }
  /-- A buffer is allocated. -/
  | allocated {m : ManagerId} {h h' : Handle} {o : BufferObject} {env : Env σ}
      (h_call : BufferObject.allocate B m h w.env = (.ok (o, h'), env)) :
    Change B lockable w (w.addObject o env)
  /-- An import fails. -/
  | unimported {m : ManagerId} {h : Handle} {f : Failure} {env : Env σ}
      (h_call : BufferObject.importFrom B m h w.env = (.error f, env)) :
    Change B lockable w { w with env }
  /-- A buffer is imported. -/
  | imported {m : ManagerId} {h : Handle} {o : BufferObject} {env : Env σ}
      (h_call : BufferObject.importFrom B m h w.env = (.ok o, env)) :
    Change B lockable w (w.addObject o env)
  /-- A live object is locked, or a lock of it fails. -/
  | locked {id : BufferId} {o : BufferObject} (h_live : w.objects.find? id = some o)
      (h_lockable : lockable o) (h : Handle) (request : LockRequest) :
    Change B lockable w (w.lockObject B o h request).2
  /-- A live object is unlocked. -/
  | unlocked {id : BufferId} {o : BufferObject} (h_live : w.objects.find? id = some o) :
    Change B lockable w (w.unlockObject B o)
  /-- An object that nothing names is freed. -/
  | destroyed {id : BufferId} (h_unnamed : w.references id = 0) :
    Change B lockable w (w.destroy B id)

/-- A sequence of elementary changes. -/
abbrev Evolves (B : Backend σ) (lockable : BufferObject → Prop) : World σ → World σ → Prop :=
  Relation.ReflTransGen (Change B lockable)

section Frame

variable {B : Backend σ} {lockable : BufferObject → Prop} {w w' : World σ}

/-- What every elementary change keeps, every sequence of them keeps. -/
theorem Evolves.keeps {I : World σ → Prop}
    (h_change : ∀ {w w'}, Change B lockable w w' → I w → I w')
    (h_evolves : Evolves B lockable w w') (h : I w) : I w' := by
  -- on the sequence, from its start: the last change comes after what the others keep
  induction h_evolves with
  | refl => exact h
  | tail _ h_last ih => exact h_change h_last ih

/-- What a fresh object has, and what locks and unlocks keep of an object, every elementary change
    keeps of all live objects. A lock that fails, or is aborted, leaves the objects alone. -/
theorem Change.keeps_each {P : BufferObject → Prop} (h_change : Change B lockable w w')
    (h_fresh : ∀ id, P { id })
    (h_lock : ∀ {o o' h request env env'}, lockable o → P o →
      o.lock B h request env = (.ok o', env') → P o')
    (h_unlock : ∀ {o o' env env'}, P o → o.unlock B env = (o', env') → P o')
    (h : ∀ o ∈ w.objects.values, P o) : ∀ o ∈ w'.objects.values, P o := by
  have h_insert : ∀ {o : BufferObject}, P o → ∀ o' ∈ (w.objects.insert o.id o).values, P o' := by
    intro o h_o o' h_mem
    rw [Table.values_insert, List.mem_append, List.mem_singleton] at h_mem
    rcases h_mem with h_mem | rfl
    · exact h o' (Table.values_erase_subset h_mem)
    · exact h_o
  cases h_change with
  | noted _ => exact h
  | unallocated _ => exact h
  | allocated h_call =>
    obtain ⟨rfl, -, -⟩ := BufferObject.allocate_ok h_call
    exact h_insert (h_fresh _)
  | unimported _ => exact h
  | imported h_call =>
    obtain ⟨rfl, -⟩ := BufferObject.importFrom_ok h_call
    exact h_insert (h_fresh _)
  | @locked _ o h_live h_lockable handle request =>
    rcases h_call : o.lock B handle request w.env with ⟨f | o', env⟩
    · simp only [lockObject, h_call]
      exact h
    · simp only [lockObject, h_call]
      exact h_insert (h_lock h_lockable (h o (Table.mem_values_of_find? h_live)) h_call)
  | @unlocked _ o h_live =>
    rcases h_call : o.unlock B w.env with ⟨o', env⟩
    simp only [unlockObject, h_call]
    exact h_insert (h_unlock (h o (Table.mem_values_of_find? h_live)) h_call)
  | @destroyed id _ =>
    rcases h_object : w.objects.find? id with _ | o
    · simp only [destroy, h_object]
      exact h
    · simp only [destroy, h_object]
      exact fun o' h_mem => h o' (Table.values_erase_subset h_mem)

/-- The part of a world that elementary changes leave alone. -/
def registry (w : World σ) : List (Option Manager) × List BufferId × Key :=
  (w.managers, w.held, w.nextKey)

theorem Change.registry_eq (h_change : Change B lockable w w') : w'.registry = w.registry := by
  cases h_change with
  | noted _ => rfl
  | unallocated _ => rfl
  | allocated _ => rfl
  | unimported _ => rfl
  | imported _ => rfl
  | @locked _ o _ _ h request =>
    unfold lockObject
    rcases o.lock B h request w.env with ⟨f | o', env⟩ <;> rfl
  | unlocked _ => rfl
  | @destroyed id _ =>
    unfold destroy
    rcases w.objects.find? id with _ | o <;> rfl

theorem Evolves.registry_eq (h_evolves : Evolves B lockable w w') :
    w'.registry = w.registry :=
  h_evolves.keeps (I := fun v => v.registry = w.registry)
    (fun h_change h_eq => h_change.registry_eq.trans h_eq) rfl

theorem Evolves.managers_eq (h_evolves : Evolves B lockable w w') : w'.managers = w.managers :=
  congrArg Prod.fst h_evolves.registry_eq

theorem Evolves.manager?_eq (h_evolves : Evolves B lockable w w') :
    w'.manager? = w.manager? := by
  funext m
  rw [manager?, h_evolves.managers_eq, manager?]

theorem Evolves.held_eq (h_evolves : Evolves B lockable w w') : w'.held = w.held :=
  congrArg (·.2.1) h_evolves.registry_eq

theorem Evolves.nextKey_eq (h_evolves : Evolves B lockable w w') : w'.nextKey = w.nextKey :=
  congrArg (·.2.2) h_evolves.registry_eq

end Frame

end GraphicsBuffer.World
