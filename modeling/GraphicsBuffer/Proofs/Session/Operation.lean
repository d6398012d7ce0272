/-
  GraphicsBuffer.Proofs.Session.Operation

  Sessions reach their worlds through the operations of worlds only, one or two of them in a step.
  What every operation keeps of a world, and changes of the devices keep, every play keeps.
-/

import GraphicsBuffer.Proofs.Session.Invariant
import GraphicsBuffer.Proofs.World.Operation

namespace GraphicsBuffer.Session

variable {σ : Type} {B : Backend σ} {tolerated : Failure → Prop} {s : Session σ}

open World (Operation Operates)
open Relation.ReflTransGen (refl single)

/-! ## Going on with what is there -/

section Guards

variable {P : Answer × Session σ → Prop}

theorem withManager_cases {m : ManagerId} {k : Manager → Answer × Session σ}
    (h_refused : P (.refused .noManager, s))
    (h_on : ∀ manager, s.world.manager? m = some manager → P (k manager)) :
    P (s.withManager m k) := by
  unfold withManager
  rcases h_manager : s.world.manager? m with _ | manager
  · exact h_refused
  · exact h_on manager h_manager

theorem withHandle_cases {h : Name} {k : Handle → Answer × Session σ}
    (h_refused : P (.refused .noHandle, s))
    (h_on : ∀ handle, s.handles.find? h = some handle → P (k handle)) :
    P (s.withHandle h k) := by
  unfold withHandle
  rcases h_find : s.handles.find? h with _ | handle
  · exact h_refused
  · exact h_on handle h_find

theorem withObject_cases {o : Name} {k : BufferObject → Answer × Session σ}
    (h_refused : P (.refused .noObject, s))
    (h_on : ∀ id object, s.world.objects.find? id = some object → P (k object)) :
    P (s.withObject o k) := by
  unfold withObject
  rcases h_object : s.heldObject? o with _ | object
  · exact h_refused
  · obtain ⟨holding, -, h_live⟩ := Option.bind_eq_some_iff.mp h_object
    exact h_on holding.id object h_live

/-- A step that is not refused finds its manager and its handle. -/
theorem found_of_answer {m : ManagerId} {h : Name} {k : Manager → Handle → Answer × Session σ}
    (h_answer : ∀ why, (s.withManager m fun manager => s.withHandle h (k manager)).1 ≠
      .refused why) :
    ∃ manager handle, s.world.manager? m = some manager ∧ s.handles.find? h = some handle ∧
      (s.withManager m fun manager => s.withHandle h (k manager)) = k manager handle := by
  rcases h_manager : s.world.manager? m with _ | manager
  · simp [withManager, h_manager] at h_answer
  rcases h_find : s.handles.find? h with _ | handle
  · simp [withManager, withHandle, h_manager, h_find] at h_answer
  · exact ⟨manager, handle, rfl, rfl, by simp only [withManager, withHandle, h_manager, h_find]⟩

end Guards

/-! ## References -/

theorem releaseHolding_handles (B : Backend σ) (s : Session σ) (o : Name) :
    (s.releaseHolding B o).handles = s.handles := by
  unfold releaseHolding
  rcases s.holdings.find? o with _ | holding <;> rfl

theorem setHolding_handles (B : Backend σ) (s : Session σ) (o : Name) (holding : Holding) :
    (s.setHolding B o holding).handles = s.handles :=
  releaseHolding_handles B s o

/-! ## Locks -/

section Locks

variable {m : ManagerId} {name : Name} {handle : Handle} {o : BufferObject}

/-- The lock step of a handle that stands for an object is the lock of the object. -/
theorem step_lock_eq (h_find : s.handles.find? name = some handle)
    (h_object : s.world.object? m handle = some o) (request : LockRequest) :
    s.step B (.lock m name request) =
      s.keepLock (some o) (s.world.lockObject B o handle request) := by
  obtain ⟨id, h_lookup, -⟩ := World.object?_eq_some_iff.mp h_object
  obtain ⟨key, manager, -, h_manager, -⟩ := World.lookup_eq_some_iff.mp h_lookup
  simp only [step, withManager, h_manager, withHandle, h_find, World.lock, h_object]

theorem step_unlock_eq (h_find : s.handles.find? name = some handle)
    (h_object : s.world.object? m handle = some o) :
    s.step B (.unlock m name) = (.done, s.setWorld (s.world.unlockObject B o)) := by
  obtain ⟨id, h_lookup, -⟩ := World.object?_eq_some_iff.mp h_object
  obtain ⟨key, manager, -, h_manager, -⟩ := World.lookup_eq_some_iff.mp h_lookup
  simp only [step, withManager, h_manager, withHandle, h_find, World.unlock, h_object]

variable {before : Option BufferObject} {answer : Outcome (Option Address) × World σ}

theorem keepLock_world : (s.keepLock before answer).2.world = answer.2 := by
  obtain ⟨f | address, w⟩ := answer <;> rfl

theorem keepLock_locked {address previous : Option Address}
    (h_answer : (s.keepLock before answer).1 = .locked address previous) :
    answer.1 = .ok address := by
  obtain ⟨f | given, w⟩ := answer
  · exact nomatch h_answer
  · exact congrArg Except.ok (Answer.locked.inj h_answer).1

theorem keepLock_failed {f : Failure} (h_answer : (s.keepLock before answer).1 = .failed f) :
    answer.1 = .error f := by
  obtain ⟨g | given, w⟩ := answer
  · exact congrArg Except.error (Answer.failed.inj h_answer)
  · exact nomatch h_answer

end Locks

/-! ## Steps -/

/-- Unless something is met that is not tolerated, the world is reached by operations. -/
def Operated (B : Backend σ) (tolerated : Failure → Prop) (s : Session σ)
    (answer : Answer × Session σ) : Prop :=
  (∀ f, answer.1 = .failed f → tolerated f) → Operates B tolerated s.world answer.2.world

namespace Operated

theorem still {answer : Answer} : Operated B tolerated s (answer, s) := fun _ => refl

theorem once {answer : Answer} {s' : Session σ}
    (h_operation : Operation B tolerated s.world s'.world) :
    Operated B tolerated s (answer, s') := fun _ => single h_operation

/-- A reference is kept after an operation; what its name stood for is given up. -/
theorem setHolding {answer : Answer} (s₁ : Session σ) {o : Name} {holding : Holding}
    (h_operation : Operation B tolerated s.world s₁.world) :
    Operated B tolerated s (answer, s₁.setHolding B o holding) := by
  intro _
  show Operates B tolerated s.world (s₁.releaseHolding B o).world
  unfold releaseHolding
  rcases s₁.holdings.find? o with _ | old
  · exact single h_operation
  · exact (single h_operation).tail (.released old.id)

theorem keepHandle {h : Name} {answer : Outcome Handle × World σ}
    (h_operation : Operation B tolerated s.world answer.2) :
    Operated B tolerated s (s.keepHandle h answer) := by
  obtain ⟨f | handle, w⟩ := answer
  · exact once h_operation
  · exact once h_operation

/-- A live object is locked, and the answer to the client tells the failure that the lock meets. -/
theorem keepLock {before : Option BufferObject} {id : BufferId} {o : BufferObject}
    (h_live : s.world.objects.find? id = some o) (handle : Handle) (request : LockRequest) :
    Operated B tolerated s
      (s.keepLock before (s.world.lockObject B o handle request)) := by
  intro h_answer
  rcases h_lock : s.world.lockObject B o handle request with ⟨answer, w⟩
  have h_operation : Operation B tolerated s.world w := by
    have h_locked : Operation B tolerated s.world (s.world.lockObject B o handle request).2 := by
      refine .locked h_live handle request fun f h_error => h_answer f ?_
      rw [h_lock] at h_error ⊢
      obtain rfl : answer = .error f := h_error
      rfl
    rw [h_lock] at h_locked
    exact h_locked
  rcases answer with f | address
  · exact single h_operation
  · exact single h_operation

end Operated

theorem lock_operates (m : ManagerId) (h : Name) (request : LockRequest) :
    Operated B tolerated s (s.step B (.lock m h request)) := by
  refine withManager_cases .still fun _ _ => withHandle_cases .still fun handle _ => ?_
  unfold World.lock
  rcases h_object : s.world.object? m handle with _ | o
  · exact .still
  · obtain ⟨id, -, h_live⟩ := World.object?_eq_some_iff.mp h_object
    exact .keepLock h_live handle request

theorem unlock_operates (m : ManagerId) (h : Name) :
    Operated B tolerated s (s.step B (.unlock m h)) := by
  refine withManager_cases .still fun _ _ => withHandle_cases .still fun handle _ => ?_
  unfold World.unlock
  rcases h_object : s.world.object? m handle with _ | o
  · exact .still
  · obtain ⟨id, -, h_live⟩ := World.object?_eq_some_iff.mp h_object
    exact .once (.unlocked h_live)

theorem register_operates (m : ManagerId) (h : Name) :
    Operated B tolerated s (s.step B (.register m h)) := by
  refine withManager_cases .still fun _ _ => withHandle_cases .still fun handle _ => ?_
  -- to the world, registering is resolving with a device at hand
  have h_same : (s.world.register B m handle).2 = (s.world.resolve B m true handle).2 := by
    unfold World.register
    rcases s.world.resolve B m true handle with ⟨f | ⟨_ | id, h'⟩, w⟩ <;> rfl
  refine .keepHandle ?_
  rw [h_same]
  exact .resolved m true handle

theorem resolve_operates (m : ManagerId) (h : Name) (useDevice : Bool) :
    Operated B tolerated s (s.step B (.resolve m h useDevice)) := by
  refine withManager_cases .still fun manager _ => withHandle_cases .still fun handle _ => ?_
  by_cases h_kind : manager.kind ≠ .registry
  · rw [if_pos h_kind]
    exact .still
  rw [if_neg h_kind]
  have h_operation : Operation B tolerated s.world (s.world.resolve B m useDevice handle).2 :=
    .resolved m useDevice handle
  rcases h_resolve : s.world.resolve B m useDevice handle with ⟨f | ⟨found, h'⟩, w⟩
  · rw [h_resolve] at h_operation
    exact .once h_operation
  · rw [h_resolve] at h_operation
    exact .once h_operation

theorem hold_operates (m : ManagerId) (h o : Name) :
    Operated B tolerated s (s.step B (.hold m h o)) := by
  refine withManager_cases .still fun _ _ => withHandle_cases .still fun handle _ => ?_
  have h_operation : Operation B tolerated s.world (s.world.hold m handle).2 := .held m handle
  rcases h_hold : s.world.hold m handle with ⟨e | id, w⟩
  · rw [h_hold] at h_operation
    exact .once h_operation
  · rw [h_hold] at h_operation
    exact .setHolding (s.setWorld w) h_operation

theorem allocate_operates (m : ManagerId) (h o : Name) :
    Operated B tolerated s (s.step B (.allocate m h o)) := by
  refine withManager_cases .still fun _ _ => withHandle_cases .still fun handle _ => ?_
  have h_operation : Operation B tolerated s.world (s.world.allocate B m handle).2 :=
    .allocated m handle
  rcases h_allocate : s.world.allocate B m handle with ⟨f | ⟨id, h'⟩, w⟩
  · rw [h_allocate] at h_operation
    exact .once h_operation
  · rw [h_allocate] at h_operation
    exact .setHolding ((s.setWorld w).setHandle h h') h_operation

theorem importFrom_operates (m : ManagerId) (h o : Name) :
    Operated B tolerated s (s.step B (.importFrom m h o)) := by
  refine withManager_cases .still fun _ _ => withHandle_cases .still fun handle _ => ?_
  have h_operation : Operation B tolerated s.world (s.world.importFrom B m handle).2 :=
    .imported m handle
  rcases h_import : s.world.importFrom B m handle with ⟨f | id, w⟩
  · rw [h_import] at h_operation
    exact .once h_operation
  · rw [h_import] at h_operation
    exact .setHolding (s.setWorld w) h_operation

theorem insert_operates
    (h_live : ∀ o holding, s.holdings.find? o = some holding →
      ∃ object, s.world.objects.find? holding.id = some object) (m : ManagerId) (h o : Name) :
    Operated B tolerated s (s.step B (.insert m h o)) := by
  refine withManager_cases .still fun manager _ => withHandle_cases .still fun handle _ => ?_
  by_cases h_kind : manager.kind ≠ .registry
  · rw [if_pos h_kind]
    exact .still
  rw [if_neg h_kind]
  rcases h_holding : s.holdings.find? o with _ | ⟨id, _ | _⟩
  · exact .still
  · exact .once (.inserted m handle (h_live o _ h_holding))
  · exact .still

/-- Every step goes through the operations of the world. -/
theorem step_operates
    (h_live : ∀ o holding, s.holdings.find? o = some holding →
      ∃ object, s.world.objects.find? holding.id = some object) (step : Step) :
    Operated B tolerated s (s.step B step) := by
  cases step with
  | new h size format usage => exact fun _ => refl
  | duplicate h target =>
    refine withHandle_cases .still fun handle _ => ?_
    rcases handle.duplicate with e | copy
    · exact .still
    · exact fun _ => refl
  | assign h edit => exact withHandle_cases .still fun _ _ _ => refl
  | transfer h target damage courier =>
    refine withHandle_cases .still fun handle _ => ?_
    simp only
    rcases Handle.ofWire (damage.apply handle.toWire.encode) (courier.deliver handle) with
      e | arrived
    · exact .still
    · exact fun _ => refl
  | dropHandle h => exact fun _ => refl
  | dropManager m =>
    simp only [step]
    by_cases h_manager : m < s.world.managers.length
    · rw [if_pos h_manager]
      exact .once (.closed m)
    · rw [if_neg h_manager]
      exact .still
  | create m h size format usage =>
    exact withManager_cases .still fun _ _ => .keepHandle (.created m size format usage)
  | register m h => exact register_operates m h
  | unregister m h =>
    refine withManager_cases .still fun _ _ => withHandle_cases .still fun handle _ => ?_
    exact .keepHandle (.unregistered m handle)
  | lock m h request => exact lock_operates m h request
  | unlock m h => exact unlock_operates m h
  | resolve m h useDevice => exact resolve_operates m h useDevice
  | hold m h o => exact hold_operates m h o
  | allocate m h o => exact allocate_operates m h o
  | importFrom m h o => exact importFrom_operates m h o
  | insert m h o => exact insert_operates h_live m h o
  | lockObject o h request =>
    refine withHandle_cases .still fun handle _ => withObject_cases .still fun id object h_at => ?_
    exact .keepLock h_at handle request
  | unlockObject o =>
    exact withObject_cases .still fun id object h_at => .once (.unlocked h_at)
  | sameObject o other =>
    simp only [step]
    split <;> exact .still
  | holding o =>
    simp only [step]
    split <;> exact .still
  | release o =>
    intro _
    show Operates B tolerated s.world (s.releaseHolding B o).world
    unfold releaseHolding
    rcases s.holdings.find? o with _ | holding
    · exact refl
    · exact single (.released holding.id)

/-! ## Plays -/

theorem after_operates (h : Accounted [] s) (m : Move σ)
    (h_tolerated : ∀ f, (s.move B m).1 = .failed f → tolerated f) :
    (∃ devices, m = .outside devices) ∨ Operates B tolerated s.world (s.after B m).world := by
  cases m with
  | client step =>
    exact .inr (step_operates (fun _ _ h_find => h.live_of_holding h_find) step h_tolerated)
  | receive handle bytes descriptor =>
    -- a handle that arrives is a name only
    have h_world : (s.after B (.receive handle bytes descriptor)).world = s.world := by
      simp only [after, move, receive]
      rcases Handle.ofWire bytes descriptor with e | arrived <;> rfl
    rw [h_world]
    exact .inr refl
  | outside devices => exact .inl ⟨devices, rfl⟩

section Play

variable {J : World σ → Prop} (rule : Session σ → Move σ → Prop)
  (h_tolerated : ∀ s m, rule s m → ∀ f, (s.move B m).1 = .failed f → tolerated f)
  (h_operation : ∀ {w w'}, Operation B tolerated w w' → J w → J w')

include h_tolerated h_operation

/-- What operations keep of a world whose locks end as the rule tolerates, and changes of the
    devices keep that the rule allows, every play keeps that obeys the rule. -/
theorem Accounted.operates_along
    (h_drift : ∀ {s : Session σ} {devices}, rule s (.outside devices) → J s.world →
      J { s.world with env := { s.world.env with devices } })
    (h_accounted : Accounted [] s) (h : J s.world) {moves : List (Move σ)}
    (h_rule : Obeys (after B) rule s moves) : J (s.play B moves).world := by
  refine h_accounted.keeps_along (J := fun s => J s.world) (fun {s m} h_before h_allowed h => ?_) h
    h_rule
  rcases after_operates h_before m (h_tolerated s m h_allowed) with ⟨devices, rfl⟩ | h_operates
  · exact h_drift h_allowed h
  · exact h_operates.keeps h_operation h

/-- What operations and all changes of the devices keep holds at the end of every play from a start
    at which it held. -/
theorem play_operates
    (h_drift : ∀ {w : World σ} devices, J w → J { w with env := { w.env with devices } })
    {devices : σ} {kinds : List ManagerKind} {moves : List (Move σ)}
    (h_start : J (World.start B devices kinds))
    (h_rule : Obeys (after B) rule (start B devices kinds) moves) :
    J ((start B devices kinds).play B moves).world :=
  Accounted.operates_along rule h_tolerated h_operation (fun _ => h_drift _)
    (.start B devices kinds) h_start h_rule

end Play

end GraphicsBuffer.Session
