/-
  GraphicsBuffer.Proofs.Session.Effect

  What a step of a session, or a handle that arrives, can do, in a handful of cases: each names the
  deed and says what becomes of the world, of the keys of the handles and of the references.
  Everything that plays keep is derived from these cases.
-/

import GraphicsBuffer.Proofs.Session.Play
import GraphicsBuffer.Proofs.World.Names

namespace GraphicsBuffer.Session

variable {σ : Type} {B : Backend σ} {lockable : BufferObject → Prop} {s s' : Session σ}

open World (Evolves Claims Retains NamesLive)
open Relation.ReflTransGen (refl single)

/-! ## Keys of handles -/

theorem key?_setHandle (s : Session σ) (h : Name) (handle : Handle) :
    (s.setHandle h handle).key? = Function.update s.key? h handle.registration := by
  funext l
  rw [key?, setHandle, Table.find?_insert, Function.update_apply]
  by_cases h_eq : l = h
  · rw [if_pos h_eq, if_pos h_eq]
    rfl
  · rw [if_neg h_eq, if_neg h_eq]
    rfl

/-- A handle that keeps its registration leaves all keys as they are. -/
theorem key?_setHandle_of_eq {h : Name} {handle handle' : Handle}
    (h_find : s.handles.find? h = some handle) (h_eq : handle'.registration = handle.registration) :
    (s.setHandle h handle').key? = s.key? := by
  rw [key?_setHandle, h_eq, Function.update_eq_self_iff, key?, h_find]
  rfl

theorem key?_erase (s : Session σ) (h : Name) :
    key? { s with handles := s.handles.erase h } = Function.update s.key? h none := by
  funext l
  rw [key?, Table.find?_erase, Function.update_apply]
  by_cases h_eq : l = h
  · rw [if_pos h_eq, if_pos h_eq]
    rfl
  · rw [if_neg h_eq, if_neg h_eq]
    rfl

/-! ## The cases -/

/-- References of the same buffers, one each. -/
def SameReferences (t t' : Table Name Holding) : Prop :=
  t.Distinct → t'.Distinct ∧ (t'.values.map (·.id)).Perm (t.values.map (·.id))

/-- What a step or an arrival does, together with its deed. -/
inductive Effect (B : Backend σ) (lockable : BufferObject → Prop) (s : Session σ) :
    Option Deed → Session σ → Prop where
  /-- At most objects and the environment change, and public fields of a handle. -/
  | went {s' : Session σ} (h_world : Evolves B lockable s.world s'.world)
      (h_keys : s'.key? = s.key?) (h_holdings : s'.holdings = s.holdings) :
    Effect B lockable s none s'
  /-- A name is given a handle that is registered nowhere, or loses its handle. -/
  | reset {s' : Session σ} {h : Name} (h_world : s'.world = s.world)
      (h_keys : s'.key? = Function.update s.key? h none) (h_holdings : s'.holdings = s.holdings) :
    Effect B lockable s (some (.reset h)) s'
  /-- A handle is registered for a buffer. -/
  | bound {s' : Session σ} {m : ManagerId} {h : Name} {id : BufferId} {handle : Handle}
      (h_claims : Claims B lockable s.world m id handle s'.world)
      (h_keys : s'.key? = Function.update s.key? h handle.registration)
      (h_holdings : SameReferences s.holdings s'.holdings) :
    Effect B lockable s (some (.bound m h id)) s'
  /-- A handle gives its entry up. -/
  | freed {s' : Session σ} {m : ManagerId} {h : Name} {key : Key} {manager : Manager}
      {id : BufferId} (h_key : s.key? h = some key) (h_manager : s.world.manager? m = some manager)
      (h_find : manager.buffers.find? key = some id)
      (h_world : Evolves B lockable
        (s.world.setManager m (some { manager with buffers := manager.buffers.erase key }))
        s'.world)
      (h_keys : s'.key? = Function.update s.key? h none) (h_holdings : s'.holdings = s.holdings) :
    Effect B lockable s (some (.freed m h)) s'
  /-- A manager ends. -/
  | closed {s' : Session σ} {m : ManagerId}
      (h_world : Evolves B lockable (s.world.setManager m none) s'.world)
      (h_keys : s'.key? = s.key?) (h_holdings : s'.holdings = s.holdings) :
    Effect B lockable s none s'
  /-- A reference is handed out and kept under a name. -/
  | retained (s₁ : Session σ) (holding : Holding) (o : Name)
      (h_retains : Retains B lockable s.world holding.id s₁.world) (h_keys : s₁.key? = s.key?)
      (h_holdings : s₁.holdings = s.holdings) :
    Effect B lockable s none (s₁.setHolding B o holding)
  /-- A reference is given up. -/
  | released (o : Name) : Effect B lockable s none (s.releaseHolding B o)

namespace Effect

theorem still : Effect B lockable s none s := .went refl rfl rfl

theorem world {w : World σ} (h_world : Evolves B lockable s.world w) :
    Effect B lockable s none (s.setWorld w) := .went h_world rfl rfl

theorem of_named {h : Name} {handle : Handle} (h_handle : handle.registration = none) :
    Effect B lockable s (some (.reset h)) (s.setHandle h handle) :=
  .reset rfl (by rw [key?_setHandle, h_handle]) rfl

theorem of_claims {w : World σ} {m : ManagerId} {h : Name} {id : BufferId} {handle : Handle}
    (h_claims : Claims B lockable s.world m id handle w) :
    Effect B lockable s (some (.bound m h id)) ((s.setWorld w).setHandle h handle) :=
  .bound h_claims (key?_setHandle _ h handle) fun h_distinct => ⟨h_distinct, List.Perm.refl _⟩

end Effect

/-! ## Going on with what is there -/

section Guards

variable (deed : Answer → Option Deed)

theorem withManager_effect {m : ManagerId} {k : Manager → Answer × Session σ}
    (h_refused : deed (.refused .noManager) = none)
    (h_on : ∀ manager, s.world.manager? m = some manager →
      Effect B lockable s (deed (k manager).1) (k manager).2) :
    Effect B lockable s (deed (s.withManager m k).1) (s.withManager m k).2 := by
  unfold withManager
  rcases h_manager : s.world.manager? m with _ | manager
  · simp only [h_refused]
    exact .still
  · exact h_on manager h_manager

theorem withHandle_effect {h : Name} {k : Handle → Answer × Session σ}
    (h_refused : deed (.refused .noHandle) = none)
    (h_on : ∀ handle, s.handles.find? h = some handle →
      Effect B lockable s (deed (k handle).1) (k handle).2) :
    Effect B lockable s (deed (s.withHandle h k).1) (s.withHandle h k).2 := by
  unfold withHandle
  rcases h_find : s.handles.find? h with _ | handle
  · simp only [h_refused]
    exact .still
  · exact h_on handle h_find

theorem withObject_effect {o : Name} {k : BufferObject → Answer × Session σ}
    (h_refused : deed (.refused .noObject) = none)
    (h_on : ∀ id object, s.world.objects.find? id = some object →
      Effect B lockable s (deed (k object).1) (k object).2) :
    Effect B lockable s (deed (s.withObject o k).1) (s.withObject o k).2 := by
  unfold withObject
  rcases h_object : s.heldObject? o with _ | object
  · simp only [h_refused]
    exact .still
  · obtain ⟨holding, -, h_live⟩ := Option.bind_eq_some_iff.mp h_object
    exact h_on holding.id object h_live

/-- A lock of an object, answered. -/
theorem keepLock_effect {before : Option BufferObject} {answer : Outcome (Option Address) × World σ}
    (h_failed : ∀ f, deed (.failed f) = none) (h_locked : ∀ a b, deed (.locked a b) = none)
    (h_world : Evolves B lockable s.world answer.2) :
    Effect B lockable s (deed (s.keepLock before answer).1) (s.keepLock before answer).2 := by
  obtain ⟨f | address, w⟩ := answer
  · simp only [keepLock, h_failed]
    exact .world h_world
  · simp only [keepLock, h_locked]
    exact .world h_world

end Guards

/-! ## Steps on handles -/

section Handles

theorem duplicate_registration {handle copy : Handle} (h_copy : handle.duplicate = .ok copy) :
    copy.registration = none := by
  unfold Handle.duplicate at h_copy
  rcases h_descriptor : handle.descriptor with _ | d
  · rw [h_descriptor] at h_copy
    cases h_copy
    rfl
  · rcases h_duplicate : Kernel.duplicate d with e | d'
    · simp only [h_descriptor, h_duplicate] at h_copy
      exact nomatch h_copy
    · simp only [h_descriptor, h_duplicate] at h_copy
      cases h_copy
      rfl

theorem ofWire_registration {bytes : List UInt8} {descriptor : Option Descriptor} {handle : Handle}
    (h_arrived : Handle.ofWire bytes descriptor = .ok handle) : handle.registration = none := by
  unfold Handle.ofWire at h_arrived
  split at h_arrived
  · exact nomatch h_arrived
  split at h_arrived
  · exact nomatch h_arrived
  split at h_arrived
  · cases h_arrived
    rfl
  · exact nomatch h_arrived

theorem duplicate_effect (h target : Name) :
    Effect B lockable s (s.stepDeed? (.duplicate h target) (s.step B (.duplicate h target)).1)
      (s.step B (.duplicate h target)).2 := by
  refine withHandle_effect (s.stepDeed? (.duplicate h target)) rfl fun handle _ => ?_
  rcases h_copy : handle.duplicate with e | copy
  · exact .still
  · exact .of_named (duplicate_registration h_copy)

theorem assign_effect (h : Name) (edit : HandleEdit) :
    Effect B lockable s (s.stepDeed? (.assign h edit) (s.step B (.assign h edit)).1)
      (s.step B (.assign h edit)).2 :=
  withHandle_effect (s.stepDeed? (.assign h edit)) rfl fun _ h_find =>
    .went refl (key?_setHandle_of_eq h_find rfl) rfl

theorem transfer_effect (h target : Name) (damage : Damage) (courier : Courier) :
    Effect B lockable s
      (s.stepDeed? (.transfer h target damage courier)
        (s.step B (.transfer h target damage courier)).1)
      (s.step B (.transfer h target damage courier)).2 := by
  refine withHandle_effect (s.stepDeed? (.transfer h target damage courier)) rfl
    fun handle _ => ?_
  simp only
  rcases h_arrived : Handle.ofWire (damage.apply handle.toWire.encode) (courier.deliver handle) with
    e | arrived
  · exact .still
  · exact .of_named (ofWire_registration h_arrived)

theorem receive_effect (h : Name) (bytes : List UInt8) (descriptor : Option Descriptor) :
    Effect B lockable s
      (s.deed? (.receive h bytes descriptor) (s.move B (.receive h bytes descriptor)).1)
      (s.move B (.receive h bytes descriptor)).2 := by
  simp only [move, receive]
  rcases h_arrived : Handle.ofWire bytes descriptor with e | handle
  · exact .still
  · exact .of_named (ofWire_registration h_arrived)

end Handles

/-! ## Steps on registrations -/

section Registrations

theorem create_effect (m : ManagerId) (h : Name) (size : Extent) (format : PixelFormat)
    (usage : Usage) :
    Effect B lockable s
      (s.stepDeed? (.create m h size format usage) (s.step B (.create m h size format usage)).1)
      (s.step B (.create m h size format usage)).2 := by
  refine withManager_effect (s.stepDeed? (.create m h size format usage)) rfl
    fun _ _ => ?_
  rcases h_create : s.world.create B m size format usage with ⟨answer, w⟩
  rcases World.create_outcome lockable h_create with
    ⟨f, rfl, h_world⟩ | ⟨handle, rfl, h_claims⟩
  · exact .world h_world
  · exact .of_claims h_claims

theorem key?_of_find? {h : Name} {handle : Handle} (h_find : s.handles.find? h = some handle) :
    s.key? h = handle.registration := by
  rw [key?, h_find]
  rfl

theorem register_effect (m : ManagerId) (h : Name) :
    Effect B lockable s (s.stepDeed? (.register m h) (s.step B (.register m h)).1)
      (s.step B (.register m h)).2 := by
  refine withManager_effect (s.stepDeed? (.register m h)) rfl fun _ _ => ?_
  refine withHandle_effect (s.stepDeed? (.register m h)) rfl fun handle h_find => ?_
  have h_key := key?_of_find? h_find
  rcases h_register : s.world.register B m handle with ⟨answer, w⟩
  -- a handle that was registered already is given back as it is, and that is no deed
  rcases World.register_outcome lockable h_register with
    ⟨f, rfl, h_world⟩ | ⟨h_owned, rfl, rfl⟩ | ⟨handle', h_unowned, rfl, h_claims⟩
  · exact .world h_world
  · rw [← h_key] at h_owned
    simp only [keepHandle, stepDeed?, if_neg h_owned]
    exact .went refl (key?_setHandle_of_eq h_find rfl) rfl
  · rw [← h_key] at h_unowned
    simp only [keepHandle, stepDeed?, if_pos h_unowned]
    exact .of_claims h_claims

theorem unregister_effect (m : ManagerId) (h : Name) :
    Effect B lockable s (s.stepDeed? (.unregister m h) (s.step B (.unregister m h)).1)
      (s.step B (.unregister m h)).2 := by
  refine withManager_effect (s.stepDeed? (.unregister m h)) rfl fun _ _ => ?_
  refine withHandle_effect (s.stepDeed? (.unregister m h)) rfl fun handle h_find => ?_
  rcases h_unregister : s.world.unregister B m handle with ⟨answer, w⟩
  rcases World.unregister_outcome lockable h_unregister with
    ⟨f, rfl, rfl⟩ | ⟨key, manager, id, h_key, h_manager, h_entry, rfl, h_world⟩
  · exact .still
  · exact .freed ((key?_of_find? h_find).trans h_key) h_manager h_entry h_world
      (key?_setHandle _ h _) rfl

theorem resolve_effect (m : ManagerId) (h : Name) (useDevice : Bool) :
    Effect B lockable s
      (s.stepDeed? (.resolve m h useDevice) (s.step B (.resolve m h useDevice)).1)
      (s.step B (.resolve m h useDevice)).2 := by
  refine withManager_effect (s.stepDeed? (.resolve m h useDevice)) rfl
    fun manager _ => ?_
  refine withHandle_effect (s.stepDeed? (.resolve m h useDevice)) rfl
    fun handle h_find => ?_
  have h_key := key?_of_find? h_find
  by_cases h_kind : manager.kind ≠ .registry
  · simp only [if_pos h_kind]
    exact .still
  simp only [if_neg h_kind]
  rcases h_resolve : s.world.resolve B m useDevice handle with ⟨answer, w⟩
  rcases World.resolve_outcome lockable h_resolve with
    ⟨f, rfl, h_world⟩ | ⟨found, rfl, rfl, h_found⟩ | ⟨handle', h_unowned, rfl, h_claims⟩
  · exact .world h_world
  · -- nothing was imported: whether a buffer was found is told, and the handle keeps its key
    have h_went : Effect B lockable s none (s.setHandle h handle) :=
      .went refl (key?_setHandle_of_eq h_find rfl) rfl
    rcases found with _ | id
    · exact h_went
    · have h_owned : s.key? h ≠ none := fun h_unowned => nomatch h_found (h_key ▸ h_unowned)
      simp only [Option.isSome_some, stepDeed?, if_neg h_owned]
      exact h_went
  · rw [← h_key] at h_unowned
    simp only [Option.isSome_some, stepDeed?, if_pos h_unowned]
    exact .of_claims h_claims

/-- A reference that is marked as shared is still the same reference. -/
theorem sameReferences_insert {t : Table Name Holding} {o : Name} {holding holding' : Holding}
    (h_find : t.find? o = some holding) (h_id : holding'.id = holding.id) :
    SameReferences t (t.insert o holding') := by
  intro h_distinct
  refine ⟨h_distinct.insert o holding', ?_⟩
  rw [Table.values_insert, List.map_append, List.map_singleton, h_id]
  exact List.perm_append_singleton _ _ |>.trans ((h_distinct.values_perm h_find).map _).symm

theorem insert_effect
    (h_live : ∀ o holding, s.holdings.find? o = some holding →
      ∃ object, s.world.objects.find? holding.id = some object) (m : ManagerId) (h o : Name) :
    Effect B lockable s (s.stepDeed? (.insert m h o) (s.step B (.insert m h o)).1)
      (s.step B (.insert m h o)).2 := by
  refine withManager_effect (s.stepDeed? (.insert m h o)) rfl
    fun manager h_manager => ?_
  refine withHandle_effect (s.stepDeed? (.insert m h o)) rfl fun handle h_find => ?_
  by_cases h_kind : manager.kind ≠ .registry
  · simp only [if_pos h_kind]
    exact .still
  simp only [if_neg h_kind]
  rcases h_holding : s.holdings.find? o with _ | ⟨id, _ | _⟩
  · exact .still
  · -- only a reference that is not shared yet can be inserted
    have h_claims : Claims B lockable s.world m id _ _ :=
      World.insert_outcome (h := handle) ⟨manager, h_manager⟩ (h_live o _ h_holding)
    simp only [stepDeed?, h_holding, Option.map_some]
    exact .bound h_claims (key?_setHandle _ h _) (sameReferences_insert h_holding rfl)
  · exact .still

theorem dropManager_effect (m : ManagerId) :
    Effect B lockable s (s.stepDeed? (.dropManager m) (s.step B (.dropManager m)).1)
      (s.step B (.dropManager m)).2 := by
  simp only [step]
  by_cases h_manager : m < s.world.managers.length
  · rw [if_pos h_manager]
    -- a manager that has ended already ends no more
    rcases World.dropManager_evolves B lockable s.world m with
      h_same | h_world
    · rw [h_same]
      exact .still
    · exact .closed h_world rfl rfl
  · rw [if_neg h_manager]
    exact .still

end Registrations

/-! ## Steps on locks and references -/

section References

theorem lock_effect (h_lockable : ∀ o ∈ s.world.objects.values, lockable o) (m : ManagerId)
    (h : Name) (request : LockRequest) :
    Effect B lockable s (s.stepDeed? (.lock m h request) (s.step B (.lock m h request)).1)
      (s.step B (.lock m h request)).2 := by
  refine withManager_effect (s.stepDeed? (.lock m h request)) rfl fun _ _ => ?_
  refine withHandle_effect (s.stepDeed? (.lock m h request)) rfl fun handle _ => ?_
  exact keepLock_effect (s.stepDeed? (.lock m h request)) (fun _ => rfl) (fun _ _ => rfl)
    (World.lock_evolves h_lockable request)

theorem unlock_effect (m : ManagerId) (h : Name) :
    Effect B lockable s (s.stepDeed? (.unlock m h) (s.step B (.unlock m h)).1)
      (s.step B (.unlock m h)).2 := by
  refine withManager_effect (s.stepDeed? (.unlock m h)) rfl fun _ _ => ?_
  refine withHandle_effect (s.stepDeed? (.unlock m h)) rfl fun handle _ => ?_
  have h_world : Evolves B lockable s.world (s.world.unlock B m handle).2 := World.unlock_evolves
  rcases h_unlock : s.world.unlock B m handle with ⟨e | ⟨⟩, w⟩
  · rw [h_unlock] at h_world
    exact .world h_world
  · rw [h_unlock] at h_world
    exact .world h_world

theorem lockObject_effect (h_lockable : ∀ o ∈ s.world.objects.values, lockable o) (o h : Name)
    (request : LockRequest) :
    Effect B lockable s
      (s.stepDeed? (.lockObject o h request) (s.step B (.lockObject o h request)).1)
      (s.step B (.lockObject o h request)).2 := by
  refine withHandle_effect (s.stepDeed? (.lockObject o h request)) rfl
    fun handle _ => ?_
  refine withObject_effect (s.stepDeed? (.lockObject o h request)) rfl
    fun id object h_live => ?_
  exact keepLock_effect (s.stepDeed? (.lockObject o h request)) (fun _ => rfl)
    (fun _ _ => rfl)
    (single (.locked h_live (h_lockable object (Table.mem_values_of_find? h_live)) handle request))

theorem unlockObject_effect (o : Name) :
    Effect B lockable s (s.stepDeed? (.unlockObject o) (s.step B (.unlockObject o)).1)
      (s.step B (.unlockObject o)).2 :=
  withObject_effect (s.stepDeed? (.unlockObject o)) rfl fun _ _ h_live =>
    .world (single (.unlocked h_live))

theorem hold_effect (h_names : NamesLive s.world) (m : ManagerId) (h o : Name) :
    Effect B lockable s (s.stepDeed? (.hold m h o) (s.step B (.hold m h o)).1)
      (s.step B (.hold m h o)).2 := by
  refine withManager_effect (s.stepDeed? (.hold m h o)) rfl fun _ _ => ?_
  refine withHandle_effect (s.stepDeed? (.hold m h o)) rfl fun handle _ => ?_
  rcases h_hold : s.world.hold m handle with ⟨answer, w⟩
  rcases World.hold_outcome B lockable h_names h_hold with
    ⟨e, rfl, rfl⟩ | ⟨id, rfl, h_retains⟩
  · exact .still
  · exact .retained (s.setWorld w) ⟨id, true⟩ o h_retains rfl rfl

theorem allocate_effect (m : ManagerId) (h o : Name) :
    Effect B lockable s (s.stepDeed? (.allocate m h o) (s.step B (.allocate m h o)).1)
      (s.step B (.allocate m h o)).2 := by
  refine withManager_effect (s.stepDeed? (.allocate m h o)) rfl fun _ _ => ?_
  refine withHandle_effect (s.stepDeed? (.allocate m h o)) rfl fun handle h_find => ?_
  rcases h_allocate : s.world.allocate B m handle with ⟨answer, w⟩
  rcases World.allocate_retains lockable h_allocate with
    ⟨f, rfl, h_world⟩ | ⟨id, handle', rfl, h_registration, h_retains⟩
  · exact .world h_world
  · exact .retained ((s.setWorld w).setHandle h handle') ⟨id, false⟩ o h_retains
      (key?_setHandle_of_eq h_find h_registration) rfl

theorem importFrom_effect (m : ManagerId) (h o : Name) :
    Effect B lockable s (s.stepDeed? (.importFrom m h o) (s.step B (.importFrom m h o)).1)
      (s.step B (.importFrom m h o)).2 := by
  refine withManager_effect (s.stepDeed? (.importFrom m h o)) rfl fun _ _ => ?_
  refine withHandle_effect (s.stepDeed? (.importFrom m h o)) rfl fun handle h_find => ?_
  rcases h_import : s.world.importFrom B m handle with ⟨answer, w⟩
  rcases World.importFrom_retains lockable h_import with
    ⟨f, rfl, h_world⟩ | ⟨id, rfl, h_retains⟩
  · exact .world h_world
  · exact .retained (s.setWorld w) ⟨id, false⟩ o h_retains rfl rfl

/-- Looking at references changes nothing. -/
theorem sameObject_effect (o other : Name) :
    Effect B lockable s (s.stepDeed? (.sameObject o other) (s.step B (.sameObject o other)).1)
      (s.step B (.sameObject o other)).2 := by
  simp only [step]
  split <;> exact .still

theorem holding_effect (o : Name) :
    Effect B lockable s (s.stepDeed? (.holding o) (s.step B (.holding o)).1)
      (s.step B (.holding o)).2 := by
  simp only [step]
  split <;> exact .still

end References

/-! ## Every step -/

theorem step_effect (h_names : NamesLive s.world)
    (h_live : ∀ o holding, s.holdings.find? o = some holding →
      ∃ object, s.world.objects.find? holding.id = some object)
    (h_lockable : ∀ o ∈ s.world.objects.values, lockable o) (step : Step) :
    Effect B lockable s (s.stepDeed? step (s.step B step).1) (s.step B step).2 := by
  -- one case for each step; the keys of handles decide about deeds, the guards about refusals
  cases step with
  | new h size format usage => exact .of_named rfl
  | duplicate h target => exact duplicate_effect h target
  | assign h edit => exact assign_effect h edit
  | transfer h target damage courier => exact transfer_effect h target damage courier
  | dropHandle h => exact .reset rfl (key?_erase s h) rfl
  | dropManager m => exact dropManager_effect m
  | create m h size format usage => exact create_effect m h size format usage
  | register m h => exact register_effect m h
  | unregister m h => exact unregister_effect m h
  | lock m h request => exact lock_effect h_lockable m h request
  | unlock m h => exact unlock_effect m h
  | resolve m h useDevice => exact resolve_effect m h useDevice
  | hold m h o => exact hold_effect h_names m h o
  | allocate m h o => exact allocate_effect m h o
  | importFrom m h o => exact importFrom_effect m h o
  | insert m h o => exact insert_effect h_live m h o
  | lockObject o h request => exact lockObject_effect h_lockable o h request
  | unlockObject o => exact unlockObject_effect o
  | sameObject o other => exact sameObject_effect o other
  | holding o => exact holding_effect o
  | release o => exact .released o

end GraphicsBuffer.Session
