/-
  GraphicsBuffer.Proofs.Session.Exclusive

  No buffer has two entries. Tables take a buffer in when it is new, or when a client that holds the
  only reference to it puts it into one; from then on the reference is shared, and a shared
  reference is not taken in again. So handles with different keys never stand for one buffer.
-/

import GraphicsBuffer.Proofs.Session.Operation
import GraphicsBuffer.Proofs.Session.Resolution
import Mathlib.Data.List.Induction

namespace GraphicsBuffer

/-! ## Entries of tables -/

namespace World

variable {σ : Type} {B : Backend σ} {lockable : BufferObject → Prop} {w w' : World σ}
  {m : ManagerId} {manager : Manager}

/-- The buffer that the table of a manager has under a key. -/
def entryAt (w : World σ) (place : ManagerId × Key) : Option BufferId :=
  (w.manager? place.1).bind (·.buffers.find? place.2)

theorem entryAt_eq_some_iff {place : ManagerId × Key} {id : BufferId} :
    w.entryAt place = some id ↔
      ∃ manager, w.manager? place.1 = some manager ∧ manager.buffers.find? place.2 = some id :=
  Option.bind_eq_some_iff

theorem registered_of_entryAt {place : ManagerId × Key} {id : BufferId}
    (h_entry : w.entryAt place = some id) : id ∈ w.registered := by
  obtain ⟨manager, h_manager, h_find⟩ := entryAt_eq_some_iff.mp h_entry
  exact mem_registered.mpr ⟨_, manager, h_manager, Table.mem_values_of_find? h_find⟩

theorem Evolves.entryAt_eq (h_evolves : Evolves B lockable w w') : w'.entryAt = w.entryAt := by
  funext place
  rw [entryAt, h_evolves.manager?_eq, entryAt]

theorem entryAt_insert (h_manager : w.manager? m = some manager) (key : Key) (id : BufferId) :
    (w.setManager m (some { manager with buffers := manager.buffers.insert key id })).entryAt =
      Function.update w.entryAt (m, key) (some id) := by
  funext ⟨l, key'⟩
  simp only [entryAt, manager?_setManager h_manager, Function.update_apply, Prod.mk.injEq]
  by_cases h_l : l = m
  · subst h_l
    simp only [if_true, true_and, Option.bind_some, h_manager, Table.find?_insert]
  · simp only [h_l, if_false, false_and]

theorem entryAt_erase (h_manager : w.manager? m = some manager) (key : Key) :
    (w.setManager m (some { manager with buffers := manager.buffers.erase key })).entryAt =
      Function.update w.entryAt (m, key) none := by
  funext ⟨l, key'⟩
  simp only [entryAt, manager?_setManager h_manager, Function.update_apply, Prod.mk.injEq]
  by_cases h_l : l = m
  · subst h_l
    simp only [if_true, true_and, Option.bind_some, h_manager, Table.find?_erase]
  · simp only [h_l, if_false, false_and]

theorem entryAt_close {place : ManagerId × Key} {id : BufferId}
    (h_entry : (w.setManager m none).entryAt place = some id) : w.entryAt place = some id := by
  obtain ⟨manager, h_manager, h_find⟩ := entryAt_eq_some_iff.mp h_entry
  rw [manager?_setManager_none] at h_manager
  split at h_manager
  · exact nomatch h_manager
  · exact entryAt_eq_some_iff.mpr ⟨manager, h_manager, h_find⟩

theorem Claims.entryAt_eq {id : BufferId} {h' : Handle}
    (h_claims : Claims B lockable w m id h' w') :
    w'.entryAt = Function.update w.entryAt (m, w.nextKey) (some id) := by
  obtain ⟨h_evolves, h_manager, -, -⟩ := h_claims
  rw [← h_evolves.manager?_eq] at h_manager
  rw [← h_evolves.entryAt_eq, ← h_evolves.nextKey_eq]
  exact entryAt_insert h_manager _ id

end World

/-! ## The invariant -/

/-- What holds of the entries of all tables and of the references that a client keeps. -/
structure Exclusive (entries : ManagerId × Key → Option BufferId)
    (holdings : Name → Option Holding) : Prop where
  /-- No buffer has two entries. -/
  entries_own : ∀ {place place' id}, entries place = some id → entries place' = some id →
    place = place'
  /-- A buffer that only the client has a reference to has no entry. -/
  unshared_free : ∀ {o id place}, holdings o = some ⟨id, false⟩ → entries place ≠ some id
  /-- The client keeps that reference under one name. -/
  unshared_own : ∀ {o o' id shared}, holdings o = some ⟨id, false⟩ →
    holdings o' = some ⟨id, shared⟩ → o = o'

/-- A buffer that no entry and no reference names yet. -/
def Unnamed (entries : ManagerId × Key → Option BufferId) (holdings : Name → Option Holding)
    (id : BufferId) : Prop :=
  (∀ place, entries place ≠ some id) ∧ ∀ o shared, holdings o ≠ some ⟨id, shared⟩

namespace Exclusive

variable {entries entries' : ManagerId × Key → Option BufferId}
  {holdings holdings' : Name → Option Holding} {id : BufferId}

/-- Entries may go, and references. -/
theorem mono (h : Exclusive entries holdings)
    (h_entries : ∀ {place id}, entries' place = some id → entries place = some id)
    (h_holdings : ∀ {o holding}, holdings' o = some holding → holdings o = some holding) :
    Exclusive entries' holdings' where
  entries_own h_place h_place' := h.entries_own (h_entries h_place) (h_entries h_place')
  unshared_free h_o h_place := h.unshared_free (h_holdings h_o) (h_entries h_place)
  unshared_own h_o h_o' := h.unshared_own (h_holdings h_o) (h_holdings h_o')

/-- A new buffer gets an entry. -/
theorem enter (h : Exclusive entries holdings) (h_id : Unnamed entries holdings id)
    (place : ManagerId × Key) : Exclusive (Function.update entries place (some id)) holdings where
  entries_own h_place h_place' := by
    obtain ⟨rfl, ⟨⟩⟩ | ⟨-, h_old⟩ := update_eq_some_iff.mp h_place
    · obtain ⟨rfl, -⟩ | ⟨-, h_old'⟩ := update_eq_some_iff.mp h_place'
      · rfl
      · exact absurd h_old' (h_id.1 _)
    · obtain ⟨-, ⟨⟩⟩ | ⟨-, h_old'⟩ := update_eq_some_iff.mp h_place'
      · exact absurd h_old (h_id.1 _)
      · exact h.entries_own h_old h_old'
  unshared_free h_o h_place := by
    obtain ⟨-, ⟨⟩⟩ | ⟨-, h_old⟩ := update_eq_some_iff.mp h_place
    · exact h_id.2 _ _ h_o
    · exact h.unshared_free h_o h_old
  unshared_own := h.unshared_own

/-- A buffer gets an entry that the client had the only reference to; the reference is shared from
    then on. -/
theorem insert (h : Exclusive entries holdings) {o : Name} (h_o : holdings o = some ⟨id, false⟩)
    (place : ManagerId × Key) :
    Exclusive (Function.update entries place (some id))
      (Function.update holdings o (some ⟨id, true⟩)) where
  entries_own h_place h_place' := by
    obtain ⟨rfl, ⟨⟩⟩ | ⟨-, h_old⟩ := update_eq_some_iff.mp h_place
    · obtain ⟨rfl, -⟩ | ⟨-, h_old'⟩ := update_eq_some_iff.mp h_place'
      · rfl
      · exact absurd h_old' (h.unshared_free h_o)
    · obtain ⟨-, ⟨⟩⟩ | ⟨-, h_old'⟩ := update_eq_some_iff.mp h_place'
      · exact absurd h_old (h.unshared_free h_o)
      · exact h.entries_own h_old h_old'
  unshared_free h_l h_place := by
    obtain ⟨-, ⟨⟩⟩ | ⟨h_ne, h_l⟩ := update_eq_some_iff.mp h_l
    obtain ⟨-, ⟨⟩⟩ | ⟨-, h_old⟩ := update_eq_some_iff.mp h_place
    · exact h_ne (h.unshared_own h_l h_o)
    · exact h.unshared_free h_l h_old
  unshared_own h_l h_l' := by
    obtain ⟨-, ⟨⟩⟩ | ⟨-, h_old⟩ := update_eq_some_iff.mp h_l
    obtain ⟨rfl, ⟨⟩⟩ | ⟨-, h_old'⟩ := update_eq_some_iff.mp h_l'
    · exact h.unshared_own h_old h_o
    · exact h.unshared_own h_old h_old'

/-- A reference to a buffer that has an entry is handed out. -/
theorem hold (h : Exclusive entries holdings) {place : ManagerId × Key}
    (h_entry : entries place = some id) (o : Name) :
    Exclusive entries (Function.update holdings o (some ⟨id, true⟩)) where
  entries_own := h.entries_own
  unshared_free h_l h_place := by
    obtain ⟨-, ⟨⟩⟩ | ⟨-, h_l⟩ := update_eq_some_iff.mp h_l
    exact h.unshared_free h_l h_place
  unshared_own h_l h_l' := by
    obtain ⟨-, ⟨⟩⟩ | ⟨-, h_l⟩ := update_eq_some_iff.mp h_l
    obtain ⟨-, ⟨⟩⟩ | ⟨-, h_l'⟩ := update_eq_some_iff.mp h_l'
    · exact absurd h_entry (h.unshared_free h_l)
    · exact h.unshared_own h_l h_l'

/-- The only reference to a new buffer is kept. -/
theorem keep (h : Exclusive entries holdings) (h_id : Unnamed entries holdings id) (o : Name) :
    Exclusive entries (Function.update holdings o (some ⟨id, false⟩)) where
  entries_own := h.entries_own
  unshared_free h_l h_place := by
    obtain ⟨-, ⟨⟩⟩ | ⟨-, h_l⟩ := update_eq_some_iff.mp h_l
    · exact h_id.1 _ h_place
    · exact h.unshared_free h_l h_place
  unshared_own h_l h_l' := by
    obtain ⟨rfl, ⟨⟩⟩ | ⟨-, h_l⟩ := update_eq_some_iff.mp h_l
    · obtain ⟨rfl, -⟩ | ⟨-, h_l'⟩ := update_eq_some_iff.mp h_l'
      · rfl
      · exact absurd h_l' (h_id.2 _ _)
    · obtain ⟨-, ⟨⟩⟩ | ⟨-, h_l'⟩ := update_eq_some_iff.mp h_l'
      · exact absurd h_l (h_id.2 _ _)
      · exact h.unshared_own h_l h_l'

end Exclusive

/-! ## Sessions -/

namespace Session

variable {σ : Type} {B : Backend σ} {lockable : BufferObject → Prop} {s s' : Session σ}

open World (Evolves Claims Numbered)

/-- No two entries of the tables of a session are for one buffer. -/
def EntriesOwn (s : Session σ) : Prop := Exclusive s.world.entryAt s.holdings.find?

/-- Nothing names the next buffer yet. -/
theorem Accounted.next_unnamed (h : Accounted [] s)
    (h_numbered : Numbered s.world.env s.world.objects) :
    Unnamed s.world.entryAt s.holdings.find? s.world.env.nextBuffer := by
  have h_dead : ∀ o, s.world.objects.find? s.world.env.nextBuffer ≠ some o :=
    fun o h_find => Nat.lt_irrefl _ (h_numbered _ o h_find).2
  refine ⟨fun place h_entry => ?_, fun o shared h_find => ?_⟩
  · obtain ⟨o, h_live⟩ := h.names _ (.inl (World.registered_of_entryAt h_entry))
    exact h_dead o h_live
  · obtain ⟨object, h_live⟩ := h.live_of_holding h_find
    exact h_dead object h_live

theorem releaseHolding_entryAt (s : Session σ) (o : Name) :
    (s.releaseHolding B o).world.entryAt = s.world.entryAt := by
  unfold releaseHolding
  rcases s.holdings.find? o with _ | holding
  · rfl
  have h_reap : Evolves B (fun _ => True) _ (s.world.release B holding.id) :=
    World.reap_evolves _ holding.id
  exact h_reap.entryAt_eq

theorem find?_releaseHolding (s : Session σ) (o : Name) :
    (s.releaseHolding B o).holdings.find? = Function.update s.holdings.find? o none := by
  rw [releaseHolding]
  rcases h_find : s.holdings.find? o with _ | holding
  · exact (Function.update_eq_self_iff.mpr h_find.symm).symm
  · exact Table.find?_erase_eq_update _ _

theorem find?_setHolding (s : Session σ) (o : Name) (holding : Holding) :
    (s.setHolding B o holding).holdings.find? =
      Function.update s.holdings.find? o (some holding) := by
  rw [setHolding, Table.find?_insert_eq_update, find?_releaseHolding, Function.update_idem]

namespace EntriesOwn

theorem start (B : Backend σ) (devices : σ) (kinds : List ManagerKind) :
    EntriesOwn (start B devices kinds) where
  entries_own h_entry := by
    obtain ⟨manager, h_manager, h_find⟩ := World.entryAt_eq_some_iff.mp h_entry
    rw [World.start_buffers h_manager] at h_find
    exact nomatch h_find
  unshared_free := nofun
  unshared_own := nofun

/-- Entries may go. -/
theorem mono (h : EntriesOwn s) (h_entries : ∀ {place id}, s'.world.entryAt place = some id →
    s.world.entryAt place = some id) (h_holdings : s'.holdings = s.holdings) : EntriesOwn s' := by
  rw [EntriesOwn, h_holdings]
  exact Exclusive.mono h h_entries (fun h_find => h_find)

theorem evolves {w : World σ} (h : EntriesOwn s) (h_world : Evolves B lockable s.world w) :
    EntriesOwn (s.setWorld w) :=
  h.mono (fun h_entry => by rw [← h_world.entryAt_eq]; exact h_entry) rfl

theorem claims {w : World σ} {m : ManagerId} {id : BufferId} {handle : Handle}
    (h : EntriesOwn s) (h_id : Unnamed s.world.entryAt s.holdings.find? id)
    (h_claims : Claims B lockable s.world m id handle w) : EntriesOwn (s.setWorld w) := by
  show Exclusive w.entryAt s.holdings.find?
  rw [h_claims.entryAt_eq]
  exact h.enter h_id _

theorem keepHandle {name : Name} {answer : Outcome Handle × World σ}
    (h : EntriesOwn (s.setWorld answer.2)) : EntriesOwn (s.keepHandle name answer).2 := by
  obtain ⟨f | handle, w⟩ := answer <;> exact h

theorem keepLock {before : Option BufferObject} {answer : Outcome (Option Address) × World σ}
    (h : EntriesOwn (s.setWorld answer.2)) : EntriesOwn (s.keepLock before answer).2 := by
  obtain ⟨f | address, w⟩ := answer <;> exact h

theorem setHolding {o : Name} {holding : Holding}
    (h : Exclusive s.world.entryAt (Function.update s.holdings.find? o (some holding))) :
    EntriesOwn (s.setHolding B o holding) := by
  rw [EntriesOwn, find?_setHolding]
  have h_entries : (s.setHolding B o holding).world.entryAt = s.world.entryAt :=
    releaseHolding_entryAt s o
  rw [h_entries]
  exact h

theorem register {m : ManagerId} {handle : Handle} (h : EntriesOwn s)
    (h_next : Unnamed s.world.entryAt s.holdings.find? s.world.env.nextBuffer) :
    EntriesOwn (s.setWorld (s.world.register B m handle).2) := by
  rcases h_call : s.world.register B m handle with ⟨answer, w⟩
  rcases World.register_outcome (fun _ => True) h_call with
    ⟨f, -, h_world⟩ | ⟨-, -, rfl⟩ | ⟨handle', -, -, h_claims⟩
  · exact h.evolves h_world
  · exact h
  · exact h.claims h_next h_claims

theorem unregister {m : ManagerId} {handle : Handle} (h : EntriesOwn s) :
    EntriesOwn (s.setWorld (s.world.unregister B m handle).2) := by
  rcases h_call : s.world.unregister B m handle with ⟨answer, w⟩
  rcases World.unregister_outcome (fun _ => True) h_call with
    ⟨f, -, rfl⟩ | ⟨key, manager, id, -, h_manager, -, -, h_world⟩
  · exact h
  refine h.mono (fun {place id'} h_entry => ?_) rfl
  rw [show (s.setWorld w).world.entryAt = _ from h_world.entryAt_eq,
    World.entryAt_erase h_manager] at h_entry
  obtain ⟨-, ⟨⟩⟩ | ⟨-, h_old⟩ := update_eq_some_iff.mp h_entry
  exact h_old

theorem resolve {m : ManagerId} {useDevice : Bool} {handle : Handle} (h : EntriesOwn s)
    (h_next : Unnamed s.world.entryAt s.holdings.find? s.world.env.nextBuffer) :
    EntriesOwn (s.setWorld (s.world.resolve B m useDevice handle).2) := by
  rcases h_call : s.world.resolve B m useDevice handle with ⟨answer, w⟩
  rcases World.resolve_outcome (fun _ => True) h_call with
    ⟨f, -, h_world⟩ | ⟨found, -, rfl, -⟩ | ⟨handle', -, -, h_claims⟩
  · exact h.evolves h_world
  · exact h
  · exact h.claims h_next h_claims

/-- A new buffer that the client keeps for itself is in no table. -/
theorem keeps {id : BufferId} (h : EntriesOwn s)
    (h_id : Unnamed s.world.entryAt s.holdings.find? id)
    (h_entries : s'.world.entryAt = s.world.entryAt) (h_holdings : s'.holdings = s.holdings)
    (o : Name) : EntriesOwn (s'.setHolding B o ⟨id, false⟩) := by
  refine setHolding ?_
  rw [h_entries, h_holdings]
  exact h.keep h_id o

/-- Every step keeps the entries of tables for different buffers. -/
theorem step (h_own : EntriesOwn s) (h_accounted : Accounted [] s)
    (h_numbered : Numbered s.world.env s.world.objects) (step : Step) :
    EntriesOwn (s.step B step).2 := by
  have h_next := h_accounted.next_unnamed h_numbered
  have h_manager : ∀ {m k}, (∀ manager, s.world.manager? m = some manager →
      EntriesOwn (k manager).2) → EntriesOwn (s.withManager m k).2 :=
    fun h_on => withManager_cases (P := fun r => EntriesOwn r.2) h_own h_on
  have h_handle : ∀ {h k}, (∀ handle, EntriesOwn (k handle).2) →
      EntriesOwn (s.withHandle h k).2 :=
    fun h_on => withHandle_cases (P := fun r => EntriesOwn r.2) h_own fun handle _ => h_on handle
  cases step with
  | new _ _ _ _ => exact h_own
  | duplicate _ _ =>
    refine h_handle fun handle => ?_
    rcases handle.duplicate with e | copy <;> exact h_own
  | assign _ _ => exact h_handle fun _ => h_own
  | transfer _ _ _ _ =>
    refine h_handle fun handle => ?_
    simp only
    rcases Handle.ofWire _ _ with e | arrived <;> exact h_own
  | dropHandle _ => exact h_own
  | dropManager m =>
    simp only [Session.step]
    split
    · rcases World.dropManager_evolves B (fun _ => True) s.world m with h_same | h_world
      · rw [h_same]
        exact h_own
      · refine h_own.mono (fun h_entry => ?_) rfl
        rw [show (s.setWorld (s.world.dropManager B m)).world.entryAt = _ from
          h_world.entryAt_eq] at h_entry
        exact World.entryAt_close h_entry
    · exact h_own
  | create m _ size format usage =>
    refine h_manager fun _ _ => keepHandle ?_
    rcases h_call : s.world.create B m size format usage with ⟨answer, w⟩
    rcases World.create_outcome (fun _ => True) h_call with ⟨f, -, h_world⟩ | ⟨_, -, h_claims⟩
    · exact h_own.evolves h_world
    · exact h_own.claims h_next h_claims
  | register _ _ => exact h_manager fun _ _ => h_handle fun _ => keepHandle (h_own.register h_next)
  | unregister _ _ => exact h_manager fun _ _ => h_handle fun _ => keepHandle h_own.unregister
  | lock _ _ request =>
    exact h_manager fun _ _ => h_handle fun _ => keepLock
      (h_own.evolves (World.lock_evolves (fun _ _ => True.intro) request))
  | unlock m _ =>
    refine h_manager fun _ _ => h_handle fun handle => ?_
    have h_world : Evolves B (fun _ => True) s.world (s.world.unlock B m handle).2 :=
      World.unlock_evolves
    rcases h_call : s.world.unlock B m handle with ⟨e | ⟨⟩, w⟩ <;>
      exact h_own.evolves (h_call ▸ h_world)
  | resolve m _ useDevice =>
    refine h_manager fun manager _ => h_handle fun handle => ?_
    have h_resolved : EntriesOwn (s.setWorld (s.world.resolve B m useDevice handle).2) :=
      h_own.resolve h_next
    split
    · exact h_own
    · rcases h_call : s.world.resolve B m useDevice handle with ⟨f | ⟨found, handle'⟩, w⟩ <;>
        rw [h_call] at h_resolved <;> exact h_resolved
  | hold m _ o =>
    refine h_manager fun _ _ => h_handle fun handle => ?_
    simp only [World.hold]
    rcases h_lookup : s.world.lookup m handle with _ | id
    · exact h_own
    · obtain ⟨key, -, h_entry⟩ := Option.bind_eq_some_iff.mp h_lookup
      have h_place : s.world.entryAt (m, key) = some id := h_entry
      exact setHolding (h_own.hold h_place o)
  | allocate m _ o =>
    refine h_manager fun _ _ => h_handle fun handle => ?_
    simp only [World.allocate]
    rcases h_call : BufferObject.allocate B m handle s.world.env with ⟨f | ⟨object, handle'⟩, env⟩
    · exact h_own
    · obtain ⟨rfl, -, -⟩ := BufferObject.allocate_ok h_call
      refine h_own.keeps h_next ?_ ?_ o <;> rfl
  | importFrom m _ o =>
    refine h_manager fun _ _ => h_handle fun handle => ?_
    simp only [World.importFrom]
    rcases h_call : BufferObject.importFrom B m handle s.world.env with ⟨f | object, env⟩
    · exact h_own
    · obtain ⟨rfl, -⟩ := BufferObject.importFrom_ok h_call
      refine h_own.keeps h_next ?_ ?_ o <;> rfl
  | insert m _ o =>
    refine h_manager fun manager h_manager => h_handle fun handle => ?_
    split
    · exact h_own
    rcases h_holding : s.holdings.find? o with _ | ⟨id, _ | _⟩
    · exact h_own
    · -- the reference that only the client had is the one that the table shares from now on
      have h_inserted := Exclusive.insert h_own h_holding (m, s.world.nextKey)
      rw [← World.entryAt_insert h_manager, ← Table.find?_insert_eq_update] at h_inserted
      simp only [World.insert, h_manager]
      exact h_inserted
    · exact h_own
  | lockObject _ _ request =>
    refine h_handle fun handle => ?_
    refine withObject_cases (P := fun r => EntriesOwn r.2) h_own fun id object h_live => ?_
    have h_change : World.Change B (fun _ => True) s.world
        (s.world.lockObject B object handle request).2 := .locked h_live True.intro handle request
    exact keepLock (h_own.evolves (.single h_change))
  | unlockObject _ =>
    refine withObject_cases (P := fun r => EntriesOwn r.2) h_own fun id object h_live => ?_
    have h_change : World.Change B (fun _ => True) s.world (s.world.unlockObject B object) :=
      .unlocked h_live
    exact h_own.evolves (.single h_change)
  | sameObject _ _ =>
    simp only [Session.step]
    split <;> exact h_own
  | holding _ =>
    simp only [Session.step]
    split <;> exact h_own
  | release o =>
    show Exclusive (s.releaseHolding B o).world.entryAt (s.releaseHolding B o).holdings.find?
    rw [releaseHolding_entryAt, find?_releaseHolding]
    refine Exclusive.mono h_own (fun h_entry => h_entry) fun h_find => ?_
    obtain ⟨-, ⟨⟩⟩ | ⟨-, h_old⟩ := update_eq_some_iff.mp h_find
    exact h_old

end EntriesOwn

theorem EntriesOwn.of_after (h_own : EntriesOwn s) (h_accounted : Accounted [] s)
    (h_numbered : Numbered s.world.env s.world.objects) (m : Move σ) :
    EntriesOwn (s.after B m) := by
  cases m with
  | client step => exact h_own.step h_accounted h_numbered step
  | receive h bytes descriptor =>
    simp only [after, move, receive]
    rcases Handle.ofWire bytes descriptor with e | handle <;> exact h_own
  | outside devices => exact h_own

/-- In every state that a play reaches no two entries are for one buffer. -/
theorem entriesOwn_of_play (B : Backend σ) (devices : σ) (kinds : List ManagerKind)
    (moves : List (Move σ)) : EntriesOwn ((start B devices kinds).play B moves) := by
  -- on the moves, the last one first: before it, everything holds of what was reached
  induction moves using List.reverseRecOn with
  | nil => exact .start B devices kinds
  | append_singleton earlier m ih =>
    rw [play, List.foldl_append]
    exact ih.of_after (accounted_of_play B devices kinds earlier)
      (numbered_of_play B devices kinds earlier) m

end Session

end GraphicsBuffer
