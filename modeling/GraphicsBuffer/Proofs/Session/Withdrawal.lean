/-
  GraphicsBuffer.Proofs.Session.Withdrawal

  Unregistering is exact and atomic (`withdrawal_exact`). It succeeds exactly for a handle that
  stands for an unlocked buffer in the manager; then one entry goes, and the handle stands for
  nothing until it is registered again. Otherwise nothing changes at all.
-/

import GraphicsBuffer.Proofs.Session.Balance
import GraphicsBuffer.Proofs.Session.LockTally
import GraphicsBuffer.Proofs.Session.Registration

namespace GraphicsBuffer.Session

variable {σ : Type} {B : Backend σ} {s s' : Session σ} {m : ManagerId} {name : Name}
  {manager : Manager} {handle : Handle} {key : Key} {id : BufferId} {o : BufferObject}

open BufferObject (LockInvariant)

/-! ## Handles that stand for nothing -/

/-- Through a handle nothing can be unregistered, locked or unlocked, in any manager. -/
def Unusable (B : Backend σ) (s : Session σ) (name : Name) : Prop :=
  ∀ m manager handle, s.world.manager? m = some manager → s.handles.find? name = some handle →
    s.step B (.unregister m name) = (.failed (.error .notRegistered), s) ∧
    (∀ request, s.step B (.lock m name request) = (.failed (.error .notRegistered), s)) ∧
    s.step B (.unlock m name) = (.failed (.error .notRegistered), s)

/-- A handle without a key is of no use. -/
theorem unusable_of_key (h_key : s.key? name = none) : Unusable B s name := by
  intro m manager handle h_manager h_find
  rw [key?_of_find? h_find] at h_key
  have h_object : s.world.object? m handle = none := World.object?_of_unregistered _ m h_key
  refine ⟨?_, fun request => ?_, ?_⟩
  · rw [step_unregister_eq h_manager h_find, World.unregister_of_none B h_object]
    rfl
  · simp only [step, withManager, h_manager, withHandle, h_find, World.lock, h_object]
    rfl
  · simp only [step, withManager, h_manager, withHandle, h_find, World.unlock, h_object]
    rfl

/-- A handle gets a key by being registered only. -/
theorem Effect.key?_none {lockable : BufferObject → Prop} {deed : Option Deed}
    (h_effect : Effect B lockable s deed s') (h_key : s.key? name = none)
    (h_deed : ∀ m id, deed ≠ some (.bound m name id)) : s'.key? name = none := by
  cases h_effect with
  | went _ h_keys _ => rw [h_keys, h_key]
  | @reset _ l _ h_keys _ =>
    rw [h_keys, Function.update_apply, h_key]
    split <;> rfl
  | @bound _ m l id _ _ h_keys _ =>
    have h_ne : name ≠ l := by
      rintro rfl
      exact h_deed m id rfl
    rw [h_keys, Function.update_of_ne h_ne, h_key]
  | @freed _ _ l _ _ _ _ _ _ _ h_keys _ =>
    rw [h_keys, Function.update_apply, h_key]
    split <;> rfl
  | closed _ h_keys _ => rw [h_keys, h_key]
  | retained s₁ holding l _ h_keys _ => rw [key?, setHolding_handles, ← key?, h_keys, h_key]
  | released l => rw [key?, releaseHolding_handles, ← key?, h_key]

/-- Until a handle is registered, it stays without a key. -/
theorem key?_none_of_chronicle (h_accounted : Accounted [] s) (h_key : s.key? name = none)
    (later : List (Move σ)) (h_deeds : ∀ m id, .bound m name id ∉ (s.chronicle B later).deeds) :
    (s.play B later).key? name = none := by
  -- on the later moves, the last one first; all of what is reached is accounted for
  suffices h_both : Accounted [] (s.play B later) ∧ (s.play B later).key? name = none from h_both.2
  induction later using List.reverseRecOn with
  | nil => exact ⟨h_accounted, h_key⟩
  | append_singleton earlier m ih =>
    have h_chronicle : s.chronicle B (earlier ++ [m]) = (s.chronicle B earlier).next B m := by
      simp only [chronicle, List.foldl_append, List.foldl_cons, List.foldl_nil]
    rw [h_chronicle, Chronicle.next, chronicle_session] at h_deeds
    obtain ⟨h_before, h_none⟩ := ih fun l id h_mem =>
      h_deeds l id (List.mem_append_right _ h_mem)
    rw [play_append]
    refine ⟨h_before.of_after m, ?_⟩
    rcases h_before.effect (B := B) m with ⟨devices, rfl⟩ | h_effect
    · exact h_none
    · refine h_effect.key?_none h_none fun l id h_deed => h_deeds l id ?_
      rw [h_deed]
      exact List.mem_append_left _ List.mem_cons_self

/-! ## What a successful unregistering does -/

/-- What unregistering a handle leaves, that had a key and stood for an object. -/
structure Withdrawn (B : Backend σ) (s s' : Session σ) (m : ManagerId) (name : Name)
    (handle : Handle) (key : Key) (o : BufferObject) : Prop where
  /-- The entry was there. -/
  entry : s.world.entryAt (m, key) = some o.id
  /-- It goes, and all other entries stay, in this manager and in all others. -/
  entries : s'.world.entryAt = Function.update s.world.entryAt (m, key) none
  /-- All managers stay. -/
  managers : s'.world.managers.map (·.map (·.kind)) = s.world.managers.map (·.map (·.kind))
  /-- The handle loses its registration and keeps all that it describes; no other is touched. -/
  handles : s'.handles.find? =
    Function.update s.handles.find? name (some { handle with registration := none })
  /-- The references of the client stay. -/
  holdings : s'.holdings = s.holdings
  /-- The next key stays the next. -/
  nextKey : s'.world.nextKey = s.world.nextKey
  /-- There is nothing in the object but its number: no mapping, no usage and no lock. -/
  unlocked : o = { id := o.id }
  /-- If a reference to it is held, it stays alive as it is, and no call is made. -/
  kept : o.id ∈ s.world.held →
    s'.world.objects = s.world.objects ∧ s.world.env.callsSince s'.world.env = []
  /-- If not, it is freed, by one call; no other object is touched. -/
  freed : o.id ∉ s.world.held →
    s'.world.objects.find? = Function.update s.world.objects.find? o.id none ∧
      s.world.env.callsSince s'.world.env = [.destroyed o.id]

theorem withdrawn_of_unlocked (h_own : EntriesOwn s) (h_keyed : World.Keyed s.world)
    (h_id : o.id = id) (h_inv : LockInvariant o) (h_key : handle.registration = some key)
    (h_manager : s.world.manager? m = some manager)
    (h_find : manager.buffers.find? key = some id) (h_live : s.world.objects.find? id = some o)
    (h_count : o.lockCount = 0) :
    Withdrawn B s (s.keepHandle name (s.world.unregister B m handle)).2 m name handle key o := by
  subst h_id
  rw [World.unregister_of_unlocked B h_key h_manager h_find h_live h_count]
  have h_reap : World.Evolves B (fun _ => True) (s.world.withdraw m manager key)
      ((s.world.withdraw m manager key).reap B o.id) := World.reap_evolves _ _
  have h_entries : ((s.world.withdraw m manager key).reap B o.id).entryAt =
      Function.update s.world.entryAt (m, key) none := by
    rw [h_reap.entryAt_eq, World.withdraw, World.entryAt_erase h_manager]
  have h_managers : ((s.world.withdraw m manager key).reap B o.id).managers.map (·.map (·.kind)) =
      s.world.managers.map (·.map (·.kind)) := by
    rw [h_reap.managers_eq, World.withdraw, World.kinds_setManager h_manager]
  have h_unregistered := withdraw_unregistered h_own h_keyed h_manager h_find
  refine ⟨World.entryAt_eq_some_iff.mpr ⟨manager, h_manager, h_find⟩, h_entries, h_managers,
    Table.find?_insert_eq_update _ _ _, rfl, h_reap.nextKey_eq, h_inv.eq_fresh h_count,
    fun h_held => ?_, fun h_free => ?_⟩
  · -- the reference keeps it alive
    have h_named : (s.world.withdraw m manager key).references o.id ≠ 0 :=
      fun h_zero => (World.references_eq_zero_iff.mp h_zero).2 h_held
    have h_same : (s.world.withdraw m manager key).reap B o.id =
        s.world.withdraw m manager key := by
      rw [World.reap, if_neg h_named]
    rw [h_same]
    exact ⟨rfl, Env.callsSince_of_still rfl⟩
  · have h_unnamed : (s.world.withdraw m manager key).references o.id = 0 :=
      World.references_eq_zero_iff.mpr ⟨h_unregistered, h_free⟩
    have h_gone : (s.world.withdraw m manager key).reap B o.id =
        { s.world.withdraw m manager key with
          env := s.world.env.destroy B o.id, objects := s.world.objects.erase o.id } := by
      rw [World.reap, if_pos h_unnamed]
      exact World.destroy_of_unlocked B h_live h_inv h_count
    rw [h_gone]
    exact ⟨Table.find?_erase_eq_update _ _, Env.callsSince_of_trace rfl⟩

/-! ## Reached states -/

/-- What holds in a state in which no count of locks has reached its limit before. `deeds` locked
    and unlocked its buffers. -/
structure Orderly (s : Session σ) (deeds : List LockDeed) : Prop where
  accounted : Accounted [] s
  numbered : World.Numbered s.world.env s.world.objects
  keyed : World.Keyed s.world
  own : EntriesOwn s
  locks : ∀ o ∈ s.world.objects.values, LockInvariant o
  exact : ∀ {id o}, s.world.objects.find? id = some o →
    o.lockCount.toNat = outstanding deeds id

theorem orderly_of_play (B : Backend σ) (devices : σ) (kinds : List ManagerKind)
    {moves : List (Move σ)}
    (h_counts : Obeys (after B) CountsBounded (start B devices kinds) moves) :
    Orderly ((start B devices kinds).play B moves) ((start B devices kinds).lockDeeds B moves) where
  accounted := accounted_of_play B devices kinds moves
  numbered := numbered_of_play B devices kinds moves
  keyed := (owned_of_play B devices kinds moves).keyed
  own := entriesOwn_of_play B devices kinds moves
  locks := locks_sound B devices kinds moves h_counts
  exact h_live := outstanding_exact B devices kinds h_counts h_live

theorem Orderly.withdrawn {deeds : List LockDeed} (h : Orderly s deeds)
    (h_manager : s.world.manager? m = some manager)
    (h_find : s.handles.find? name = some handle)
    (h_object : s.world.object? m handle = some o) (h_count : o.lockCount = 0) :
    ∃ key, handle.registration = some key ∧
      Withdrawn B s (s.step B (.unregister m name)).2 m name handle key o := by
  obtain ⟨key, manager', id, h_key, h_manager', h_entry, h_live⟩ :=
    World.object?_eq_some_iff_entry.mp h_object
  rw [step_unregister_eq h_manager h_find]
  exact ⟨key, h_key, withdrawn_of_unlocked h.own h.keyed (h.numbered id o h_live).1
    (h.locks o (Table.mem_values_of_find? h_live)) h_key h_manager' h_entry h_live h_count⟩

/-! ## Exact and atomic -/

/-- What unregistering a handle does in a session. `deeds` locked and unlocked its buffers. -/
structure UnregistersExactly (B : Backend σ) (s : Session σ) (deeds : List LockDeed)
    (m : ManagerId) (name : Name) (handle : Handle) : Prop where
  /-- It succeeds exactly if the handle stands for an object in the manager that has no lock. -/
  done_iff : (s.step B (.unregister m name)).1 = .done ↔
    ∃ o, s.world.object? m handle = some o ∧ o.lockCount = 0
  /-- Then the entry of the handle goes, and nothing else. -/
  withdrawn : ∀ o, s.world.object? m handle = some o → o.lockCount = 0 →
    ∃ key, handle.registration = some key ∧
      Withdrawn B s (s.step B (.unregister m name)).2 m name handle key o
  /-- And until it is registered again, the handle is of no use, whatever else is done. -/
  unusable : (s.step B (.unregister m name)).1 = .done → ∀ later : List (Move σ),
    (∀ l id, .bound l name id ∉ ((s.step B (.unregister m name)).2.chronicle B later).deeds) →
    Unusable B ((s.step B (.unregister m name)).2.play B later) name
  /-- A buffer that is locked stays, and nothing changes. The answer tells how many locks of it are
      outstanding. -/
  locked : ∀ o, s.world.object? m handle = some o → o.lockCount ≠ 0 →
    s.step B (.unregister m name) = (.failed (.error (.bufferLocked o.lockCount)), s) ∧
      o.lockCount.toNat = outstanding deeds o.id
  /-- A handle that stands for nothing is not registered, and nothing changes. -/
  unresolved : s.world.object? m handle = none →
    s.step B (.unregister m name) = (.failed (.error .notRegistered), s)

/-- In every state that a play reaches in which no count of locks had reached its limit, for every
    manager and every handle, whatever it stands for and whoever made it, unregistering is exact and
    atomic. -/
theorem withdrawal_exact (B : Backend σ) (devices : σ) (kinds : List ManagerKind)
    (moves : List (Move σ))
    (h_counts : Obeys (after B) CountsBounded (start B devices kinds) moves) :
    ∀ m name manager handle,
      ((start B devices kinds).play B moves).world.manager? m = some manager →
      ((start B devices kinds).play B moves).handles.find? name = some handle →
      UnregistersExactly B ((start B devices kinds).play B moves)
        ((start B devices kinds).lockDeeds B moves) m name handle := by
  intro m name manager handle h_manager h_find
  have h := orderly_of_play B devices kinds h_counts
  generalize (start B devices kinds).lockDeeds B moves = deeds at h ⊢
  generalize (start B devices kinds).play B moves = s at *
  refine ⟨step_unregister_done_iff h_manager h_find,
    fun o h_object h_count => h.withdrawn h_manager h_find h_object h_count,
    fun h_answer later h_deeds => ?_,
    fun o h_object h_busy => ⟨step_unregister_of_locked h_manager h_find h_object h_busy, ?_⟩,
    step_unregister_of_none h_manager h_find⟩
  · -- the handle has lost its key, and gets none before it is registered
    obtain ⟨o, h_object, h_count⟩ := (step_unregister_done_iff h_manager h_find).mp h_answer
    obtain ⟨key, -, h_gone⟩ := h.withdrawn (B := B) h_manager h_find h_object h_count
    have h_key : (s.step B (.unregister m name)).2.key? name = none := by
      rw [key?, h_gone.handles, Function.update_self]
      rfl
    have h_next : Accounted [] (s.step B (.unregister m name)).2 :=
      h.accounted.of_after (.client (.unregister m name))
    exact unusable_of_key (key?_none_of_chronicle h_next h_key later h_deeds)
  · obtain ⟨id, -, h_live⟩ := World.object?_eq_some_iff.mp h_object
    rw [(h.numbered id o h_live).1]
    exact h.exact h_live

/-- Two buffers are created; one is locked twice, and the handle of the other is copied. -/
def tidyMoves : List (Move SystemState) :=
  [.client (.create 0 "free" ⟨8, 8⟩ PixelFormat.rgba8888 Usage.texture),
   .client (.create 0 "busy" ⟨8, 8⟩ PixelFormat.rgba8888 Usage.texture),
   .client (.lock 0 "busy" ⟨Usage.texture, ⟨0, 0, 8, 8⟩⟩),
   .client (.lock 0 "busy" ⟨Usage.texture, ⟨0, 0, 4, 4⟩⟩),
   .client (.duplicate "free" "copy")]

theorem withdrawal_exact_tidy :
    let s := (start systemBackend {} [.full]).play systemBackend tidyMoves
    Obeys (after systemBackend) CountsBounded (start systemBackend {} [.full]) tidyMoves ∧
      (s.step systemBackend (.unregister 0 "free")).1 = .done ∧
      (s.step systemBackend (.unregister 0 "busy")).1 = .failed (.error (.bufferLocked 2)) ∧
      (s.step systemBackend (.unregister 0 "copy")).1 = .failed (.error .notRegistered) ∧
      ∃ manager handle, s.world.manager? 0 = some manager ∧
        s.handles.find? "free" = some handle ∧
        UnregistersExactly systemBackend s
          ((start systemBackend {} [.full]).lockDeeds systemBackend tidyMoves) 0 "free" handle := by
  have h_counts : Obeys (after systemBackend) CountsBounded (start systemBackend {} [.full])
      tidyMoves := by
    refine ⟨?_, ?_, ?_, ?_, ?_, True.intro⟩ <;> unfold CountsBounded <;> decide +kernel
  obtain ⟨manager, h_manager⟩ := Option.isSome_iff_exists.mp (show
    (((start systemBackend {} [.full]).play systemBackend tidyMoves).world.manager? 0).isSome = true
    by decide +kernel)
  obtain ⟨handle, h_find⟩ := Option.isSome_iff_exists.mp (show
    (((start systemBackend {} [.full]).play systemBackend tidyMoves).handles.find? "free").isSome =
      true by decide +kernel)
  exact ⟨h_counts, by decide +kernel, by decide +kernel, by decide +kernel, manager, handle,
    h_manager, h_find,
    withdrawal_exact systemBackend {} [.full] tidyMoves h_counts 0 "free" manager handle h_manager
      h_find⟩

end GraphicsBuffer.Session
