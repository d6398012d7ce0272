/-
  GraphicsBuffer.Proofs.Session.LockTally

  The locks of a play, by the answers that its client got: each lock that was granted, and each
  unlock that found one. The count of a live buffer object tells how many locks are outstanding, up
  to the size of its word (`tallied_of_play`), and exactly as long as no count has reached its limit
  (`outstanding_exact`).
-/

import GraphicsBuffer.Proofs.Session.LockState
import GraphicsBuffer.Proofs.Session.History
import GraphicsBuffer.Proofs.Session.Operation
import GraphicsBuffer.Proofs.Session.Resolution
import GraphicsBuffer.Proofs.World.Undisturbed
import Mathlib.Data.List.Induction

namespace GraphicsBuffer

/-- What a move did to the locks of a buffer. -/
inductive LockDeed where
  /-- A lock was granted. -/
  | granted (id : BufferId)
  /-- An unlock found a lock and dropped it. -/
  | dropped (id : BufferId)
deriving DecidableEq

/-- How many locks of a buffer were granted, less the unlocks that found one. -/
def outstanding (deeds : List LockDeed) (id : BufferId) : Nat :=
  deeds.count (.granted id) - deeds.count (.dropped id)

open BufferObject (maxLockCount)
open World (Undisturbed Numbered)

/-! ## What a move does to the locks -/

/-- What a move does to the objects of a world, together with its deed. -/
inductive LockEffect {σ : Type} (w w' : World σ) : Option LockDeed → Prop where
  | undisturbed (h : Undisturbed w w') : LockEffect w w' none
  | granted {id : BufferId} {o o' : BufferObject} (h_live : w.objects.find? id = some o)
      (h_count : o'.lockCount = o.lockCount + 1)
      (h_next : w'.env.nextBuffer = w.env.nextBuffer)
      (h_objects : w'.objects.find? = Function.update w.objects.find? id (some o')) :
      LockEffect w w' (some (.granted id))
  | dropped {id : BufferId} {o o' : BufferObject} (h_live : w.objects.find? id = some o)
      (h_busy : o.lockCount ≠ 0) (h_count : o'.lockCount = o.lockCount - 1)
      (h_next : w'.env.nextBuffer = w.env.nextBuffer)
      (h_objects : w'.objects.find? = Function.update w.objects.find? id (some o')) :
      LockEffect w w' (some (.dropped id))

namespace Session

variable {σ : Type} {B : Backend σ} {s : Session σ}

/-- The step locks a buffer or unlocks one. -/
def LocksOrUnlocks : Step → Prop
  | .lock _ _ _ => True
  | .unlock _ _ => True
  | .lockObject _ _ _ => True
  | .unlockObject _ => True
  | _ => False

/-- The object that a step locks or unlocks. -/
def lockTarget? (s : Session σ) : Step → Option BufferObject
  | .lock m h _ => (s.handles.find? h).bind (s.world.object? m)
  | .unlock m h => (s.handles.find? h).bind (s.world.object? m)
  | .lockObject o _ _ => s.heldObject? o
  | .unlockObject o => s.heldObject? o
  | _ => none

/-- The deed of a step that was answered, as far as locks are concerned. -/
def stepLockDeed? (s : Session σ) (step : Step) (answer : Answer) : Option LockDeed :=
  match step, answer with
  | .lock _ _ _, .locked _ _ => (s.lockTarget? step).map fun o => .granted o.id
  | .lockObject _ _ _, .locked _ _ => (s.lockTarget? step).map fun o => .granted o.id
  | .unlock _ _, .done =>
    ((s.lockTarget? step).filter (·.lockCount ≠ 0)).map fun o => .dropped o.id
  | .unlockObject _, .done =>
    ((s.lockTarget? step).filter (·.lockCount ≠ 0)).map fun o => .dropped o.id
  | _, _ => none

/-- The deed of a move that was answered, as far as locks are concerned. -/
def lockDeed? (s : Session σ) : Move σ → Answer → Option LockDeed
  | .client step, answer => s.stepLockDeed? step answer
  | _, _ => none

/-- The deeds of moves that are made one after another, the first one first. -/
def lockDeeds (B : Backend σ) : List (Move σ) → Session σ → List LockDeed
  | [], _ => []
  | m :: rest, s => (s.lockDeed? m (s.move B m).1).toList ++ lockDeeds B rest (s.after B m)

theorem lockDeeds_append (earlier later : List (Move σ)) : s.lockDeeds B (earlier ++ later) =
    s.lockDeeds B earlier ++ (s.play B earlier).lockDeeds B later := by
  induction earlier generalizing s with
  | nil => rfl
  | cons m rest ih =>
    rw [List.cons_append, lockDeeds, ih, lockDeeds, List.append_assoc]
    rfl

/-! ## Every move -/

section Steps

variable (h_numbered : Numbered s.world.env s.world.objects)

include h_numbered

/-- The answer to a lock of a live object, and its deed. -/
theorem keepLock_lockEffect {id : BufferId} {o : BufferObject} {step : Step}
    (h_live : s.world.objects.find? id = some o) (h_target : s.lockTarget? step = some o)
    (h_locks : ∀ address previous, s.stepLockDeed? step (.locked address previous) =
      (s.lockTarget? step).map fun o => .granted o.id)
    (h_fails : ∀ f, s.stepLockDeed? step (.failed f) = none) (before : Option BufferObject)
    (handle : Handle) (request : LockRequest) :
    LockEffect s.world (s.keepLock before (s.world.lockObject B o handle request)).2.world
      (s.stepLockDeed? step (s.keepLock before (s.world.lockObject B o handle request)).1) := by
  rcases h_lock : s.world.lockObject B o handle request with ⟨answer, w⟩
  obtain ⟨h_next, ⟨f, rfl, h_same⟩ | ⟨address, o', rfl, h_count, h_objects⟩⟩ :=
    World.lockObject_effect B h_numbered h_live handle request h_lock
  · simp only [keepLock, h_fails]
    exact .undisturbed (.of_objects (Nat.le_of_eq h_next.symm) h_same)
  · simp only [keepLock, h_locks, h_target, Option.map_some, (h_numbered id o h_live).1]
    exact .granted h_live h_count h_next h_objects

/-- An unlock of a live object that is answered, and its deed. -/
theorem unlockObject_lockEffect {id : BufferId} {o : BufferObject} {step : Step}
    (h_live : s.world.objects.find? id = some o) (h_target : s.lockTarget? step = some o)
    (h_done : s.stepLockDeed? step .done =
      ((s.lockTarget? step).filter (·.lockCount ≠ 0)).map fun o => .dropped o.id) :
    LockEffect s.world (s.world.unlockObject B o) (s.stepLockDeed? step .done) := by
  rw [h_done, h_target]
  -- an unlock that finds no lock is no deed
  by_cases h_count : o.lockCount = 0
  · simp only [Option.filter_some, h_count, ne_eq, not_true_eq_false, decide_false,
      Bool.false_eq_true, if_false, Option.map_none]
    exact .undisturbed (World.unlockObject_idle B h_numbered h_live h_count)
  · obtain ⟨h_next, o', h_less, h_objects⟩ :=
      World.unlockObject_effect B h_numbered h_live h_count
    simp only [Option.filter_some, ne_eq, h_count, not_false_eq_true, decide_true, if_true,
      Option.map_some, (h_numbered id o h_live).1]
    exact .dropped h_live h_count h_less h_next h_objects

theorem lock_lockEffect (m : ManagerId) (h : Name) (request : LockRequest) :
    LockEffect s.world (s.step B (.lock m h request)).2.world
      (s.stepLockDeed? (.lock m h request) (s.step B (.lock m h request)).1) := by
  refine withManager_cases
    (P := fun r => LockEffect s.world r.2.world (s.stepLockDeed? (.lock m h request) r.1))
    (.undisturbed (.refl _)) fun _ _ => ?_
  refine withHandle_cases
    (P := fun r => LockEffect s.world r.2.world (s.stepLockDeed? (.lock m h request) r.1))
    (.undisturbed (.refl _)) fun handle h_find => ?_
  unfold World.lock
  rcases h_object : s.world.object? m handle with _ | o
  · exact .undisturbed (.refl _)
  · obtain ⟨id, -, h_live⟩ := World.object?_eq_some_iff.mp h_object
    have h_target : s.lockTarget? (.lock m h request) = some o := by
      rw [lockTarget?, h_find, Option.bind_some, h_object]
    exact keepLock_lockEffect h_numbered h_live h_target (fun _ _ => rfl) (fun _ => rfl) _
      handle request

theorem unlock_lockEffect (m : ManagerId) (h : Name) :
    LockEffect s.world (s.step B (.unlock m h)).2.world
      (s.stepLockDeed? (.unlock m h) (s.step B (.unlock m h)).1) := by
  refine withManager_cases
    (P := fun r => LockEffect s.world r.2.world (s.stepLockDeed? (.unlock m h) r.1))
    (.undisturbed (.refl _)) fun _ _ => ?_
  refine withHandle_cases
    (P := fun r => LockEffect s.world r.2.world (s.stepLockDeed? (.unlock m h) r.1))
    (.undisturbed (.refl _)) fun handle h_find => ?_
  unfold World.unlock
  rcases h_object : s.world.object? m handle with _ | o
  · exact .undisturbed (.refl _)
  · obtain ⟨id, -, h_live⟩ := World.object?_eq_some_iff.mp h_object
    have h_target : s.lockTarget? (.unlock m h) = some o := by
      rw [lockTarget?, h_find, Option.bind_some, h_object]
    exact unlockObject_lockEffect h_numbered h_live h_target rfl

theorem lockObject_lockEffect (o h : Name) (request : LockRequest) :
    LockEffect s.world (s.step B (.lockObject o h request)).2.world
      (s.stepLockDeed? (.lockObject o h request) (s.step B (.lockObject o h request)).1) := by
  refine withHandle_cases
    (P := fun r => LockEffect s.world r.2.world (s.stepLockDeed? (.lockObject o h request) r.1))
    (.undisturbed (.refl _)) fun handle _ => ?_
  unfold withObject
  rcases h_object : s.heldObject? o with _ | object
  · exact .undisturbed (.refl _)
  · obtain ⟨holding, -, h_live⟩ := Option.bind_eq_some_iff.mp h_object
    have h_target : s.lockTarget? (.lockObject o h request) = some object := h_object
    exact keepLock_lockEffect h_numbered h_live h_target (fun _ _ => rfl) (fun _ => rfl) _
      handle request

theorem unlockObject_step_lockEffect (o : Name) :
    LockEffect s.world (s.step B (.unlockObject o)).2.world
      (s.stepLockDeed? (.unlockObject o) (s.step B (.unlockObject o)).1) := by
  simp only [step, withObject]
  rcases h_object : s.heldObject? o with _ | object
  · exact .undisturbed (.refl _)
  · obtain ⟨holding, -, h_live⟩ := Option.bind_eq_some_iff.mp h_object
    have h_target : s.lockTarget? (.unlockObject o) = some object := h_object
    exact unlockObject_lockEffect h_numbered h_live h_target rfl

omit h_numbered in
theorem withManager_undisturbed {m : ManagerId} {k : Manager → Answer × Session σ}
    (h_on : ∀ manager, Undisturbed s.world (k manager).2.world) :
    Undisturbed s.world (s.withManager m k).2.world :=
  withManager_cases (P := fun r => Undisturbed s.world r.2.world) (.refl _) fun manager _ =>
    h_on manager

omit h_numbered in
theorem withHandle_undisturbed {h : Name} {k : Handle → Answer × Session σ}
    (h_on : ∀ handle, Undisturbed s.world (k handle).2.world) :
    Undisturbed s.world (s.withHandle h k).2.world :=
  withHandle_cases (P := fun r => Undisturbed s.world r.2.world) (.refl _) fun handle _ =>
    h_on handle

omit h_numbered in
theorem keepHandle_undisturbed {h : Name} {answer : Outcome Handle × World σ}
    (h_world : Undisturbed s.world answer.2) :
    Undisturbed s.world (s.keepHandle h answer).2.world := by
  obtain ⟨f | handle, w⟩ := answer
  · exact h_world
  · exact h_world

omit h_numbered in
/-- A reference that is given up may free its buffer, and locks none. -/
theorem releaseHolding_undisturbed (s : Session σ) (o : Name) :
    Undisturbed s.world (s.releaseHolding B o).world := by
  unfold releaseHolding
  rcases s.holdings.find? o with _ | holding
  · exact .refl _
  · exact .release B _ _

omit h_numbered in
/-- A step that is neither a lock nor an unlock leaves the locks alone. -/
theorem step_undisturbed {step : Step} (h_step : ¬ LocksOrUnlocks step) :
    Undisturbed s.world (s.step B step).2.world := by
  -- one case for each step: what its operation does to the world, the step does
  cases step with
  | new _ _ _ _ => exact .refl _
  | duplicate _ _ =>
    refine withHandle_undisturbed fun handle => ?_
    rcases handle.duplicate with e | copy <;> exact .refl _
  | assign _ _ => exact withHandle_undisturbed fun _ => .refl _
  | transfer _ _ _ _ =>
    refine withHandle_undisturbed fun handle => ?_
    simp only
    rcases Handle.ofWire _ _ with e | arrived <;> exact .refl _
  | dropHandle _ => exact .refl _
  | dropManager m =>
    simp only [Session.step]
    split
    · exact .dropManager B _ m
    · exact .refl _
  | create m _ size format usage =>
    exact withManager_undisturbed fun _ => keepHandle_undisturbed (.create B _ m size format usage)
  | register m _ =>
    exact withManager_undisturbed fun _ => withHandle_undisturbed fun handle =>
      keepHandle_undisturbed (.register B _ m handle)
  | unregister m _ =>
    exact withManager_undisturbed fun _ => withHandle_undisturbed fun handle =>
      keepHandle_undisturbed (.unregister B _ m handle)
  | lock m h request => exact absurd True.intro h_step
  | unlock m h => exact absurd True.intro h_step
  | resolve m _ useDevice =>
    refine withManager_undisturbed fun manager => withHandle_undisturbed fun handle => ?_
    have h_world : Undisturbed s.world (s.world.resolve B m useDevice handle).2 :=
      .resolve B _ m handle useDevice
    split
    · exact .refl _
    · generalize s.world.resolve B m useDevice handle = answered at h_world ⊢
      rcases answered with ⟨f | ⟨found, handle'⟩, w⟩ <;> exact h_world
  | hold m _ o =>
    refine withManager_undisturbed fun _ => withHandle_undisturbed fun handle => ?_
    have h_world : Undisturbed s.world (s.world.hold m handle).2 := .hold _ m handle
    generalize s.world.hold m handle = answered at h_world ⊢
    rcases answered with ⟨e | id, w⟩
    · exact h_world
    · exact h_world.trans (releaseHolding_undisturbed (s.setWorld w) o)
  | allocate m _ o =>
    refine withManager_undisturbed fun _ => withHandle_undisturbed fun handle => ?_
    have h_world : Undisturbed s.world (s.world.allocate B m handle).2 := .allocate B _ m handle
    generalize s.world.allocate B m handle = answered at h_world ⊢
    rcases answered with ⟨f | ⟨id, handle'⟩, w⟩
    · exact h_world
    · exact h_world.trans (releaseHolding_undisturbed ((s.setWorld w).setHandle _ handle') o)
  | importFrom m _ o =>
    refine withManager_undisturbed fun _ => withHandle_undisturbed fun handle => ?_
    have h_world : Undisturbed s.world (s.world.importFrom B m handle).2 := .importFrom B _ m handle
    generalize s.world.importFrom B m handle = answered at h_world ⊢
    rcases answered with ⟨f | id, w⟩
    · exact h_world
    · exact h_world.trans (releaseHolding_undisturbed (s.setWorld w) o)
  | insert m _ o =>
    refine withManager_undisturbed fun manager => withHandle_undisturbed fun handle => ?_
    split
    · exact .refl _
    rcases s.holdings.find? o with _ | ⟨id, _ | _⟩
    · exact .refl _
    · exact .insert _ m handle id
    · exact .refl _
  | lockObject o h request => exact absurd True.intro h_step
  | unlockObject o => exact absurd True.intro h_step
  | sameObject _ _ =>
    simp only [Session.step]
    split <;> exact .refl _
  | holding _ =>
    simp only [Session.step]
    split <;> exact .refl _
  | release o => exact releaseHolding_undisturbed s o

/-- Every step does to the locks what its deed tells. -/
theorem step_lockEffect (step : Step) :
    LockEffect s.world (s.step B step).2.world (s.stepLockDeed? step (s.step B step).1) := by
  cases step with
  | lock m h request => exact lock_lockEffect h_numbered m h request
  | unlock m h => exact unlock_lockEffect h_numbered m h
  | lockObject o h request => exact lockObject_lockEffect h_numbered o h request
  | unlockObject o => exact unlockObject_step_lockEffect h_numbered o
  | _ => exact .undisturbed (step_undisturbed id)

theorem after_lockEffect (m : Move σ) :
    LockEffect s.world (s.after B m).world (s.lockDeed? m (s.move B m).1) := by
  cases m with
  | client step => exact step_lockEffect h_numbered step
  | receive h bytes descriptor =>
    -- a handle that arrives is a name only
    have h_world : (s.after B (.receive h bytes descriptor)).world = s.world := by
      simp only [after, move, receive]
      rcases Handle.ofWire bytes descriptor with e | arrived <;> rfl
    rw [h_world]
    exact .undisturbed (.refl _)
  | outside devices => exact .undisturbed (.of_objects (Nat.le_refl _) rfl)

end Steps

end Session

/-! ## The tally -/

section Counts

variable (deeds : List LockDeed) (id l : BufferId)

theorem count_append_deed (deed other : LockDeed) :
    (deeds ++ [deed]).count other = deeds.count other + if other = deed then 1 else 0 := by
  rw [List.count_append, List.count_singleton]
  by_cases h_eq : other = deed
  · simp [h_eq]
  · simp [h_eq, Ne.symm h_eq]

theorem granted_append_granted : (deeds ++ [LockDeed.granted id]).count (LockDeed.granted l) =
    deeds.count (.granted l) + if l = id then 1 else 0 := by
  simp only [count_append_deed, LockDeed.granted.injEq]

theorem dropped_append_granted :
    (deeds ++ [LockDeed.granted id]).count (LockDeed.dropped l) = deeds.count (.dropped l) := by
  simp only [count_append_deed, reduceCtorEq, if_false, Nat.add_zero]

theorem granted_append_dropped :
    (deeds ++ [LockDeed.dropped id]).count (LockDeed.granted l) = deeds.count (.granted l) := by
  simp only [count_append_deed, reduceCtorEq, if_false, Nat.add_zero]

theorem dropped_append_dropped : (deeds ++ [LockDeed.dropped id]).count (LockDeed.dropped l) =
    deeds.count (.dropped l) + if l = id then 1 else 0 := by
  simp only [count_append_deed, LockDeed.dropped.injEq]

end Counts

/-- The counts of live objects tell the locks that are outstanding, and no lock of a buffer comes
    before the buffer. -/
structure Tallied {σ : Type} (deeds : List LockDeed) (w : World σ) : Prop where
  dropped_le : ∀ id, deeds.count (.dropped id) ≤ deeds.count (.granted id)
  told : ∀ {id o}, w.objects.find? id = some o → Tells o.lockCount (outstanding deeds id)
  future : ∀ {id}, w.env.nextBuffer ≤ id → deeds.count (.granted id) = 0

/-- All counts are large enough for the locks that are outstanding. -/
def Fits {σ : Type} (deeds : List LockDeed) (w : World σ) : Prop :=
  ∀ id o, w.objects.find? id = some o → outstanding deeds id < 2 ^ 32

namespace Tallied

variable {σ : Type} {deeds : List LockDeed} {deed : Option LockDeed} {w w' : World σ}

theorem outstanding_granted (h : Tallied deeds w) (id l : BufferId) :
    outstanding (deeds ++ [LockDeed.granted id]) l =
      outstanding deeds l + if l = id then 1 else 0 := by
  have h_le := h.dropped_le l
  rw [outstanding, outstanding, granted_append_granted, dropped_append_granted]
  omega

theorem outstanding_dropped (deeds : List LockDeed) (id l : BufferId) :
    outstanding (deeds ++ [LockDeed.dropped id]) l =
      outstanding deeds l - if l = id then 1 else 0 := by
  rw [outstanding, outstanding, granted_append_dropped, dropped_append_dropped]
  omega

theorem outstanding_future (h : Tallied deeds w) {id : BufferId} (h_id : w.env.nextBuffer ≤ id) :
    outstanding deeds id = 0 := by
  rw [outstanding, h.future h_id, Nat.zero_sub]

theorem undisturbed (h : Tallied deeds w) (h_world : Undisturbed w w') : Tallied deeds w' where
  dropped_le := h.dropped_le
  told h_find := by
    rcases h_world.objects h_find with h_before | ⟨h_next, rfl⟩
    · exact h.told h_before
    · rw [h.outstanding_future h_next]
      exact Tells.zero
  future h_id := h.future (Nat.le_trans h_world.numbers h_id)

theorem granted (h : Tallied deeds w) (h_numbered : Numbered w.env w.objects) {id : BufferId}
    {o o' : BufferObject} (h_live : w.objects.find? id = some o)
    (h_count : o'.lockCount = o.lockCount + 1) (h_next : w'.env.nextBuffer = w.env.nextBuffer)
    (h_objects : w'.objects.find? = Function.update w.objects.find? id (some o')) :
    Tallied (deeds ++ [LockDeed.granted id]) w' where
  dropped_le l := by
    rw [granted_append_granted, dropped_append_granted]
    exact Nat.le_add_right_of_le (h.dropped_le l)
  told {l object} h_find := by
    rw [h.outstanding_granted]
    rw [h_objects] at h_find
    obtain ⟨rfl, ⟨⟩⟩ | ⟨h_ne, h_before⟩ := update_eq_some_iff.mp h_find
    · rw [h_count, if_pos rfl]
      exact (h.told h_live).add_one
    · rw [if_neg h_ne]
      exact h.told h_before
  future {l} h_l := by
    -- the buffer is alive, so its number has been given out
    have h_ne : l ≠ id := fun h_eq =>
      absurd (h_numbered id o h_live).2 (Nat.not_lt.mpr (h_eq ▸ h_next ▸ h_l))
    rw [granted_append_granted, if_neg h_ne]
    exact h.future (h_next ▸ h_l)

theorem dropped (h : Tallied deeds w) {id : BufferId} {o o' : BufferObject}
    (h_live : w.objects.find? id = some o) (h_busy : o.lockCount ≠ 0)
    (h_count : o'.lockCount = o.lockCount - 1) (h_next : w'.env.nextBuffer = w.env.nextBuffer)
    (h_objects : w'.objects.find? = Function.update w.objects.find? id (some o')) :
    Tallied (deeds ++ [LockDeed.dropped id]) w' := by
  obtain ⟨h_pos, h_less⟩ := (h.told h_live).sub_one h_busy
  refine ⟨fun l => ?_, fun {l object} h_find => ?_, fun {l} h_l => ?_⟩
  · rw [granted_append_dropped, dropped_append_dropped]
    rw [outstanding] at h_pos
    have h_le := h.dropped_le l
    split
    next h_eq =>
      rw [h_eq]
      omega
    next => exact h_le
  · rw [outstanding_dropped]
    rw [h_objects] at h_find
    obtain ⟨rfl, ⟨⟩⟩ | ⟨h_ne, h_before⟩ := update_eq_some_iff.mp h_find
    · rw [h_count, if_pos rfl]
      exact h_less
    · rw [if_neg h_ne]
      exact h.told h_before
  · rw [granted_append_dropped]
    exact h.future (h_next ▸ h_l)

theorem of_lockEffect (h : Tallied deeds w) (h_numbered : Numbered w.env w.objects)
    (h_effect : LockEffect w w' deed) : Tallied (deeds ++ deed.toList) w' := by
  cases h_effect with
  | undisturbed h_world =>
    rw [Option.toList_none, List.append_nil]
    exact h.undisturbed h_world
  | granted h_live h_count h_next h_objects =>
    exact h.granted h_numbered h_live h_count h_next h_objects
  | dropped h_live h_busy h_count h_next h_objects =>
    exact h.dropped h_live h_busy h_count h_next h_objects

/-- As long as no count is at its limit, all counts stay large enough. -/
theorem fits_of_lockEffect (h : Tallied deeds w) (h_fits : Fits deeds w)
    (h_below : ∀ o ∈ w.objects.values, o.lockCount ≠ maxLockCount)
    (h_effect : LockEffect w w' deed) : Fits (deeds ++ deed.toList) w' := by
  intro l object h_find
  cases h_effect with
  | undisturbed h_world =>
    rw [Option.toList_none, List.append_nil]
    rcases h_world.objects h_find with h_before | ⟨h_next, -⟩
    · exact h_fits l object h_before
    · rw [h.outstanding_future h_next]
      exact Nat.two_pow_pos 32
  | @granted id o _ h_live h_count h_next h_objects =>
    rw [Option.toList_some, h.outstanding_granted]
    rw [h_objects] at h_find
    obtain ⟨rfl, -⟩ | ⟨h_ne, h_before⟩ := update_eq_some_iff.mp h_find
    · rw [if_pos rfl]
      exact (h.told h_live).next_fits (h_fits l o h_live)
        (h_below o (Table.mem_values_of_find? h_live))
    · rw [if_neg h_ne]
      exact h_fits l object h_before
  | @dropped id o _ h_live h_busy h_count h_next h_objects =>
    rw [Option.toList_some, outstanding_dropped]
    rw [h_objects] at h_find
    obtain ⟨rfl, -⟩ | ⟨h_ne, h_before⟩ := update_eq_some_iff.mp h_find
    · exact Nat.lt_of_le_of_lt (Nat.sub_le _ _) (h_fits l o h_live)
    · exact Nat.lt_of_le_of_lt (Nat.sub_le _ _) (h_fits l object h_before)

end Tallied

/-! ## Plays -/

namespace Session

variable {σ : Type} (B : Backend σ) (devices : σ) (kinds : List ManagerKind)

/-- In every state that a play reaches, the counts of the live objects tell the locks that are
    outstanding, up to the size of a word. -/
theorem tallied_of_play (moves : List (Move σ)) :
    Tallied ((start B devices kinds).lockDeeds B moves)
      ((start B devices kinds).play B moves).world := by
  -- on the moves, the last one first
  induction moves using List.reverseRecOn with
  | nil => exact ⟨fun _ => Nat.le_refl _, nofun, fun _ => rfl⟩
  | append_singleton earlier m ih =>
    have h_numbered := numbered_of_play B devices kinds earlier
    rw [lockDeeds_append, play_append]
    have h_next := ih.of_lockEffect h_numbered (after_lockEffect (B := B) h_numbered m)
    rw [lockDeeds, lockDeeds, List.append_nil]
    exact h_next

/-- In every state that a play reaches in which no count had reached its limit before, every live
    object counts exactly the locks that are outstanding. -/
theorem outstanding_exact {moves : List (Move σ)}
    (h_counts : Obeys (after B) CountsBounded (start B devices kinds) moves) {id : BufferId}
    {o : BufferObject}
    (h_live : ((start B devices kinds).play B moves).world.objects.find? id = some o) :
    o.lockCount.toNat = outstanding ((start B devices kinds).lockDeeds B moves) id := by
  suffices h_fits : Fits ((start B devices kinds).lockDeeds B moves)
      ((start B devices kinds).play B moves).world from
    ((tallied_of_play B devices kinds moves).told h_live).toNat_eq (h_fits id o h_live)
  clear h_live
  induction moves using List.reverseRecOn with
  | nil => exact nofun
  | append_singleton earlier m ih =>
    obtain ⟨h_earlier, h_last, -⟩ := h_counts.of_append
    have h_numbered := numbered_of_play B devices kinds earlier
    rw [lockDeeds_append, play_append, lockDeeds, lockDeeds, List.append_nil]
    exact (tallied_of_play B devices kinds earlier).fits_of_lockEffect (ih h_earlier) h_last
      (after_lockEffect (B := B) h_numbered m)

end Session

end GraphicsBuffer
