/-
  GraphicsBuffer.Proofs.Session.Nesting

  Locks inside the lock that opened a cycle are always granted (`nested_locks_granted`). A record is
  kept of the lock that each buffer was last opened by; in every state that a play reaches it tells
  how a buffer that is locked is mapped, whatever was locked and unlocked since.
-/

import GraphicsBuffer.Backend.System
import GraphicsBuffer.Proofs.BufferObject.Count
import GraphicsBuffer.Proofs.BufferObject.Nesting
import GraphicsBuffer.Proofs.Session.LockStep

namespace GraphicsBuffer.Session

open World (Numbered Undisturbed)
open BufferObject (maxLockCount)

variable {σ : Type} {B : Backend σ}

/-! ## The locks that open cycles -/

/-- The cycle that a step opens, if a lock is granted of a buffer at rest. -/
def stepOpens? (s : Session σ) (step : Step) (answer : Answer) : Option (BufferId × Grant) :=
  match LockPlace.ofStep? step, answer with
  | some (place, name, request), .locked address _ => do
    let handle ← s.handles.find? name
    let o ← place.object? s handle
    if o.atRest then some (o.id, { handle, request, address }) else none
  | _, _ => none

/-- The cycle that a move opens. -/
def opens? (s : Session σ) : Move σ → Answer → Option (BufferId × Grant)
  | .client step, answer => s.stepOpens? step answer
  | _, _ => none

section Lock

variable {s : Session σ} {place : LockPlace} {name : Name} {handle : Handle} {o : BufferObject}

/-- A lock that is granted opens a cycle if it finds its buffer at rest. -/
theorem opens?_granted (h_find : s.handles.find? name = some handle)
    (h_object : place.object? s handle = some o) (request : LockRequest)
    (address previous : Option Address) :
    s.opens? (.client (place.lock name request)) (.locked address previous) =
      if o.atRest then some (o.id, { handle, request, address }) else none := by
  unfold opens? stepOpens?
  simp only [LockPlace.ofStep?_lock, h_find, h_object, Option.bind_eq_bind, Option.bind_some]

/-- One that fails opens none. -/
theorem opens?_failed (s : Session σ) (place : LockPlace) (name : Name) (request : LockRequest)
    (f : Failure) : s.opens? (.client (place.lock name request)) (.failed f) = none := by
  unfold opens? stepOpens?
  simp only [LockPlace.ofStep?_lock]

/-- Nor does a step that finds no buffer to lock. -/
theorem opens?_not_found (h_none : ∀ handle, s.handles.find? name = some handle →
    place.object? s handle = none) (request : LockRequest) (answer : Answer) :
    s.opens? (.client (place.lock name request)) answer = none := by
  unfold opens? stepOpens?
  simp only [LockPlace.ofStep?_lock]
  split
  · rename_i h_step
    cases h_step
    rcases h_find : s.handles.find? name with _ | handle
    · rfl
    · rw [Option.bind_eq_bind, Option.bind_some, h_none handle h_find]
      rfl
  · rfl

end Lock

/-- A session together with the locks that the buffers were last opened by. -/
structure Cycles (σ : Type) where
  session : Session σ
  opener : BufferId → Option Grant := fun _ => none

namespace Cycles

/-- Makes a move. -/
def next (B : Backend σ) (c : Cycles σ) (m : Move σ) : Cycles σ :=
  let moved := c.session.move B m
  { session := moved.2
    -- a new cycle takes the place of the one before, also if that has ended long ago
    opener := match c.session.opens? m moved.1 with
      | none => c.opener
      | some (id, grant) => Function.update c.opener id (some grant) }

end Cycles

/-- The cycles after moves that are made one after another. -/
def cycles (B : Backend σ) (s : Session σ) (moves : List (Move σ)) : Cycles σ :=
  moves.foldl (Cycles.next B) { session := s }

theorem cycles_session (s : Session σ) (moves : List (Move σ)) :
    (s.cycles B moves).session = s.play B moves :=
  (List.foldl_hom Cycles.session fun _ _ => rfl).symm

namespace Cycles

/-- Every live buffer that is not at rest was opened by the lock that is recorded. -/
def Sound (c : Cycles σ) : Prop :=
  ∀ id o, c.session.world.objects.find? id = some o → o.atRest = false →
    ∃ g, c.opener id = some g ∧ o.OpenedBy g

variable {c : Cycles σ} {m : Move σ}

/-- A move that opens no cycle keeps what is recorded, if it keeps the lock state of all live
    buffers. -/
theorem Sound.undisturbed (h : c.Sound) (h_opens : c.session.opens? m (c.session.move B m).1 = none)
    (h_world : Undisturbed c.session.world (c.session.after B m).world) : (c.next B m).Sound := by
  intro id o h_find h_busy
  simp only [next, h_opens]
  rcases h_world.objects h_find with h_before | ⟨-, rfl⟩
  · exact h id o h_before h_busy
  · -- a new buffer is at rest
    exact nomatch h_busy

/-- A move that replaces one object keeps it, if it records who opened the new one and leaves the
    record of all others alone. -/
theorem Sound.replaced (h : c.Sound) (id : BufferId) (o' : BufferObject)
    (h_objects : (c.session.after B m).world.objects.find? =
      Function.update c.session.world.objects.find? id (some o'))
    (h_others : ∀ l, l ≠ id → (c.next B m).opener l = c.opener l)
    (h_new : o'.atRest = false → ∃ g, (c.next B m).opener id = some g ∧ o'.OpenedBy g) :
    (c.next B m).Sound := by
  intro l object h_find h_busy
  have h_find' : (c.session.after B m).world.objects.find? l = some object := h_find
  rw [h_objects] at h_find'
  rcases update_eq_some_iff.mp h_find' with ⟨rfl, h_eq⟩ | ⟨h_ne, h_before⟩
  · obtain rfl := Option.some.inj h_eq
    exact h_new h_busy
  · rw [h_others l h_ne]
    exact h l object h_before h_busy

/-- A lock that is granted opens a cycle or is one of the cycle that was opened. -/
theorem Sound.locked (h : c.Sound)
    (h_numbered : Numbered c.session.world.env c.session.world.objects)
    (h_mapped : ∀ o ∈ c.session.world.objects.values, o.MappedForCpu) {place : LockPlace}
    {name : Name} {request : LockRequest} {handle : Handle} {o : BufferObject}
    (h_find : c.session.handles.find? name = some handle)
    (h_object : place.object? c.session handle = some o) :
    (c.next B (.client (place.lock name request))).Sound := by
  obtain ⟨id, h_live⟩ := live_of_object? h_object
  have h_o := h_mapped o (Table.mem_values_of_find? h_live)
  have h_id : o.id = id := (h_numbered id o h_live).1
  have h_move : c.session.move B (.client (place.lock name request)) =
      c.session.keepLock (some o) (c.session.world.lockObject B o handle request) :=
    step_lock_of_object h_find h_object request
  have h_outcome := BufferObject.lock_outcome B o handle request c.session.world.env
  rcases h_lock : o.lock B handle request c.session.world.env with ⟨f | o', env⟩
  · -- a lock that fails leaves all objects alone
    rw [h_lock] at h_outcome
    have h_numbers : env.nextBuffer = c.session.world.env.nextBuffer := h_outcome.numbers.1
    rw [World.lockObject, h_lock] at h_move
    refine h.undisturbed ?_ (.of_objects ?_ ?_)
    · rw [h_move]
      exact opens?_failed _ _ _ _ f
    · rw [after, h_move]
      exact Nat.le_of_eq h_numbers.symm
    · rw [after, h_move]
      rfl
  · rw [h_lock] at h_outcome
    have h_id' : o'.id = id := (h_outcome.numbers.2 o' rfl).trans h_id
    rw [World.lockObject, h_lock] at h_move
    have h_opens : c.session.opens? (.client (place.lock name request))
        (c.session.move B (.client (place.lock name request))).1 =
        if o.atRest then some (id, ⟨handle, request, o'.address?⟩) else none := by
      rw [h_move, ← h_id]
      exact opens?_granted h_find h_object request _ _
    refine h.replaced id o' ?_ ?_ ?_
    · rw [after, h_move, ← h_id']
      exact Table.find?_insert_eq_update _ _ _
    · -- a cycle is only opened of the buffer that is locked
      intro l h_ne
      rcases h_rest : o.atRest with _ | _
      · rw [next, h_opens, h_rest]
        rfl
      · rw [next, h_opens, h_rest]
        exact Function.update_of_ne h_ne _ _
    · -- the buffer is in the cycle it was in, or in the one that this lock opens
      intro _
      rcases h_rest : o.atRest with _ | _
      · obtain ⟨g, h_opener, h_opened⟩ := h id o h_live h_rest
        rw [next, h_opens, h_rest]
        exact ⟨g, h_opener, h_opened.of_lock h_o h_rest h_lock⟩
      · rw [next, h_opens, h_rest]
        exact ⟨_, Function.update_self _ _ _, .of_atRest h_o h_rest h_lock⟩

/-- Without a handle or an object no cycle is opened, and nothing changes. -/
theorem Sound.not_found (h : c.Sound) {place : LockPlace} {name : Name} (request : LockRequest)
    (h_none : ∀ handle, c.session.handles.find? name = some handle →
      place.object? c.session handle = none) :
    (c.next B (.client (place.lock name request))).Sound := by
  obtain ⟨answer, h_step⟩ := step_lock_of_none B c.session place name h_none
  have h_move : c.session.move B (.client (place.lock name request)) = (answer, c.session) :=
    h_step request
  refine h.undisturbed ?_ ?_
  · rw [h_move]
    exact opens?_not_found h_none request answer
  · rw [after, h_move]
    exact .refl _

/-- An unlock ends a cycle or drops a lock of it. -/
theorem Sound.unlocked (h : c.Sound)
    (h_numbered : Numbered c.session.world.env c.session.world.objects) {id : BufferId}
    {o : BufferObject}
    (h_opens : c.session.opens? m (c.session.move B m).1 = none)
    (h_live : c.session.world.objects.find? id = some o)
    (h_world : (c.session.after B m).world = c.session.world.unlockObject B o) :
    (c.next B m).Sound := by
  have h_outcome := BufferObject.unlock_outcome B o c.session.world.env
  rcases h_unlock : o.unlock B c.session.world.env with ⟨o', env⟩
  rw [h_unlock] at h_outcome
  have h_id : o'.id = id := h_outcome.numbers.2.trans (h_numbered id o h_live).1
  have h_opener : (c.next B m).opener = c.opener := by rw [next, h_opens]
  refine h.replaced id o' ?_ (fun l _ => congrFun h_opener l) fun h_busy => ?_
  · rw [h_world, World.unlockObject, h_unlock, ← h_id]
    exact Table.find?_insert_eq_update _ _ _
  · -- a buffer at rest stays so
    have h_before : o.atRest = false := by
      rw [Bool.eq_false_iff]
      intro h_rest
      have h_count : o.lockCount = 0 := by
        simpa using (Bool.and_eq_true_iff.mp h_rest).1
      rw [BufferObject.unlock_of_idle B h_count] at h_unlock
      obtain ⟨rfl, -⟩ := Prod.mk.inj h_unlock
      exact Bool.false_ne_true (h_busy.symm.trans h_rest)
    obtain ⟨g, h_recorded, h_opened⟩ := h id o h_live h_before
    exact ⟨g, (congrFun h_opener id).trans h_recorded, h_opened.of_unlock h_unlock h_busy⟩

/-- Every move keeps the record of who opened which buffer. -/
theorem Sound.next (h : c.Sound)
    (h_numbered : Numbered c.session.world.env c.session.world.objects)
    (h_mapped : ∀ o ∈ c.session.world.objects.values, o.MappedForCpu) (m : Move σ) :
    (c.next B m).Sound := by
  cases m with
  | client step =>
    rcases h_place : LockPlace.ofStep? step with _ | ⟨place, name, request⟩
    · have h_opens :
          c.session.opens? (.client step) (c.session.move B (.client step)).1 = none := by
        unfold opens? stepOpens?
        simp only [h_place]
      rcases unlocks_of_no_lock B c.session h_place with h_world | ⟨id, o, h_live, h_world⟩
      · exact h.undisturbed h_opens h_world
      · exact h.unlocked h_numbered h_opens h_live h_world
    · rw [LockPlace.lock_of_ofStep? h_place]
      rcases found_or_none c.session place name with ⟨handle, o, h_find, h_object⟩ | h_none
      · exact h.locked h_numbered h_mapped h_find h_object
      · exact h.not_found request h_none
  | receive name bytes descriptor =>
    have h_effect := after_lockEffect (B := B) h_numbered (.receive name bytes descriptor)
    generalize h_deed : c.session.lockDeed? _ _ = deed at h_effect
    cases h_effect with
    | undisturbed h_world => exact h.undisturbed rfl h_world
    | granted _ _ _ _ => exact nomatch h_deed
    | dropped _ _ _ _ _ => exact nomatch h_deed
  | outside devices => exact h.undisturbed rfl (.of_objects (Nat.le_refl _) rfl)

/-- So the record is right in every state that a play reaches. -/
theorem sound_of_play (B : Backend σ) (devices : σ) (kinds : List ManagerKind)
    (moves : List (Move σ)) : ((start B devices kinds).cycles B moves).Sound := by
  -- on the moves, the last one first
  induction moves using List.reverseRecOn with
  | nil => exact nofun
  | append_singleton earlier m ih =>
    have h_numbered := numbered_of_play B devices kinds earlier
    have h_mapped := mappedForCpu_of_play B devices kinds earlier
    rw [← cycles_session] at h_numbered h_mapped
    have h_next := ih.next (B := B) h_numbered h_mapped m
    rw [cycles, List.foldl_append]
    exact h_next

end Cycles

/-! ## Locks inside the one that opened the cycle -/

/-- While a buffer is locked, the locks inside the one that opened its cycle are granted. -/
structure GrantsInside (B : Backend σ) (s : Session σ) (o : BufferObject) (g : Grant) : Prop where
  /-- They make no call, and they leave the object as it is but for the count, -/
  granted : ∀ h request, g.Contains h request → ∀ env, o.lock B h request env =
    (.ok { o with lockCount := o.lockCount + 1 }, env.note (.locking o.lockCount request.usage))
  /-- which goes up by one below its limit. -/
  count : o.lockCount ≠ maxLockCount → (o.lockCount + 1).toNat = o.lockCount.toNat + 1
  /-- The buffer is mapped where the first lock found it, -/
  address : o.address? = g.address
  /-- and nowhere if that lock was for devices only. -/
  device : g.address = none ↔ g.request.usage.cpuAccess = false
  /-- A client that asks for such a lock gets the address of the first one. -/
  step : ∀ (place : LockPlace) name h request, s.handles.find? name = some h →
    place.object? s h = some o → g.Contains h request →
    s.step B (place.lock name request) = (.locked g.address g.address, s.setWorld
      (s.world.addObject { o with lockCount := o.lockCount + 1 }
        (s.world.env.note (.locking o.lockCount request.usage))))

/-- The lock that opened the cycle has left the object in such a state. -/
theorem grantsInside_of_openedBy {o : BufferObject} {g : Grant}
    (h_opened : o.OpenedBy g) (h_mapped : o.MappedForCpu) (B : Backend σ) (s : Session σ) :
    GrantsInside B s o g where
  granted _ _ h_contains := h_opened.lock_inside B h_mapped h_contains
  count := toNat_add_one
  address := h_opened.address.symm
  device := by
    rw [h_opened.address, ← h_opened.mapped, BufferObject.isMapped, BufferObject.address?,
      Option.map_eq_none_iff, Option.isSome_eq_false_iff, Option.isNone_iff_eq_none]
  step place name h request h_find h_object h_contains := by
    rw [step_lock_of_object h_find h_object, World.lockObject,
      h_opened.lock_inside B h_mapped h_contains, h_opened.address]
    rfl

/-- Let a client make any moves, on any backend. Every buffer that is locked in the end was opened
    by a lock, and further locks inside that one are granted: for a part of its usage and of its
    region and through the handle as it was, in planar images with both regions at the origin. -/
theorem nested_locks_granted (B : Backend σ) (devices : σ) (kinds : List ManagerKind)
    (moves : List (Move σ)) :
    let c := (start B devices kinds).cycles B moves
    c.session = (start B devices kinds).play B moves ∧
      ∀ id o, c.session.world.objects.find? id = some o → o.lockCount ≠ 0 →
        ∃ g, c.opener id = some g ∧ GrantsInside B c.session o g := by
  have h_session := cycles_session (B := B) (start B devices kinds) moves
  refine ⟨h_session, fun id o h_live h_locked => ?_⟩
  have h_busy : o.atRest = false := by
    simp only [BufferObject.atRest, h_locked, decide_false, Bool.false_and]
  obtain ⟨g, h_opener, h_opened⟩ := Cycles.sound_of_play B devices kinds moves id o h_live h_busy
  rw [h_session] at h_live
  have h_mapped := mappedForCpu_of_play B devices kinds moves o (Table.mem_values_of_find? h_live)
  exact ⟨g, h_opener, grantsInside_of_openedBy h_opened h_mapped B _⟩

/-- A planar image is painted under a lock of all of it. Parts of it can be locked then, but not one
    that starts elsewhere: its corner lies beyond that of the whole. -/
example :
    let painted := (start systemBackend {} [.full]).play systemBackend
      [.client (.create 0 "a" ⟨16, 16⟩ PixelFormat.yv12 Usage.cpuWriteOften),
       .client (.lock 0 "a" ⟨Usage.cpuWriteOften, ⟨0, 0, 16, 16⟩⟩)]
    (painted.step systemBackend (.lock 0 "a" ⟨Usage.cpuWriteOften, ⟨0, 0, 7, 5⟩⟩)).1 =
        .locked (some ⟨1, 0⟩) (some ⟨1, 0⟩) ∧
      (painted.step systemBackend (.lock 0 "a" ⟨Usage.cpuWriteOften, ⟨8, 0, 8, 16⟩⟩)).1 =
        .failed (.error .doubleMapping) := by
  decide +kernel

end GraphicsBuffer.Session
