/-
  GraphicsBuffer.Proofs.Session.CountLimit

  How far the count of locks can be trusted. It is a word, so it tells the locks that are
  outstanding up to the size of a word, and exactly while there are fewer than 2^32 of them
  (`lock_count_modulo_word`). Nothing keeps a client from holding more. With 2^32 locks the count
  is zero, and a buffer that is in use and mapped is taken for one that nobody has locked
  (`lock_count_wraps`).
-/

import GraphicsBuffer.Proofs.Session.Withdrawal

namespace GraphicsBuffer

open BufferObject (permits)

/-! ## Locks on top of each other -/

/-- The object may be locked with a request over and over: all that a lock changes is the count. -/
def BufferObject.Stacks {σ : Type} (B : Backend σ) (o : BufferObject) (h : Handle)
    (request : LockRequest) : Prop :=
  ∀ count env, ∃ env', BufferObject.lock B { o with lockCount := count } h request env =
    (.ok { o with lockCount := count + 1 }, env')

/-- An object that is mapped may be, for what it is locked for and in the region that is mapped. -/
theorem BufferObject.stacks_of_mapped {σ : Type} (B : Backend σ) {o : BufferObject} {h : Handle}
    {request : LockRequest} {corner : Corner} (h_permits : permits h request.usage = true)
    (h_usage : request.usage ⊆ o.lockedFor) (h_mapped : o.isMapped = true)
    (h_corner : h.format.mapCorner request.region = .ok corner)
    (h_inside : corner.within o.mappedCorner = true) : o.Stacks B h request := by
  intro count env
  obtain ⟨mapping, h_mapping⟩ := Option.isSome_iff_exists.mp h_mapped
  -- the lock asks for nothing that the locks around it do not have
  have h_union : request.usage ∪ o.lockedFor = o.lockedFor := FlagSet.union_eq_right h_usage
  have h_nestable : nestable { o with lockCount := count } request.usage = true := by
    simp [nestable, h_usage]
  have h_locked : addLock { o with lockCount := count } o.lockedFor =
      { o with lockCount := count + 1 } := by
    simp [addLock]
  -- and the mapping that is there reaches far enough
  have h_cover : ∀ access env, coverRegion B { o with lockCount := count } h request access env =
      (.ok { o with lockCount := count }, env) := by
    intro access env
    simp [coverRegion, h_corner, h_mapping, h_inside]
  simp only [lock, h_permits, h_nestable, Bool.not_true, Bool.false_eq_true, if_false, h_union,
    h_cover, h_locked]
  split <;> exact ⟨_, rfl⟩

namespace Session

variable {σ : Type} {B : Backend σ} {s : Session σ} {m : ManagerId} {name : Name}
  {handle : Handle} {o : BufferObject} {request : LockRequest}

/-- A handle stands for an object, however often that is locked. -/
structure Piled (s : Session σ) (m : ManagerId) (name : Name) (handle : Handle)
    (o : BufferObject) : Prop where
  manager : (s.world.manager? m).isSome = true
  found : s.handles.find? name = some handle
  lookup : s.world.lookup m handle = some o.id
  object : ∃ count, s.world.objects.find? o.id = some { o with lockCount := count }

namespace Piled

/-- One more lock is granted. It is at the address of the others, and it changes the count only. -/
theorem step_lock (h : Piled s m name handle o) (h_stacks : o.Stacks B handle request) :
    (s.step B (.lock m name request)).1 = .locked o.address? o.address? ∧
      s.stepLockDeed? (.lock m name request) (s.step B (.lock m name request)).1 =
        some (.granted o.id) ∧
      Piled (s.step B (.lock m name request)).2 m name handle o := by
  obtain ⟨manager, h_manager⟩ := Option.isSome_iff_exists.mp h.manager
  obtain ⟨count, h_live⟩ := h.object
  obtain ⟨env, h_lock⟩ := h_stacks count s.world.env
  have h_object : s.world.object? m handle = some { o with lockCount := count } :=
    World.object?_eq_some_iff.mpr ⟨o.id, h.lookup, h_live⟩
  have h_step : s.step B (.lock m name request) = (.locked o.address? o.address?,
      s.setWorld (s.world.addObject { o with lockCount := count + 1 } env)) := by
    simp only [step, withManager, h_manager, withHandle, h.found, World.lock, h_object,
      World.lockObject, h_lock]
    rfl
  have h_target : s.lockTarget? (.lock m name request) = some { o with lockCount := count } := by
    rw [lockTarget?, h.found]
    exact h_object
  rw [h_step]
  refine ⟨rfl, ?_, h.manager, h.found, h.lookup, count + 1, Table.find?_insert_self _ _ _⟩
  simp only [stepLockDeed?, h_target, Option.map_some]

/-- As many more locks are granted as are asked for. -/
theorem locks (h : Piled s m name handle o) (h_stacks : o.Stacks B handle request) (n : Nat) :
    s.answers B (List.replicate n (.client (.lock m name request))) =
        List.replicate n (.locked o.address? o.address?) ∧
      s.lockDeeds B (List.replicate n (.client (.lock m name request))) =
        List.replicate n (.granted o.id) ∧
      Piled (s.play B (List.replicate n (.client (.lock m name request)))) m name handle o := by
  -- on the number of locks; after the first one the handle stands for the object still
  induction n generalizing s with
  | zero => exact ⟨rfl, rfl, h⟩
  | succ n ih =>
    obtain ⟨h_answer, h_deed, h_next⟩ := h.step_lock h_stacks
    obtain ⟨h_answers, h_deeds, h_last⟩ := ih h_next
    refine ⟨?_, ?_, h_last⟩
    · rw [List.replicate_succ, answers, List.replicate_succ]
      exact congrArg₂ _ h_answer h_answers
    · rw [List.replicate_succ, lockDeeds, List.replicate_succ]
      exact congrArg₂ _ (congrArg Option.toList h_deed) h_deeds

end Piled

/-! ## The count is a word -/

/-- What the counts of live objects tell. `deeds` locked and unlocked the buffers. -/
structure CountsModuloWord (B : Backend σ) (s : Session σ) (deeds : List LockDeed) : Prop where
  /-- The count is the number of locks that were granted, less the unlocks that found it positive,
      up to the size of a word. -/
  told : ∀ id o, s.world.objects.find? id = some o →
    deeds.count (.dropped id) ≤ deeds.count (.granted id) ∧
      o.lockCount.toNat = outstanding deeds id % 2 ^ 32
  /-- It is exactly that number as long as there are fewer than 2^32 of them. -/
  exact : ∀ id o, s.world.objects.find? id = some o → outstanding deeds id < 2 ^ 32 →
    o.lockCount.toNat = outstanding deeds id
  /-- A lock that is granted makes the count zero exactly if it is the last of 2^32, or of a
      multiple of them. -/
  granted : ∀ step id, s.stepLockDeed? step (s.step B step).1 = some (.granted id) →
    ∃ o, (s.step B step).2.world.objects.find? id = some o ∧
      (o.lockCount = 0 ↔ 2 ^ 32 ∣ outstanding deeds id + 1)
  /-- A handle is unregistered exactly if it stands for an object with so many locks, or none. -/
  unregistered : ∀ m name manager handle, s.world.manager? m = some manager →
    s.handles.find? name = some handle →
    ((s.step B (.unregister m name)).1 = .done ↔
      ∃ o, s.world.object? m handle = some o ∧ 2 ^ 32 ∣ outstanding deeds o.id)

/-- In every state that a play reaches, however many locks were granted, the counts of the live
    objects tell the locks that are outstanding up to the size of a word, and no better. -/
theorem lock_count_modulo_word (B : Backend σ) (devices : σ) (kinds : List ManagerKind)
    (moves : List (Move σ)) :
    CountsModuloWord B ((start B devices kinds).play B moves)
      ((start B devices kinds).lockDeeds B moves) := by
  have h_numbered := numbered_of_play B devices kinds moves
  have h := tallied_of_play B devices kinds moves
  generalize (start B devices kinds).lockDeeds B moves = deeds at h ⊢
  generalize (start B devices kinds).play B moves = s at *
  refine ⟨fun id o h_live => ⟨h.dropped_le id, h.told h_live⟩,
    fun id o h_live h_few => (h.told h_live).toNat_eq h_few, fun step id h_deed => ?_,
    fun m name manager handle h_manager h_find => ?_⟩
  · have h_effect : LockEffect s.world (s.step B step).2.world (some (.granted id)) :=
      h_deed ▸ after_lockEffect (B := B) h_numbered (.client step)
    cases h_effect with
    | @granted _ o o' h_live h_count h_next h_objects =>
      have h_told : Tells o'.lockCount (outstanding deeds id + 1) :=
        h_count ▸ (h.told h_live).add_one
      refine ⟨o', ?_, h_told.eq_zero_iff.trans Nat.dvd_iff_mod_eq_zero.symm⟩
      rw [h_objects, Function.update_self]
  · rw [step_unregister_done_iff h_manager h_find]
    refine exists_congr fun o => and_congr_right fun h_object => ?_
    obtain ⟨id, -, h_live⟩ := World.object?_eq_some_iff.mp h_object
    rw [(h_numbered id o h_live).1, (h.told h_live).eq_zero_iff, Nat.dvd_iff_mod_eq_zero]

/-! ## More locks than a word can count -/

/-- A lock of a whole buffer to be painted. -/
def paintWhole : Step := .lock 0 "h" ⟨Usage.cpuWriteOften, ⟨0, 0, 8, 8⟩⟩

/-- A buffer is created and locked. -/
def openingMoves : List (Move SystemState) :=
  [.client (.create 0 "h" ⟨8, 8⟩ PixelFormat.rgba8888 Usage.cpuWriteOften), .client paintWhole]

/-- The session in which the buffer has one lock. -/
def opened : Session SystemState :=
  (start systemBackend {} [.full]).play systemBackend openingMoves

/-- The handle of the buffer. -/
def openedHandle : Handle :=
  { Handle.new ⟨8, 8⟩ PixelFormat.rgba8888 Usage.cpuWriteOften with
    stride := 32, descriptor := some (.memory 0), registration := some 1 }

/-- The object of the buffer, mapped for the first lock. -/
def openedObject : BufferObject :=
  { id := 1, mapping := some ⟨⟨1, 0⟩, 32⟩, mappedCorner := ⟨8, 8⟩, lockCount := 1,
    lockedFor := Usage.cpuWriteOften }

theorem opened_piled : Piled opened 0 "h" openedHandle openedObject where
  manager := by decide +kernel
  found := by decide +kernel
  lookup := by decide +kernel
  object := ⟨1, by decide +kernel⟩

theorem openedObject_stacks :
    openedObject.Stacks systemBackend openedHandle ⟨Usage.cpuWriteOften, ⟨0, 0, 8, 8⟩⟩ := by
  have h_corner : openedHandle.format.mapCorner ⟨0, 0, 8, 8⟩ = .ok ⟨8, 8⟩ := by decide +kernel
  exact BufferObject.stacks_of_mapped systemBackend (by decide) (by decide) (by decide) h_corner
    (by decide)

/-- The buffer is locked until it has as many locks as asked for, and one more. -/
def crowdMoves (n : Nat) : List (Move SystemState) :=
  openingMoves ++ List.replicate n (.client paintWhole)

/-- All locks are granted, at one address. All of them are outstanding then, and the handle still
    stands for the buffer. -/
theorem crowded (n : Nat) :
    (start systemBackend {} [.full]).answers systemBackend (crowdMoves n) =
        [.done, .locked (some ⟨1, 0⟩) none] ++
          List.replicate n (.locked (some ⟨1, 0⟩) (some ⟨1, 0⟩)) ∧
      outstanding ((start systemBackend {} [.full]).lockDeeds systemBackend (crowdMoves n)) 1 =
        n + 1 ∧
      Piled ((start systemBackend {} [.full]).play systemBackend (crowdMoves n)) 0 "h"
        openedHandle openedObject := by
  obtain ⟨h_answers, h_deeds, h_piled⟩ := opened_piled.locks openedObject_stacks n
  have h_first : (start systemBackend {} [.full]).answers systemBackend openingMoves =
      [.done, .locked (some ⟨1, 0⟩) none] := by decide +kernel
  have h_one : (start systemBackend {} [.full]).lockDeeds systemBackend openingMoves =
      [.granted 1] := by decide +kernel
  refine ⟨?_, ?_, ?_⟩
  · rw [crowdMoves, answers_append, h_first]
    exact congrArg _ h_answers
  · have h_later : opened.lockDeeds systemBackend (List.replicate n (.client paintWhole)) =
        List.replicate n (.granted 1) := h_deeds
    have h_all : (start systemBackend {} [.full]).lockDeeds systemBackend (crowdMoves n) =
        .granted 1 :: List.replicate n (.granted 1) := by
      rw [crowdMoves, lockDeeds_append, h_one]
      exact congrArg _ h_later
    have h_none : (LockDeed.granted 1 :: List.replicate n (.granted 1)).count (.dropped 1) = 0 := by
      rw [← List.replicate_succ, List.count_replicate]
      rfl
    rw [h_all, outstanding, h_none, List.count_cons_self, List.count_replicate_self, Nat.sub_zero]
  · rw [crowdMoves, play_append]
    exact h_piled

/-- The session in which the buffer has 2^32 locks. -/
def crowd : Session SystemState :=
  (start systemBackend {} [.full]).play systemBackend (crowdMoves (2 ^ 32 - 1))

/-- The locks that were granted up to then. -/
def crowdDeeds : List LockDeed :=
  (start systemBackend {} [.full]).lockDeeds systemBackend (crowdMoves (2 ^ 32 - 1))

/-- With 2^32 locks the count cannot tell them from none. All of them were granted, the last one as
    all others, and none was dropped; still the count is zero while the buffer is mapped, and the
    handle can be unregistered. -/
theorem lock_count_wraps :
    (start systemBackend {} [.full]).answers systemBackend (crowdMoves (2 ^ 32 - 1)) =
        [.done, .locked (some ⟨1, 0⟩) none] ++
          List.replicate (2 ^ 32 - 1) (.locked (some ⟨1, 0⟩) (some ⟨1, 0⟩)) ∧
      outstanding crowdDeeds 1 = 2 ^ 32 ∧
      (∃ o, crowd.world.objects.find? 1 = some o ∧ o.isMapped = true ∧ o.lockCount = 0 ∧
        o.lockCount.toNat ≠ outstanding crowdDeeds 1) ∧
      (crowd.step systemBackend (.unregister 0 "h")).1 = .done := by
  obtain ⟨h_answers, h_outstanding, h_piled⟩ := crowded (2 ^ 32 - 1)
  have h_all : outstanding crowdDeeds 1 = 2 ^ 32 :=
    h_outstanding.trans (Nat.sub_add_cancel Nat.one_le_two_pow)
  have h_tallied : Tallied crowdDeeds crowd.world :=
    tallied_of_play systemBackend {} [.full] (crowdMoves (2 ^ 32 - 1))
  have h_piled : Piled crowd 0 "h" openedHandle openedObject := h_piled
  obtain ⟨count, h_live⟩ := h_piled.object
  -- a word is zero if it tells a multiple of its size
  have h_told : Tells count (2 ^ 32) := h_all ▸ h_tallied.told h_live
  have h_zero : count = 0 := h_told.eq_zero_iff.mpr (Nat.mod_self _)
  subst h_zero
  refine ⟨h_answers, h_all, ⟨_, h_live, rfl, rfl, ?_⟩, ?_⟩
  · rw [h_all]
    decide
  · obtain ⟨manager, h_manager⟩ := Option.isSome_iff_exists.mp h_piled.manager
    have h_object : crowd.world.object? 0 openedHandle =
        some { openedObject with lockCount := 0 } :=
      World.object?_eq_some_iff.mpr ⟨openedObject.id, h_piled.lookup, h_live⟩
    exact step_unregister_of_unlocked h_manager h_piled.found h_object rfl

end Session

end GraphicsBuffer
