/-
  GraphicsBuffer.Proofs.Session.RunsThrough

  Nothing that a client does through the managers brings the allocator on shared memory down.
  Whatever sizes, formats, usages and regions it asks for, whatever bytes arrive and whatever
  becomes of the kernel, no move of a careful client is aborted, every mapping has the stride of the
  handle it was asked for with, and no count or size wraps.
-/

import GraphicsBuffer.Proofs.Session.LockState
import GraphicsBuffer.Proofs.Session.MappedRegion
import GraphicsBuffer.Proofs.Session.Stride

namespace GraphicsBuffer

open BufferObject (maxLockCount)

/-! ## Counts -/

namespace World

variable {σ : Type} {B : Backend σ} {w w' : World σ} {o : BufferObject}

/-- A lock that is granted counts one more. -/
theorem lockObject_counts {h : Handle} {request : LockRequest} {address : Option Address}
    (h_count : o.lockCount ≠ maxLockCount)
    (h_lock : w.lockObject B o h request = (.ok address, w')) :
    ∃ o', w'.objects.find? o.id = some o' ∧ o'.lockCount.toNat = o.lockCount.toNat + 1 := by
  have h_next : (o.lockCount + 1).toNat = o.lockCount.toNat + 1 := by
    have h_below : o.lockCount.toNat < 2 ^ 32 := o.lockCount.toNat_lt
    have h_last : o.lockCount.toNat ≠ 2 ^ 32 - 1 := fun h_eq => h_count (UInt32.toNat_inj.mp h_eq)
    have h_one : (1 : UInt32).toNat = 1 := rfl
    rw [UInt32.toNat_add, h_one, Nat.mod_eq_of_lt (by omega)]
  have h_outcome := BufferObject.lock_outcome B o h request w.env
  simp only [lockObject] at h_lock
  rcases h_call : o.lock B h request w.env with ⟨f | o', env⟩
  · rw [h_call] at h_lock
    cases (Prod.mk.inj h_lock).1
  rw [h_call] at h_lock h_outcome
  obtain ⟨-, rfl⟩ := Prod.mk.inj h_lock
  have h_made : o'.id = o.id ∧ o'.lockCount = o.lockCount + 1 := by
    cases h_outcome with
    | device _ _ _ => exact ⟨rfl, rfl⟩
    | mapped _ _ _ _ _ _ => exact ⟨rfl, rfl⟩
    | shared _ _ _ _ _ _ => exact ⟨rfl, rfl⟩
  obtain ⟨h_id, h_more⟩ := h_made
  refine ⟨o', ?_, h_more ▸ h_next⟩
  rw [← h_id]
  exact Table.find?_insert_self _ _ _

/-- Dropping a lock counts one less; without a lock the count stays at zero. -/
theorem unlockObject_counts (o : BufferObject) :
    ∃ o', (w.unlockObject B o).objects.find? o.id = some o' ∧
      o'.lockCount.toNat = o.lockCount.toNat - 1 := by
  have h_outcome := BufferObject.unlock_outcome B o w.env
  simp only [unlockObject]
  rcases h_call : o.unlock B w.env with ⟨o', env⟩
  rw [h_call] at h_outcome
  have h_made : o'.id = o.id ∧ o'.lockCount.toNat = o.lockCount.toNat - 1 := by
    cases h_outcome with
    | idle h_none => exact ⟨rfl, by rw [h_none]; rfl⟩
    | inner h_some h_more =>
      have h_pos : o.lockCount.toNat ≠ 0 := fun h_eq => h_some (UInt32.toNat_inj.mp h_eq)
      have h_one : (1 : UInt32) ≤ o.lockCount :=
        UInt32.le_iff_toNat_le.mpr (Nat.pos_of_ne_zero h_pos)
      exact ⟨rfl, UInt32.toNat_sub_of_le _ _ h_one⟩
    | last h_one _ => exact ⟨rfl, by rw [h_one]; rfl⟩
    | lastMapped h_one _ => exact ⟨rfl, by rw [h_one]; rfl⟩
  obtain ⟨h_id, h_less⟩ := h_made
  refine ⟨o', ?_, h_less⟩
  rw [← h_id]
  exact Table.find?_insert_self _ _ _

end World

namespace Session

/-! ## Answers -/

/-- The answer tells of no abort. -/
def Unaborted {σ : Type} (answer : Answer × Session σ) : Prop :=
  ∀ a, answer.1 ≠ .failed (.abort a)

namespace Unaborted

variable {σ : Type} {s s' : Session σ}

theorem of_error {e : Error} : Unaborted ((.failed (.error e), s') : Answer × Session σ) := nofun

theorem refused {why : Refusal} : Unaborted ((.refused why, s') : Answer × Session σ) := nofun

theorem of_failure {f : Failure} (h_abort : ∀ a, f ≠ .abort a) :
    Unaborted ((.failed f, s') : Answer × Session σ) :=
  fun a h_answer => h_abort a (Answer.failed.inj h_answer)

theorem keepHandle {h : Name} {answer : Outcome Handle × World σ}
    (h_abort : ∀ a, answer.1 ≠ .error (.abort a)) : Unaborted (s.keepHandle h answer) := by
  obtain ⟨f | handle, w⟩ := answer
  · exact of_failure fun a h_f => h_abort a (congrArg _ h_f)
  · exact nofun

theorem keepLock {before : Option BufferObject} {answer : Outcome (Option Address) × World σ}
    (h_abort : ∀ a, answer.1 ≠ .error (.abort a)) : Unaborted (s.keepLock before answer) := by
  obtain ⟨f | address, w⟩ := answer
  · exact of_failure fun a h_f => h_abort a (congrArg _ h_f)
  · exact nofun

end Unaborted

section Steps

variable [PageSize] {s : Session SystemState}

/-- No step of a careful client is aborted if handles and buffers agree. -/
theorem step_unaborted (h : Agreeing s) (step : Step) (h_careful : Careful s (.client step)) :
    Unaborted (s.step systemBackend step) := by
  cases step with
  | new h size format usage => simp [step, Unaborted]
  | duplicate h target =>
    refine withHandle_cases .refused fun handle _ => ?_
    rcases handle.duplicate with e | copy
    · exact .of_error
    · simp [Unaborted]
  | assign h edit => exact withHandle_cases .refused fun _ _ => by simp [Unaborted]
  | transfer h target damage courier =>
    refine withHandle_cases .refused fun handle _ => ?_
    simp only
    rcases Handle.ofWire (damage.apply handle.toWire.encode) (courier.deliver handle) with
      e | arrived
    · exact .of_error
    · simp [Unaborted]
  | dropHandle h => simp [step, Unaborted]
  | dropManager m =>
    simp only [step]
    split <;> simp [Unaborted]
  | create m h size format usage =>
    refine withManager_cases .refused fun _ _ => .keepHandle ?_
    rcases h_create : s.world.create systemBackend m size format usage with ⟨answer, w⟩
    exact (World.create_stride h_create).1
  | register m h =>
    refine withManager_cases .refused fun _ _ => withHandle_cases .refused fun handle _ => ?_
    rcases h_register : s.world.register systemBackend m handle with ⟨answer, w⟩
    exact .keepHandle (World.register_stride h_register).1
  | unregister m h =>
    refine withManager_cases .refused fun _ _ => withHandle_cases .refused fun handle _ => ?_
    exact .keepHandle fun _ => World.unregister_not_aborted
  | lock m name request =>
    refine withManager_cases .refused fun _ _ => withHandle_cases .refused fun handle h_find => ?_
    unfold World.lock
    rcases h_object : s.world.object? m handle with _ | o
    · exact .of_error
    · have h_stride := h.stride_of_object h_find h_object
      exact .keepLock (World.lockObject_stride h_stride rfl).1
  | unlock m h =>
    refine withManager_cases .refused fun _ _ => withHandle_cases .refused fun handle _ => ?_
    rcases s.world.unlock systemBackend m handle with ⟨e | ⟨⟩, w⟩
    · exact .of_error
    · simp [Unaborted]
  | resolve m h useDevice =>
    refine withManager_cases .refused fun manager _ => withHandle_cases .refused fun handle _ => ?_
    by_cases h_kind : manager.kind ≠ .registry
    · rw [if_pos h_kind]
      exact .refused
    rw [if_neg h_kind]
    rcases h_resolve : s.world.resolve systemBackend m useDevice handle with
      ⟨f | ⟨found, handle'⟩, w⟩
    · obtain ⟨h_abort, -⟩ := World.resolve_stride h_resolve
      exact .of_failure fun a h_f => h_abort a (congrArg _ h_f)
    · simp [Unaborted]
  | hold m h o =>
    refine withManager_cases .refused fun _ _ => withHandle_cases .refused fun handle _ => ?_
    rcases s.world.hold m handle with ⟨e | id, w⟩
    · exact .of_error
    · simp [Unaborted]
  | allocate _ _ _ => exact h_careful.elim
  | importFrom m h o =>
    refine withManager_cases .refused fun _ _ => withHandle_cases .refused fun handle _ => ?_
    have h_abort : ∀ a, (s.world.importFrom systemBackend m handle).1 ≠ .error (.abort a) :=
      fun _ => World.importFrom_not_aborted
    rcases h_import : s.world.importFrom systemBackend m handle with ⟨f | id, w⟩
    · rw [h_import] at h_abort
      exact .of_failure fun a h_f => h_abort a (congrArg _ h_f)
    · simp [Unaborted]
  | insert _ _ _ => exact h_careful.elim
  | lockObject _ _ _ => exact h_careful.elim
  | unlockObject o => exact withObject_cases .refused fun _ _ _ => by simp [Unaborted]
  | sameObject o other =>
    simp only [step]
    split <;> simp [Unaborted]
  | holding o =>
    simp only [step]
    split <;> simp [Unaborted]
  | release o => simp [step, Unaborted]

theorem move_unaborted (h : Agreeing s) {m : Move SystemState} (h_careful : Careful s m) :
    Unaborted (s.move systemBackend m) := by
  cases m with
  | client step => exact step_unaborted h step h_careful
  | receive name bytes descriptor =>
    simp only [move, receive]
    rcases Handle.ofWire bytes descriptor with e | handle
    · exact .of_error
    · simp [Unaborted]
  | outside devices => simp [move, Unaborted]

/-! ## Plays -/

/-- A move runs through: nothing in it is aborted, and nothing wraps. -/
structure RunsThrough (s : Session SystemState) (m : Move SystemState) : Prop where
  /-- No row length turns out wrong, and no size has no page boundary above it. -/
  unaborted : Unaborted (s.move systemBackend m)
  /-- A handle that resolves has the stride of its buffer. -/
  strides : StridesAgree s
  /-- What a lock maps has the stride of the handle and starts at the first byte. -/
  mapped : ∀ n h request handle o, m = .client (.lock n h request) →
    s.handles.find? h = some handle → s.world.object? n handle = some o →
    ∀ id region access mapping,
      .mapped id region access (.ok mapping) ∈
        s.world.env.callsSince (s.after systemBackend m).world.env →
      mapping.stride = handle.stride ∧ mapping.address.offset = 0
  /-- A lock that is granted counts one more. -/
  locked : ∀ n h request handle o address previous, m = .client (.lock n h request) →
    s.handles.find? h = some handle → s.world.object? n handle = some o →
    (s.move systemBackend m).1 = .locked address previous →
    ∃ o', (s.after systemBackend m).world.objects.find? o.id = some o' ∧
      o'.lockCount.toNat = o.lockCount.toNat + 1
  /-- A lock that is dropped counts one less, down to zero. -/
  unlocked : ∀ n h handle o, m = .client (.unlock n h) → s.handles.find? h = some handle →
    s.world.object? n handle = some o →
    ∃ o', (s.after systemBackend m).world.objects.find? o.id = some o' ∧
      o'.lockCount.toNat = o.lockCount.toNat - 1

theorem runsThrough_of_agreeing (h : Agreeing s) {m : Move SystemState} (h_careful : Careful s m)
    (h_counts : CountsBounded s m) : RunsThrough s m where
  unaborted := move_unaborted h h_careful
  strides := h.strides
  mapped := by
    rintro n name request handle o rfl h_find h_object
    rw [after, move, step_lock_eq h_find h_object request, keepLock_world]
    exact (World.lockObject_stride (h.stride_of_object h_find h_object) rfl).2
  locked := by
    rintro n name request handle o address previous rfl h_find h_object h_answer
    rw [move, step_lock_eq h_find h_object request] at h_answer
    rw [after, move, step_lock_eq h_find h_object request, keepLock_world]
    obtain ⟨id, -, h_live⟩ := World.object?_eq_some_iff.mp h_object
    exact World.lockObject_counts (h_counts o (Table.mem_values_of_find? h_live))
      (Prod.ext (keepLock_locked h_answer) rfl)
  unlocked := by
    rintro n name handle o rfl h_find h_object
    rw [after, move, step_unlock_eq h_find h_object]
    exact World.unlockObject_counts o

end Steps

/-- In every play of a careful client, over any number of managers and from a kernel with any
    memories, every move runs through, as long as no count comes to its end. The rows of any stride
    and height have a size in whole pages. -/
theorem moves_run_through [PageSize] (kernel : Kernel) (kinds : List ManagerKind)
    (moves : List (Move SystemState))
    (h_moves : Obeys (after systemBackend) (fun s m => Careful s m ∧ CountsBounded s m)
      (start systemBackend { kernel } kinds) moves) :
    Obeys (after systemBackend) RunsThrough (start systemBackend { kernel } kinds) moves ∧
      ∀ stride height, ∃ size, bufferSize stride height = .ok size ∧
        size.toNat = Page.ceil (stride.toNat * height.toNat) := by
  refine ⟨?_, bufferSize_eq_ok⟩
  refine Obeys.strengthen (I := Agreeing) ?_ ?_ (.start { kernel } kinds) h_moves
  · rintro s m h ⟨h_careful, -⟩
    exact h.after h_careful
  · rintro s m h ⟨h_careful, h_counts⟩
    exact runsThrough_of_agreeing h h_careful h_counts

/-- A memory is there from elsewhere. A planar image of odd size is created by one manager and
    locked twice. A copy of its handle travels, is told a stride for which the memory is too small
    and is refused by another manager; told the right one, it is registered there, asked for a
    region whose corner does not fit its words, locked, and given up again. Bytes that describe the
    memory from elsewhere arrive, and the last pixel of the image in it is locked. -/
def travelMoves : List (Move SystemState) :=
  [.outside { kernel := { memories := [⟨[], 8192, false, fun _ => 0⟩] } },
   .client (.create 0 "h" ⟨63, 33⟩ PixelFormat.yv12 Usage.cpuWriteOften),
   .client (.lock 0 "h" ⟨Usage.cpuWriteOften, ⟨0, 0, 63, 33⟩⟩),
   .client (.lock 0 "h" ⟨Usage.cpuWriteOften, ⟨2, 2, 8, 8⟩⟩),
   .client (.transfer "h" "c" {} .duplicate),
   .client (.assign "c" { stride := some 0xffffffff }),
   .client (.register 1 "c"),
   .client (.assign "c" { stride := some 62 }),
   .client (.register 1 "c"),
   .client (.lock 1 "c" ⟨Usage.cpuWriteOften, ⟨0xffffffff, 0, 63, 33⟩⟩),
   .client (.lock 1 "c" ⟨Usage.cpuWriteOften, ⟨0, 0, 4, 4⟩⟩),
   .client (.unlock 1 "c"),
   .client (.unregister 1 "c"),
   .receive "f" foreignHandle.toWire.encode (some (.memory 0)),
   .client (.register 0 "f"),
   .client (.lock 0 "f" ⟨Usage.cpuWriteOften, ⟨15, 15, 1, 1⟩⟩)]

theorem moves_run_through_travel :
    Obeys (after systemBackend) (fun s m => Careful s m ∧ CountsBounded s m)
        (start systemBackend { kernel := {} } [.full, .full]) travelMoves ∧
      ((start systemBackend { kernel := {} } [.full, .full]).play systemBackend
        travelMoves).world.objects.values.map (fun o => (o.isMapped, o.lockCount)) =
          [(true, 2), (true, 1)] ∧
      Obeys (after systemBackend) RunsThrough
        (start systemBackend { kernel := {} } [.full, .full]) travelMoves := by
  have h_careful : Obeys (after systemBackend) Careful
      (start systemBackend { kernel := {} } [.full, .full]) travelMoves := by
    refine ⟨rfl, True.intro, True.intro, True.intro, True.intro, ?_, True.intro, ?_, True.intro,
      True.intro, True.intro, True.intro, True.intro, True.intro, True.intro, True.intro,
      True.intro⟩
    · exact careful_of_unowned (by decide +kernel)
    · exact careful_of_unowned (by decide +kernel)
  have h_counts : Obeys (after systemBackend) CountsBounded
      (start systemBackend { kernel := {} } [.full, .full]) travelMoves := by
    refine ⟨?_, ?_, ?_, ?_, ?_, ?_, ?_, ?_, ?_, ?_, ?_, ?_, ?_, ?_, ?_, ?_, True.intro⟩ <;>
      unfold CountsBounded <;> decide +kernel
  have h_moves := h_careful.and h_counts
  exact ⟨h_moves, by decide +kernel, (moves_run_through {} [.full, .full] travelMoves h_moves).1⟩

end Session

end GraphicsBuffer
