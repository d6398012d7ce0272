/-
  GraphicsBuffer.Proofs.Session.Bounds

  The regions that a buffer can be locked in. In a session on the allocator on shared memory, a
  first CPU lock with a handle as it was made is granted exactly if its region lies in the image, in
  unbounded numbers (`first_lock_bounds`). The exception is a buffer that a lock with another handle
  has left mapped when it was aborted: it is not locked in any region (`first_lock_after_abort`).
-/

import GraphicsBuffer.Proofs.BufferObject.FirstLock
import GraphicsBuffer.Proofs.Session.Geometry
import GraphicsBuffer.Proofs.Session.LockStep
import GraphicsBuffer.Proofs.World.Registration

namespace GraphicsBuffer.Session

open BufferObject (FirstLock AcceptsInside AcceptsNothing)
open World (Numbered Behind)

variable {s s₁ s₂ : Session SystemState} {name : Name} {step : Step} {o : BufferObject}
  {h : Handle} {usage : Usage}

/-! ## Handles that are made -/

/-- The step gives a name to a handle for a new buffer, which it makes or imports. A handle that is
    registered already is not imported again. -/
inductive MakesHandle (s : Session SystemState) (name : Name) : Step → Prop
  | made {step : Step} (h_makes : MakesBuffer name step) : MakesHandle s name step
  | registered (m : ManagerId) {handle : Handle} (h_find : s.handles.find? name = some handle)
    (h_new : handle.registration = none) : MakesHandle s name (.register m name)
  | imported (m : ManagerId) (o : Name) : MakesHandle s name (.importFrom m name o)

/-- If the step was done, the next buffer is behind the handle of a name. -/
def Backs (s : Session SystemState) (name : Name) (given : Answer × Session SystemState) : Prop :=
  given.1 = .done → ∃ b made, given.2.handles.find? name = some made ∧
    Behind b s.world.env.nextBuffer made given.2.world

theorem step_backs [PageSize] (h_numbered : Numbered s.world.env s.world.objects)
    (h_makes : MakesHandle s name step) : Backs s name (s.step systemBackend step) := by
  cases h_makes with
  | made h_makes =>
    intro h_done
    obtain ⟨b, made, h_find, h_made⟩ := step_furnishes h_numbered h_makes h_done
    exact ⟨b, made, h_find, h_made.behind⟩
  | @registered m handle h_find h_new =>
    refine withManager_cases nofun fun manager h_manager =>
      withHandle_cases nofun fun handle' h_find' => ?_
    obtain rfl : handle = handle' := Option.some.inj (h_find.symm.trans h_find')
    rcases World.register_of_unregistered systemBackend h_manager h_new with
      ⟨f, env, -, h_register⟩ | ⟨env, h_call, h_register⟩
    · rw [h_register]
      exact nofun
    · rw [h_register]
      intro _
      have h_reported : (s.world.adopting handle).nextBuffer = s.world.env.nextBuffer := rfl
      obtain ⟨b, h_behind⟩ := World.behind_of_importFrom h_numbered h_reported h_call
      -- the handle only gets a key besides
      exact ⟨b, _, Table.find?_insert_self _ _ _, ⟨h_behind.holds.extent, h_behind.holds.stride⟩,
        h_behind.descriptor, h_behind.unmapped, h_behind.watched⟩
  | imported m o =>
    refine withManager_cases nofun fun manager _ => withHandle_cases nofun fun handle h_find => ?_
    simp only [World.importFrom]
    rcases h_call : BufferObject.importFrom systemBackend m handle s.world.env with
      ⟨f | object, env⟩
    · rintro ⟨⟩
    · intro _
      obtain ⟨b, h_behind⟩ := World.behind_of_importFrom h_numbered rfl h_call
      refine ⟨b, handle, ?_, h_behind.holds, h_behind.descriptor, h_behind.unmapped,
        spare_setHolding h_behind.watched o _⟩
      rw [setHolding_handles]
      exact h_find

/-! ## First locks -/

/-- The answer to a lock of an object is that of the object, which tells its address. -/
theorem lockObject_answer {σ : Type} (B : Backend σ) (w : World σ) (o : BufferObject) (h : Handle)
    (request : LockRequest) : (w.lockObject B o h request).1 =
      (o.lock B h request w.env).1.map (·.address?) := by
  rw [World.lockObject]
  rcases o.lock B h request w.env with ⟨f | o', env⟩ <;> rfl

/-- The kernel grants a first CPU lock its mapping: the memory of the buffer is not empty, and the
    kernel maps it. -/
def KernelGrants (b : SystemBuffer) (usage : Usage) (w : World SystemState) : Prop :=
  0 < b.size ∧ ∃ memory,
    w.env.devices.kernel.mappable b.descriptor b.size usage.access = .ok memory

/-- What first CPU locks of an object answer, with handles that describe an image like the one that
    its buffer was made for. -/
structure ChecksBounds [PageSize] (b : SystemBuffer) (made : Handle) (w : World SystemState)
    (o : BufferObject) : Prop where
  /-- If the buffer is not mapped, it is as it was made, -/
  buffer : o.mapping = none → ¬w.env.devices.MappedBuffer o.id →
    w.env.devices.buffers.find? o.id = some b
  /-- and just the regions that lie in the image are granted. -/
  unmapped : ¬w.env.devices.MappedBuffer o.id → ∀ h usage, h.SameImage made →
    h.stride = made.stride → FirstLock o h usage → KernelGrants b usage w →
    AcceptsInside h ⟨w.env.devices.kernel.nextMapping, 0⟩ fun r =>
      (w.lockObject systemBackend o h ⟨usage, r⟩).1
  /-- If it is mapped, none are, whatever the handle tells. -/
  mapped : w.env.devices.MappedBuffer o.id → ∀ h usage, FirstLock o h usage →
    AcceptsNothing h fun r => (w.lockObject systemBackend o h ⟨usage, r⟩).1

theorem checksBounds [PageSize] {b : SystemBuffer} {made : Handle} {w : World SystemState}
    (h_holds : b.Holds made) (h_unmapped : b.mapping = none)
    (h_buffer : o.mapping = none → ¬w.env.devices.MappedBuffer o.id →
      w.env.devices.buffers.find? o.id = some b) : ChecksBounds b made w o where
  buffer := h_buffer
  unmapped h_free h usage h_same h_stride h_first h_kernel := by
    obtain ⟨h_size, memory, h_granted⟩ := h_kernel
    simp only [lockObject_answer]
    exact h_first.acceptsInside (h_buffer h_first.unmapped h_free) h_unmapped
      (holds_of_sameImage h_holds h_same h_stride) h_size h_granted
  mapped h_mapped h usage h_first := by
    simp only [lockObject_answer]
    -- the allocator refuses a second mapping before it looks at the region
    refine h_first.acceptsNothing fun corner => ⟨.doubleMapping, ?_⟩
    rw [h_mapped.map_eq]

/-- Let a handle be made by a step of a session, for a buffer that the step creates or imports, and
    let only the session touch the buffers afterwards. As long as the object is live, its first CPU
    locks with a handle that tells the same size, format and stride, on memory that the kernel maps,
    are granted exactly in the regions that lie in the image. Others fail with an arithmetic error
    or for want of a mapping, by whether their corner fits its words. All that can come between is
    a lock that is aborted for the rows of its mapping: it leaves the buffer mapped, and a buffer
    that is mapped already is locked in no region. A client is answered as the object is. -/
theorem first_lock_bounds [PageSize] (kernel : Kernel) (kinds : List ManagerKind)
    (earlier later : List (Move SystemState)) {made : Handle}
    (h_reached : (start systemBackend { kernel } kinds).play systemBackend earlier = s)
    (h_makes : MakesHandle s name step) (h_step : s.step systemBackend step = (.done, s₁))
    (h_find : s₁.handles.find? name = some made) (h_later : s₁.play systemBackend later = s₂)
    (h_left : Obeys (after systemBackend) BuffersLeft s₁ later) :
    ∃ b, made.descriptor = some b.descriptor ∧
      ∀ o, s₂.world.objects.find? s.world.env.nextBuffer = some o →
        ChecksBounds b made s₂.world o ∧
        (Obeys (after systemBackend) (NotAborted systemBackend) s₁ later → o.mapping = none →
          ¬s₂.world.env.devices.MappedBuffer o.id) ∧
        ∀ (place : LockPlace) (other : Name) (h : Handle), s₂.handles.find? other = some h →
          place.object? s₂ h = some o → ∀ request,
          (s₂.step systemBackend (place.lock other request)).1 =
            lockAnswer o.address? (s₂.world.lockObject systemBackend o h request).1 := by
  subst h_reached h_later
  have h_accounted := (accounted_of_play systemBackend { kernel } kinds earlier).of_after
    (B := systemBackend) (.client step)
  have h_backs := step_backs (numbered_of_play systemBackend { kernel } kinds earlier) h_makes
  rw [after, move, h_step] at h_accounted
  rw [h_step] at h_backs
  obtain ⟨b, made', h_found, h_behind⟩ := h_backs rfl
  obtain rfl : made = made' := Option.some.inj (h_find.symm.trans h_found)
  refine ⟨b, h_behind.descriptor, fun o h_live => ?_⟩
  have h_buffer := buffer_of_unmapped h_accounted h_behind.watched h_left h_live
  refine ⟨?_, fun h_sound h_free h_mapped => ?_, fun place other h h_named h_object request => ?_⟩
  · exact checksBounds h_behind.holds h_behind.unmapped
      fun h_free h_unmapped => h_buffer h_free (.inr h_unmapped)
  · -- it would be as it was made, and so not mapped
    obtain ⟨b', h_there, h_is⟩ := h_mapped
    obtain rfl := Option.some.inj ((h_buffer h_free (.inl h_sound)).symm.trans h_there)
    rw [h_behind.unmapped] at h_is
    cases h_is
  · exact step_lock_answer h_named h_object request

/-- An image is created in one manager and its handle travels to another, which imports it. -/
def parcelMoves : List (Move SystemState) :=
  [.client (.create 0 "a" ⟨17, 9⟩ PixelFormat.yv12 Usage.cpuWriteOften),
   .client (.transfer "a" "b" {} .duplicate)]

/-- The session before the import. -/
def parcel : Session SystemState :=
  (start systemBackend { kernel := {} } [.full, .full]).play systemBackend parcelMoves

/-- The session after it. -/
def unpacked : Session SystemState := (parcel.step systemBackend (.register 1 "b")).2

/-- The handle that has been imported. -/
def unpackedHandle : Handle :=
  { Handle.new ⟨17, 9⟩ PixelFormat.yv12 Usage.cpuWriteOften with
    stride := 16, descriptor := some (.memory 0), registration := some 2 }

/-- The image is stored in eight by thirteen texels. A region is locked that ends at their corner,
    one texel further none is, and a region can reach too far. -/
theorem first_lock_bounds_unpacked :
    let answer (r : Rect) :=
      (unpacked.step systemBackend (.lock 1 "b" ⟨Usage.cpuWriteOften, r⟩)).1
    (∃ address, answer ⟨3, 4, 10, 6⟩ = .locked (some address) none) ∧
      answer ⟨4, 4, 10, 6⟩ = .failed (.error .mappingFailed) ∧
      ∃ fault, answer ⟨4, 4, 10, 0xffffffff⟩ = .failed (.error (.arithmetic fault)) := by
  intro answer
  have h_step : parcel.step systemBackend (.register 1 "b") = (.done, unpacked) :=
    Prod.ext (by decide +kernel) rfl
  have h_find : unpacked.handles.find? "b" = some unpackedHandle := by decide +kernel
  have h_live : unpacked.world.objects.find? parcel.world.env.nextBuffer = some { id := 2 } := by
    decide +kernel
  have h_object : (LockPlace.table 1).object? unpacked unpackedHandle = some { id := 2 } := by
    decide +kernel
  have h_rest : unpacked.play systemBackend [] = unpacked := rfl
  have h_new : ∃ handle, parcel.handles.find? "b" = some handle ∧ handle.registration = none := by
    decide +kernel
  obtain ⟨handle, h_parcel, h_unregistered⟩ := h_new
  obtain ⟨b, -, h_bounds⟩ := first_lock_bounds {} [.full, .full] parcelMoves [] rfl
    (.registered 1 h_parcel h_unregistered) h_step h_find h_rest True.intro
  obtain ⟨h_checks, h_free, h_answer⟩ := h_bounds { id := 2 } h_live
  have h_unmapped := h_free True.intro rfl
  have h_there : unpacked.world.env.devices.buffers.find? 2 =
      some ⟨.memory 0, 4096, ⟨8, 13⟩, 2, 16, none⟩ := by decide +kernel
  obtain rfl := Option.some.inj (h_there.symm.trans (h_checks.buffer rfl h_unmapped))
  have h_first : FirstLock { id := 2 } unpackedHandle Usage.cpuWriteOften :=
    ⟨rfl, by decide +kernel, by decide +kernel⟩
  have h_kernel : KernelGrants ⟨.memory 0, 4096, ⟨8, 13⟩, 2, 16, none⟩ Usage.cpuWriteOften
      unpacked.world := ⟨by decide, 0, by decide +kernel⟩
  have h_regions := h_checks.unmapped h_unmapped unpackedHandle Usage.cpuWriteOften ⟨rfl, rfl, rfl⟩
    rfl h_first h_kernel
  have h_told : ∀ r, answer r = lockAnswer none (unpacked.world.lockObject systemBackend { id := 2 }
      unpackedHandle ⟨Usage.cpuWriteOften, r⟩).1 := fun r =>
    h_answer (.table 1) "b" unpackedHandle h_find h_object ⟨Usage.cpuWriteOften, r⟩
  refine ⟨⟨⟨unpacked.world.env.devices.kernel.nextMapping, 0⟩, ?_⟩, ?_, ?_⟩
  · rw [h_told, (h_regions.granted_iff ⟨3, 4, 10, 6⟩).mpr (by decide)]
    rfl
  · rw [h_told, h_regions.outside ⟨4, 4, 10, 6⟩ (by decide) (by decide)]
    rfl
  · obtain ⟨fault, h_far⟩ := h_regions.tooFar ⟨4, 4, 10, 0xffffffff⟩ (by decide)
    rw [h_told, h_far]
    exact ⟨fault, rfl⟩

/-- A buffer is created, and a client copies its handle, gives the copy a wrong stride and keeps a
    reference to the buffer. -/
def copyMoves : List (Move SystemState) :=
  [.client (.create 0 "a" ⟨16, 16⟩ PixelFormat.rgba8888 Usage.cpuWriteOften),
   .client (.duplicate "a" "b"), .client (.assign "b" { stride := some 68 }),
   .client (.hold 0 "a" "o")]

/-- The session with the two handles. -/
def copied : Session SystemState :=
  (start systemBackend { kernel := {} } [.full]).play systemBackend copyMoves

/-- A lock with the copy is aborted. Then a lock of the whole image fails with the handle that was
    created, though it is a first CPU lock, permitted, in the image, and the kernel maps the memory.
    Without the aborted lock it is granted. -/
theorem first_lock_after_abort :
    let aborted := copied.after systemBackend (.client (.lockObject "o" "b" paintRequest))
    (copied.step systemBackend (.lock 0 "a" paintRequest)).1 = .locked (some ⟨1, 0⟩) none ∧
      (copied.step systemBackend (.lockObject "o" "b" paintRequest)).1 =
        .failed (.abort .strideMismatch) ∧
      (aborted.handles.find? "a" = some intactHandle ∧
        aborted.world.object? 0 intactHandle = some { id := 1 } ∧
        FirstLock { id := 1 } intactHandle paintRequest.usage ∧
        intactHandle.format.LiesIn paintRequest.region intactHandle.size ∧
        KernelGrants ⟨.memory 0, 4096, ⟨16, 16⟩, 4, 64, none⟩ paintRequest.usage aborted.world) ∧
      (aborted.step systemBackend (.lock 0 "a" paintRequest)).1 =
        .failed (.error .mappingFailed) := by
  have h_first : FirstLock { id := 1 } intactHandle paintRequest.usage :=
    ⟨rfl, by decide +kernel, by decide +kernel⟩
  exact ⟨by decide +kernel, by decide +kernel, ⟨by decide +kernel, by decide +kernel, h_first,
    by decide, by decide, 0, by decide +kernel⟩, by decide +kernel⟩

end GraphicsBuffer.Session
