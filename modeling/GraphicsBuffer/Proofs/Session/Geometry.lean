/-
  GraphicsBuffer.Proofs.Session.Geometry

  Images and the buffers made for them. Whichever way a buffer comes about, and whatever backend it
  is on, it is asked for in the size of the stored image, and the first CPU lock of the whole image
  asks for all of it. In a session on the allocator on shared memory such a lock is therefore
  granted, for as long as the buffer lives, whenever the kernel grants the mapping.
-/

import GraphicsBuffer.Proofs.Session.AbortedLock
import GraphicsBuffer.Proofs.Session.Pairing
import GraphicsBuffer.Proofs.World.Spare

namespace GraphicsBuffer.Session

open BufferObject (allocate importFrom FirstLock)
open World (Numbered Operation MadeFor Watched)

/-! ## Steps that make a buffer -/

/-- The step makes a buffer, and gives the handle for it a name. -/
inductive MakesBuffer (name : Name) : Step → Prop where
  | create (m : ManagerId) (size : Extent) (format : PixelFormat) (usage : Usage) :
    MakesBuffer name (.create m name size format usage)
  | allocate (m : ManagerId) (o : Name) : MakesBuffer name (.allocate m name o)

section Steps

variable [PageSize] {s : Session SystemState} {b : SystemBuffer} {id : BufferId} {name : Name}
  {step : Step}

/-- If the step was done, there is a new buffer for the handle of a name. -/
def Furnishes (s : Session SystemState) (name : Name) (given : Answer × Session SystemState) :
    Prop :=
  given.1 = .done → ∃ b made, given.2.handles.find? name = some made ∧
    MadeFor b s.world.env.nextBuffer made given.2.world

/-- Giving a reference a name takes nothing from a spare buffer. -/
theorem spare_setHolding (h : Watched (Spare b) id s.world.env s.world.objects) (o : Name)
    (holding : Holding) :
    Watched (Spare b) id (s.setHolding systemBackend o holding).world.env
      (s.setHolding systemBackend o holding).world.objects := by
  show Watched (Spare b) id (s.releaseHolding systemBackend o).world.env
    (s.releaseHolding systemBackend o).world.objects
  unfold releaseHolding
  rcases s.holdings.find? o with _ | old
  · exact h
  · exact Operation.spare (.released old.id) h

theorem step_furnishes (h_numbered : Numbered s.world.env s.world.objects)
    (h_makes : MakesBuffer name step) : Furnishes s name (s.step systemBackend step) := by
  cases h_makes with
  | create m size format usage =>
    refine withManager_cases nofun fun manager h_manager => ?_
    simp only [World.create, h_manager]
    rcases h_call : allocate systemBackend m (Handle.new size format usage) s.world.env with
      ⟨f | ⟨o, h⟩, env⟩
    · exact nofun
    · intro _
      obtain ⟨b, h_made⟩ := World.madeFor_of_allocate h_numbered h_call
      -- the handle only gets a key besides
      exact ⟨b, _, Table.find?_insert_self _ _ _, ⟨h_made.holds.extent, h_made.holds.stride⟩,
        h_made.descriptor, h_made.unmapped, h_made.nonempty, h_made.watched⟩
  | allocate m o =>
    refine withManager_cases nofun fun manager _ => withHandle_cases nofun fun handle _ => ?_
    simp only [World.allocate]
    rcases h_call : allocate systemBackend m handle s.world.env with ⟨f | ⟨object, h⟩, env⟩
    · exact nofun
    · intro _
      obtain ⟨b, h_made⟩ := World.madeFor_of_allocate h_numbered h_call
      refine ⟨b, h, ?_, h_made.holds, h_made.descriptor, h_made.unmapped, h_made.nonempty,
        spare_setHolding h_made.watched o _⟩
      rw [setHolding_handles]
      exact Table.find?_insert_self _ _ _

end Steps

/-! ## Plays -/

variable {s s₁ s₂ : Session SystemState} {b : SystemBuffer} {id : BufferId} {made : Handle}

/-- A buffer stays spare in every play that touches the buffers by way of the session only, unless
    a lock is aborted for the rows of its mapping. -/
theorem spare_play [PageSize] (h_accounted : Accounted [] s)
    (h : Watched (Spare b) id s.world.env s.world.objects) {moves : List (Move SystemState)}
    (h_left : Obeys (after systemBackend) BuffersLeft s moves)
    (h_sound : Obeys (after systemBackend) (NotAborted systemBackend) s moves) :
    Watched (Spare b) id (s.play systemBackend moves).world.env
      (s.play systemBackend moves).world.objects := by
  refine Accounted.operates_along (J := fun w => Watched (Spare b) id w.env w.objects)
    (fun s m => BuffersLeft s m ∧ NotAborted systemBackend s m) ?_ Operation.spare
    (fun h_move h => watched_drift (spare_abiding b) h_move.1 h) h_accounted h (h_left.and h_sound)
  rintro s m h_move _ h_answer rfl
  exact h_move.2 h_answer

/-- The buffer of an object without a mapping is as it was made, unless it has been left mapped. -/
theorem buffer_of_unmapped [PageSize] (h_accounted : Accounted [] s)
    (h : Watched (Spare b) id s.world.env s.world.objects) {moves : List (Move SystemState)}
    (h_left : Obeys (after systemBackend) BuffersLeft s moves) {o : BufferObject}
    (h_live : (s.play systemBackend moves).world.objects.find? id = some o)
    (h_free : o.mapping = none)
    (h_unmapped : Obeys (after systemBackend) (NotAborted systemBackend) s moves ∨
      ¬(s.play systemBackend moves).world.env.devices.MappedBuffer o.id) :
    (s.play systemBackend moves).world.env.devices.buffers.find? o.id = some b := by
  rcases h_unmapped with h_sound | h_unmapped
  · exact ((spare_play h_accounted h h_left h_sound).holds o h_live).unmapped h_free
  · have h_bare : Watched (IsBare b) id s.world.env s.world.objects :=
      ⟨h.numbered, h.given_out, fun o h_find => (h.holds o h_find).bare⟩
    have h_later : IsBare b o _ :=
      (watched_play (isBare_lasting b) h_accounted h_bare h_left).holds o h_live
    obtain ⟨b', h_find, rfl⟩ := Option.map_eq_some_iff.mp h_later
    have h_none : b'.mapping = none :=
      Option.not_isSome_iff_eq_none.mp fun h_some => h_unmapped ⟨b', h_find, h_some⟩
    rw [h_find, SystemBuffer.unmapped, ← h_none]

/-- A handle that describes the same image, in rows of the same length, describes what a buffer
    holds. -/
theorem holds_of_sameImage {h : Handle} (h_holds : b.Holds made) (h_same : h.SameImage made)
    (h_stride : h.stride = made.stride) : b.Holds h where
  extent := h_same.physicalExtent_eq.trans h_holds.extent
  stride := h_holds.stride.trans h_stride.symm

/-- Wherever the size of an image is needed, it is the same. For every size, usage and format that
    has a layout, on any backend: an allocation, an import and a first CPU lock of the whole image
    ask the backend for one size, that of the stored image, or all fail with one arithmetic error
    before they call it.

    What is made in a session on the allocator on shared memory can be locked so. Whatever happens
    to it afterwards, while its object is live and not locked, a CPU lock of the whole image with a
    handle that still tells its size, format and stride is granted if the kernel maps all of the
    buffer's memory; it fails only if the kernel does not. A lock that is aborted once its buffer is
    mapped leaves that buffer out. -/
theorem geometry_agrees [PageSize] :
    (∀ {σ : Type} (B : Backend σ) (maker taker : DeviceId) (g h l : Handle) (layout : FourCC)
      (o : BufferObject) (usage : Usage) (env₁ env₂ env₃ : Env σ),
      h.format.fourCC? = some layout → g.SameImage h → l.SameImage h → h.descriptor ≠ none →
      FirstLock o l usage →
      (∃ size, h.format.physicalExtent h.size = .ok size ∧
          AsksFor size env₁ (allocate B maker g env₁).2 ∧
          AsksFor size env₂ (importFrom B taker h env₂).2 ∧
          AsksFor size env₃ (o.lock B l (l.wholeImage usage) env₃).2) ∨
        ∃ fault, h.format.physicalExtent h.size = .error (.arithmetic fault) ∧
          FailsEarly (.arithmetic fault) env₁ (allocate B maker g env₁) ∧
          FailsEarly (.arithmetic fault) env₂ (importFrom B taker h env₂) ∧
          FailsEarly (.arithmetic fault) env₃ (o.lock B l (l.wholeImage usage) env₃)) ∧
    ∀ (kernel : Kernel) (kinds : List ManagerKind) (earlier later : List (Move SystemState))
      (step : Step) (name : Name) (made : Handle) (s s₁ s₂ : Session SystemState),
      (start systemBackend { kernel } kinds).play systemBackend earlier = s →
      MakesBuffer name step → s.step systemBackend step = (.done, s₁) →
      s₁.handles.find? name = some made → s₁.play systemBackend later = s₂ →
      Obeys (after systemBackend) BuffersLeft s₁ later →
      ∃ b, made.descriptor = some b.descriptor ∧
        ∀ o, s₂.world.objects.find? s.world.env.nextBuffer = some o →
          (Obeys (after systemBackend) (NotAborted systemBackend) s₁ later ∨
            ¬s₂.world.env.devices.MappedBuffer o.id) →
          ∀ h usage, h.SameImage made → h.stride = made.stride → FirstLock o h usage →
            LocksAsMapped b o h usage s₂.world.env := by
  refine ⟨fun B maker taker g h l layout o usage env₁ env₂ env₃ => ?_, ?_⟩
  · exact BufferObject.sizes_agree B env₁ env₂ env₃
  · rintro kernel kinds earlier later step name made s s₁ s₂ rfl h_makes h_step h_find rfl h_left
    have h_accounted := (accounted_of_play systemBackend { kernel } kinds earlier).of_after
      (B := systemBackend) (.client step)
    have h_furnished := step_furnishes (numbered_of_play systemBackend { kernel } kinds earlier)
      h_makes
    rw [after, move, h_step] at h_accounted
    rw [h_step] at h_furnished
    obtain ⟨b, made', h_found, h_made⟩ := h_furnished rfl
    obtain rfl : made = made' := Option.some.inj (h_find.symm.trans h_found)
    refine ⟨b, h_made.descriptor, fun o h_live h_unmapped h usage h_same h_stride h_first => ?_⟩
    have h_buffer := buffer_of_unmapped h_accounted h_made.watched h_left h_live h_first.unmapped
      h_unmapped
    exact locksAsMapped h_buffer h_made.unmapped (holds_of_sameImage h_made.holds h_same h_stride)
      h_first h_made.nonempty

/-- A session that is about to create a folded image of an odd size. -/
def unfolded : Session SystemState := start systemBackend { kernel := {} } [.full]

/-- An image in two planes of chroma below one of luma is created. -/
def foldingStep : Step := .create 0 "h" ⟨17, 9⟩ PixelFormat.yv12 Usage.cpuWriteOften

/-- The session that has created the image. -/
def folded : Session SystemState := (unfolded.step systemBackend foldingStep).2

/-- The handle of the image. -/
def foldedHandle : Handle :=
  { Handle.new ⟨17, 9⟩ PixelFormat.yv12 Usage.cpuWriteOften with
    stride := 16, descriptor := some (.memory 0), registration := some 1 }

/-- A corner of the image is painted. -/
def cornerMoves : List (Move SystemState) :=
  [.client (.lock 0 "h" ⟨Usage.cpuWriteOften, ⟨0, 0, 4, 4⟩⟩), .client (.unlock 0 "h")]

/-- A handle for an image that is too high to be folded. -/
def towerHandle : Handle := { foldedHandle with height := 0xffffffff }

/-- The image is stored in eight by thirteen texels, wherever its size is needed, and all of it can
    be locked after a part of it has been. -/
theorem geometry_agrees_folded :
    (AsksFor ⟨8, 13⟩ unfolded.world.env
        (allocate systemBackend 0 foldedHandle unfolded.world.env).2 ∧
      AsksFor ⟨8, 13⟩ folded.world.env
        (importFrom systemBackend 0 foldedHandle folded.world.env).2 ∧
      AsksFor ⟨8, 13⟩ folded.world.env
        (({ id := 1 } : BufferObject).lock systemBackend foldedHandle
          (foldedHandle.wholeImage Usage.cpuWriteOften) folded.world.env).2) ∧
    (∃ fault, FailsEarly (.arithmetic fault) folded.world.env
      (importFrom systemBackend 0 towerHandle folded.world.env)) ∧
    ∃ o', (({ id := 1 } : BufferObject).lock systemBackend foldedHandle
        (foldedHandle.wholeImage Usage.cpuWriteOften)
        (folded.play systemBackend cornerMoves).world.env).1 = .ok o' ∧
      o'.address? = some ⟨2, 0⟩ := by
  obtain ⟨h_sizes, h_locks⟩ := geometry_agrees
  have h_layout : PixelFormat.yv12.fourCC? = some FourCC.gr88 := by decide
  have h_first : FirstLock { id := 1 } foldedHandle Usage.cpuWriteOften :=
    ⟨rfl, by decide +kernel, by decide +kernel⟩
  refine ⟨?_, ?_, ?_⟩
  · rcases h_sizes systemBackend 0 0 foldedHandle foldedHandle foldedHandle _ { id := 1 }
      Usage.cpuWriteOften unfolded.world.env folded.world.env folded.world.env h_layout
      ⟨rfl, rfl, rfl⟩ ⟨rfl, rfl, rfl⟩ nofun h_first with ⟨size, h_extent, h_asks⟩ | ⟨_, h_none, -⟩
    · obtain rfl : (⟨8, 13⟩ : Extent) = size := Except.ok.inj h_extent
      exact h_asks
    · exact nomatch h_none
  · rcases h_sizes systemBackend 0 0 towerHandle towerHandle towerHandle _ { id := 1 }
      Usage.cpuWriteOften folded.world.env folded.world.env folded.world.env h_layout
      ⟨rfl, rfl, rfl⟩ ⟨rfl, rfl, rfl⟩ nofun ⟨rfl, by decide +kernel, by decide +kernel⟩ with
      ⟨_, h_extent, -⟩ | ⟨fault, -, -, h_fails, -⟩
    · exact nomatch h_extent
    · exact ⟨fault, h_fails⟩
  · have h_step : unfolded.step systemBackend foldingStep = (.done, folded) :=
      Prod.ext (by decide +kernel) rfl
    have h_later : Obeys (after systemBackend) (NotAborted systemBackend) folded cornerMoves := by
      refine ⟨?_, ?_, True.intro⟩ <;> unfold NotAborted <;> decide +kernel
    obtain ⟨b, -, h_locks⟩ := h_locks {} [.full] [] cornerMoves foldingStep "h" foldedHandle
      unfolded folded _ rfl (.create 0 _ _ _) h_step (by decide +kernel) rfl
      ⟨True.intro, True.intro, True.intro⟩
    have h_whole := h_locks { id := 1 } (by decide +kernel) (.inl h_later) foldedHandle
      Usage.cpuWriteOften ⟨rfl, rfl, rfl⟩ rfl h_first
    have h_granted : ((folded.play systemBackend cornerMoves).world.env.devices.buffers.find? 1).map
        (fun b => (folded.play systemBackend cornerMoves).world.env.devices.kernel.mappable
          b.descriptor b.size Usage.cpuWriteOften.access) = some (.ok 0) := by decide +kernel
    have h_next : (folded.play systemBackend cornerMoves).world.env.devices.kernel.nextMapping =
        2 := by decide +kernel
    rw [h_whole.buffer] at h_granted
    rw [← h_next]
    exact h_whole.granted 0 (Option.some.inj h_granted)

end GraphicsBuffer.Session
