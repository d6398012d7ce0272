/-
  GraphicsBuffer.Proofs.BufferObject.Geometry

  The sizes that a backend is asked for. An allocation, an import and the first CPU lock of a whole
  image each fold the logical size of a handle on their own; all three ask for the size of the
  stored image, and fail alike, before any call, if that does not fit its words.
-/

import GraphicsBuffer.Proofs.BufferObject.Lock
import GraphicsBuffer.Proofs.BufferObject.Origin
import GraphicsBuffer.Proofs.PixelFormat

namespace GraphicsBuffer

/-! ## Sizes in calls -/

/-- The size that a call asks for: of a buffer, or of a region from the origin of its buffer on. -/
def Call.askedSize? : Call → Option Extent
  | .created _ size _ _ _ => some size
  | .imported _ request _ => some request.size
  | .mapped _ region _ _ => if region.x = 0 ∧ region.y = 0 then some region.extent else none
  | _ => none

section Follows

variable {σ α : Type}

/-- Between two environments the backend is asked for one size only. -/
def AsksFor (size : Extent) (before after : Env σ) : Prop :=
  ∃ calls, after.trace = before.trace ++ calls ∧ calls.filterMap Call.askedSize? = [size]

/-- An operation fails before it calls the backend. -/
structure FailsEarly (e : Error) (before : Env σ) (result : Outcome α × Env σ) : Prop where
  answer : result.1 = .error (.error e)
  devices : result.2.devices = before.devices
  trace : result.2.trace = before.trace

/-- An operation asks for the size that there is, or fails early because there is none. -/
def Follows (before : Env σ) (result : Outcome α × Env σ) : Except Error Extent → Prop
  | .ok size => AsksFor size before result.2
  | .error e => FailsEarly e before result

end Follows

/-- Two handles describe images of the same size and format. -/
structure Handle.SameImage (h h' : Handle) : Prop where
  width : h.width = h'.width
  height : h.height = h'.height
  format : h.format = h'.format

/-- They are stored in images of the same size. -/
theorem Handle.SameImage.physicalExtent_eq {h h' : Handle} (h_same : h.SameImage h') :
    h.format.physicalExtent h.size = h'.format.physicalExtent h'.size := by
  rw [h_same.format, Handle.size, Handle.size, h_same.width, h_same.height]

/-- The lock of a whole image. -/
def Handle.wholeImage (h : Handle) (usage : Usage) : LockRequest :=
  ⟨usage, ⟨0, 0, h.width, h.height⟩⟩

namespace BufferObject

variable {σ : Type} {h : Handle} {layout : FourCC}

/-! ## The three paths -/

/-- If the format has a layout, what a backend is given fails to be had with the size only. -/
theorem physicalExtent_of_storage_error {e : Error} (h_layout : h.format.fourCC? = some layout)
    (h_storage : storage h = .error e) : h.format.physicalExtent h.size = .error e := by
  have h_code : h.format.fourCC = .ok layout := by rw [PixelFormat.fourCC, h_layout]
  rw [storage, storageOf, h_code] at h_storage
  rcases h_extent : h.format.physicalExtent h.size with e' | size
  · rw [h_extent] at h_storage
    exact congrArg Except.error (Except.error.inj h_storage)
  · rw [h_extent] at h_storage
    cases h_storage

/-- The size that a backend is given is that of the stored image. -/
theorem physicalExtent_of_storage {size : Extent} (h_storage : storage h = .ok (layout, size)) :
    h.format.physicalExtent h.size = .ok size :=
  (storage_eq_ok_iff.mp h_storage).2

/-- The whole of an image ends at the corner of the stored image. -/
theorem mapCorner_whole (h : Handle) (usage : Usage) :
    h.format.mapCorner (h.wholeImage usage).region =
      (h.format.physicalExtent h.size).map fun stored => ⟨stored.width, stored.height⟩ :=
  h.format.mapCorner_origin h.size

/-- The corner that is mapped is that of the stored image. -/
theorem physicalExtent_of_corner {usage : Usage} {corner : Corner}
    (h_corner : h.format.mapCorner (h.wholeImage usage).region = .ok corner) :
    h.format.physicalExtent h.size = .ok ⟨corner.right, corner.bottom⟩ := by
  rw [mapCorner_whole] at h_corner
  rcases h_extent : h.format.physicalExtent h.size with e | size
  · rw [h_extent] at h_corner
    exact nomatch h_corner
  · rw [h_extent] at h_corner
    obtain rfl := Except.ok.inj h_corner
    rfl

/-- It fails to be had with the size only. -/
theorem physicalExtent_of_corner_error {usage : Usage} {e : Error}
    (h_corner : h.format.mapCorner (h.wholeImage usage).region = .error e) :
    h.format.physicalExtent h.size = .error e := by
  rw [mapCorner_whole] at h_corner
  rcases h_extent : h.format.physicalExtent h.size with e' | size
  · rw [h_extent] at h_corner
    exact congrArg Except.error (Except.error.inj h_corner)
  · rw [h_extent] at h_corner
    exact nomatch h_corner

theorem allocate_follows (B : Backend σ) (device : DeviceId) (env : Env σ)
    (h_layout : h.format.fourCC? = some layout) :
    Follows env (allocate B device h env) (h.format.physicalExtent h.size) := by
  have h_outcome := allocate_outcome B device h env
  generalize allocate B device h env = result at h_outcome
  cases h_outcome with
  | noStorage h_storage =>
    rw [physicalExtent_of_storage_error h_layout h_storage]
    exact ⟨rfl, rfl, rfl⟩
  | aborted h_storage h_create =>
    rw [physicalExtent_of_storage h_storage]
    obtain ⟨-, h_trace, -⟩ := Env.create_spec h_create
    exact ⟨_, h_trace, rfl⟩
  | refused h_storage h_create =>
    rw [physicalExtent_of_storage h_storage]
    obtain ⟨-, h_trace, -⟩ := Env.create_spec h_create
    exact ⟨_, h_trace, rfl⟩
  | @unexported layout size id f _ exported h_storage h_create h_export =>
    rw [physicalExtent_of_storage h_storage]
    obtain ⟨-, h_trace, -⟩ := Env.create_spec h_create
    obtain ⟨-, h_exported, -⟩ := Env.exportDescriptor_spec h_export
    -- neither the descriptor nor the end of the buffer has a size
    have h_destroyed : (exported.destroy B id).trace = env.trace ++
        [.created device size layout h.usage.bindFlags (.ok id), .exported id (.error f),
          .destroyed id] := by
      rw [Env.destroy, Env.record, h_exported, h_trace, List.append_assoc, List.append_assoc]
      rfl
    exact ⟨_, h_destroyed, rfl⟩
  | @allocated layout size id descriptor _ exported h_storage h_create h_export =>
    rw [physicalExtent_of_storage h_storage]
    obtain ⟨-, h_trace, -⟩ := Env.create_spec h_create
    obtain ⟨-, h_exported, -⟩ := Env.exportDescriptor_spec h_export
    have h_both : exported.trace = env.trace ++
        [.created device size layout h.usage.bindFlags (.ok id),
          .exported id (.ok descriptor)] := by
      rw [h_exported, h_trace, List.append_assoc]
      rfl
    exact ⟨_, h_both, rfl⟩

theorem importFrom_follows (B : Backend σ) (device : DeviceId) (env : Env σ)
    (h_layout : h.format.fourCC? = some layout) (h_descriptor : h.descriptor ≠ none) :
    Follows env (importFrom B device h env) (h.format.physicalExtent h.size) := by
  have h_outcome := importFrom_outcome B device h env
  generalize importFrom B device h env = result at h_outcome
  cases h_outcome with
  | noDescriptor h_none => exact absurd h_none h_descriptor
  | noStorage _ h_storage =>
    rw [physicalExtent_of_storage_error h_layout h_storage]
    exact ⟨rfl, rfl, rfl⟩
  | aborted _ h_storage h_import =>
    rw [physicalExtent_of_storage h_storage]
    obtain ⟨-, h_trace, -⟩ := Env.importBuffer_spec h_import
    exact ⟨_, h_trace, rfl⟩
  | refused _ h_storage h_import =>
    rw [physicalExtent_of_storage h_storage]
    obtain ⟨-, h_trace, -⟩ := Env.importBuffer_spec h_import
    exact ⟨_, h_trace, rfl⟩
  | imported _ h_storage h_import =>
    rw [physicalExtent_of_storage h_storage]
    obtain ⟨-, h_trace, -⟩ := Env.importBuffer_spec h_import
    exact ⟨_, h_trace, rfl⟩

/-- A lock for a usage is the first one of an object, is permitted, and is for the CPU. -/
structure FirstLock (o : BufferObject) (h : Handle) (usage : Usage) : Prop where
  free : o.unlocked = o
  permitted : permits h usage = true
  cpu : usage.cpuAccess = true

namespace FirstLock

variable {o : BufferObject} {usage : Usage} (h_first : FirstLock o h usage)

include h_first

theorem unmapped : o.mapping = none := by
  rw [← h_first.free]
  rfl

theorem nestable : o.nestable usage = true := by
  rw [← h_first.free]
  rfl

theorem union_eq : usage ∪ o.lockedFor = usage := by
  rw [← h_first.free, show o.unlocked.lockedFor = ∅ from rfl, FlagSet.union_empty]

theorem cpu_union : (usage ∪ o.lockedFor).cpuAccess = true := by
  rw [h_first.union_eq]
  exact h_first.cpu

end FirstLock

/-- A first CPU lock of a whole image asks for a mapping up to the corner of the stored image. -/
theorem lock_follows (B : Backend σ) {o : BufferObject} {usage : Usage} (env : Env σ)
    (h_first : FirstLock o h usage) :
    Follows env (o.lock B h (h.wholeImage usage) env) (h.format.physicalExtent h.size) := by
  have h_outcome := lock_outcome B o h (h.wholeImage usage) env
  generalize o.lock B h (h.wholeImage usage) env = result at h_outcome
  cases h_outcome with
  | notPermitted h_denied => exact nomatch h_denied.symm.trans h_first.permitted
  | incompatible _ h_denied => exact nomatch h_denied.symm.trans h_first.nestable
  | device _ _ h_device => exact nomatch h_device.symm.trans h_first.cpu_union
  | noCorner _ _ _ h_corner =>
    rw [physicalExtent_of_corner_error h_corner]
    exact ⟨rfl, rfl, rfl⟩
  | unmapped _ _ _ h_corner _ h_open =>
    rw [physicalExtent_of_corner h_corner]
    obtain ⟨given, -, h_trace, -⟩ := openMapping_spec h_open
    exact ⟨_, h_trace, rfl⟩
  | mapped _ _ _ h_corner _ h_open =>
    rw [physicalExtent_of_corner h_corner]
    obtain ⟨given, -, h_trace, -⟩ := openMapping_spec h_open
    exact ⟨_, h_trace, rfl⟩
  | beyond _ _ _ _ h_mapping _ => exact nomatch h_mapping.symm.trans h_first.unmapped
  | shared _ _ _ _ h_mapping _ => exact nomatch h_mapping.symm.trans h_first.unmapped

/-- An allocation, an import and a first CPU lock of one whole image ask for its stored size, or
    fail early because there is none. -/
theorem sizes_agree (B : Backend σ) {maker taker : DeviceId} {g l : Handle} {o : BufferObject}
    {usage : Usage} (env₁ env₂ env₃ : Env σ) (h_layout : h.format.fourCC? = some layout)
    (h_made : g.SameImage h) (h_locked : l.SameImage h) (h_descriptor : h.descriptor ≠ none)
    (h_first : FirstLock o l usage) :
    (∃ size, h.format.physicalExtent h.size = .ok size ∧
        AsksFor size env₁ (allocate B maker g env₁).2 ∧
        AsksFor size env₂ (importFrom B taker h env₂).2 ∧
        AsksFor size env₃ (o.lock B l (l.wholeImage usage) env₃).2) ∨
      ∃ fault, h.format.physicalExtent h.size = .error (.arithmetic fault) ∧
        FailsEarly (.arithmetic fault) env₁ (allocate B maker g env₁) ∧
        FailsEarly (.arithmetic fault) env₂ (importFrom B taker h env₂) ∧
        FailsEarly (.arithmetic fault) env₃ (o.lock B l (l.wholeImage usage) env₃) := by
  have h_allocate := allocate_follows B maker env₁ (h_made.format ▸ h_layout)
  have h_import := importFrom_follows B taker env₂ h_layout h_descriptor
  have h_lock := lock_follows B env₃ h_first
  rw [h_made.physicalExtent_eq] at h_allocate
  rw [h_locked.physicalExtent_eq] at h_lock
  rcases h_extent : h.format.physicalExtent h.size with e | size
  · obtain ⟨fault, rfl⟩ := PixelFormat.physicalExtent_error h_extent
    rw [h_extent] at h_allocate h_import h_lock
    exact .inr ⟨fault, rfl, h_allocate, h_import, h_lock⟩
  · rw [h_extent] at h_allocate h_import h_lock
    exact .inl ⟨size, rfl, h_allocate, h_import, h_lock⟩

end BufferObject

end GraphicsBuffer
