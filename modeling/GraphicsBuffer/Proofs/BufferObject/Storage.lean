/-
  GraphicsBuffer.Proofs.BufferObject.Storage

  The layout and the size that a backend is given. An allocator would have to make a cursor plane
  larger than its image, but no usage asks for one, so an allocation and an import give the
  backend the same.
-/

import GraphicsBuffer.BufferObject

namespace GraphicsBuffer

/-- No usage asks for a cursor plane. -/
theorem Usage.cursor_not_subset_bindFlags (u : Usage) : ¬BindFlags.cursor ⊆ u.bindFlags := by
  unfold bindFlags
  -- each of the three demands is made or not
  split <;> split <;> split <;> decide

namespace BufferObject

variable {h : Handle}

/-- The room for an image is the image itself, whatever it is used for. -/
@[simp] theorem roomFor_bindFlags (u : Usage) (size : Extent) :
    roomFor u.bindFlags size = size :=
  if_neg u.cursor_not_subset_bindFlags

/-- An allocation gives a backend what an import does. -/
theorem storageOf_roomFor (h : Handle) :
    storageOf h.format (roomFor h.usage.bindFlags h.size) = storage h := by
  rw [roomFor_bindFlags, storage]

/-- What a backend is given for a handle is the layout of its format and the size of its folded
    image. -/
theorem storage_eq_ok_iff {layout : FourCC} {size : Extent} : storage h = .ok (layout, size) ↔
    h.format.fourCC = .ok layout ∧ h.format.physicalExtent h.size = .ok size := by
  unfold storage storageOf
  rcases h.format.fourCC with e | layout'
  · simp
  rcases h.format.physicalExtent h.size with e | size'
  · simp
  · simp

/-- It is given nothing if the format has no layout or the folded image has no size. -/
theorem storage_eq_error_of (h_lacks : (∃ e, h.format.fourCC = .error e) ∨
    ∃ e, h.format.physicalExtent h.size = .error e) : ∃ e, storage h = .error e := by
  unfold storage storageOf
  rcases h_layout : h.format.fourCC with e | layout
  · exact ⟨e, rfl⟩
  · obtain ⟨e, h_size⟩ := h_lacks.resolve_left (by simp [h_layout])
    simp only [h_size]
    exact ⟨e, rfl⟩

/-- Without that, an allocation asks nothing of the backend. -/
theorem allocate_of_no_storage {σ : Type} (B : Backend σ) (device : DeviceId) (env : Env σ)
    {e : Error} (h_storage : storage h = .error e) :
    allocate B device h env = (.error (.error e), env) := by
  simp only [allocate, storageOf_roomFor, h_storage]

end BufferObject

end GraphicsBuffer
