/-
  GraphicsBuffer.Proofs.Backend.History

  The account of what was done is written and never read. In an environment with more in its past
  every operation gives the same answer, leads to the same devices, and adds the same calls and
  reports.
-/

import GraphicsBuffer.BufferObject.Lock
import GraphicsBuffer.Proofs.BufferObject.Storage

namespace GraphicsBuffer

/-- Calls and reports of the past. -/
structure History where
  trace : List Call
  log : List LogEntry

/-! ## Calls -/

namespace Env

variable {σ : Type} (B : Backend σ) (env : Env σ) (past : History)

/-- The environment with more in its past. -/
def under : Env σ := { env with trace := past.trace ++ env.trace, log := past.log ++ env.log }

/-- The environment with nothing in its past. -/
def forget : Env σ := { env with trace := [], log := [] }

/-- The calls and the reports so far. -/
def history : History := ⟨env.trace, env.log⟩

@[simp] theorem under_devices : (env.under past).devices = env.devices := rfl

@[simp] theorem under_nextBuffer : (env.under past).nextBuffer = env.nextBuffer := rfl

@[simp] theorem under_trace : (env.under past).trace = past.trace ++ env.trace := rfl

@[simp] theorem under_forget : (env.under past).forget = env.forget := rfl

theorem forget_congr {env env' : Env σ} (h_devices : env'.devices = env.devices)
    (h_next : env'.nextBuffer = env.nextBuffer) : env'.forget = env.forget := by
  rw [forget, forget, h_devices, h_next]

theorem forget_under_history : env.forget.under env.history = env := by
  simp [forget, under, history]

@[simp] theorem note_under (entry : LogEntry) :
    (env.under past).note entry = (env.note entry).under past := by
  simp [note, under]

@[simp] theorem note_forget (entry : LogEntry) : (env.note entry).forget = env.forget := rfl

@[simp] theorem record_under (call : Call) (devices : σ) :
    (env.under past).record call devices = (env.record call devices).under past := by
  simp [record, under]

@[simp] theorem create_under (device : DeviceId) (size : Extent) (layout : FourCC)
    (flags : BindFlags) :
    (env.under past).create B device size layout flags =
      ((env.create B device size layout flags).1,
        (env.create B device size layout flags).2.under past) := by
  simp only [create, under_devices, under_nextBuffer, record_under]
  rcases B.create device env.nextBuffer size layout flags env.devices with ⟨f | ⟨⟩, s⟩ <;> rfl

@[simp] theorem importBuffer_under (device : DeviceId) (request : ImportRequest) :
    (env.under past).importBuffer B device request =
      ((env.importBuffer B device request).1,
        (env.importBuffer B device request).2.under past) := by
  simp only [importBuffer, under_devices, under_nextBuffer, record_under]
  rcases B.importBuffer device env.nextBuffer request env.devices with ⟨f | ⟨⟩, s⟩ <;> rfl

@[simp] theorem exportDescriptor_under (id : BufferId) :
    (env.under past).exportDescriptor B id =
      ((env.exportDescriptor B id).1, (env.exportDescriptor B id).2.under past) := by
  simp only [exportDescriptor, under_devices, record_under]

@[simp] theorem map_under (id : BufferId) (region : Rect) (access : Access) :
    (env.under past).map B id region access =
      ((env.map B id region access).1, (env.map B id region access).2.under past) := by
  simp only [map, under_devices, record_under]

@[simp] theorem unmap_under (id : BufferId) (mapping : BackendMapping) :
    (env.under past).unmap B id mapping = (env.unmap B id mapping).under past := by
  simp only [unmap, under_devices, record_under]

@[simp] theorem destroy_under (id : BufferId) :
    (env.under past).destroy B id = (env.destroy B id).under past := by
  simp only [destroy, under_devices, record_under]

end Env

/-! ## Buffer objects -/

namespace BufferObject

variable {σ : Type} (B : Backend σ) (env : Env σ) (past : History)

@[simp] theorem allocate_under (device : DeviceId) (h : Handle) :
    allocate B device h (env.under past) =
      ((allocate B device h env).1, (allocate B device h env).2.under past) := by
  simp only [allocate, storageOf_roomFor]
  rcases storage h with e | ⟨layout, size⟩
  · rfl
  simp only [Env.note_under, Env.create_under]
  rcases (env.note (.creating h.size h.format h.usage.bindFlags)).create B device size layout
      h.usage.bindFlags with ⟨(e | a) | id, created⟩
  · simp only [Env.note_under]
  · rfl
  simp only [Env.exportDescriptor_under]
  rcases created.exportDescriptor B id with ⟨f | descriptor, exported⟩
  · simp only [Env.destroy_under]
  · rfl

@[simp] theorem importFrom_under (device : DeviceId) (h : Handle) :
    importFrom B device h (env.under past) =
      ((importFrom B device h env).1, (importFrom B device h env).2.under past) := by
  simp only [importFrom]
  rcases h.descriptor with _ | descriptor
  · rfl
  rcases storage h with e | ⟨layout, size⟩
  · rfl
  simp only [Env.note_under, Env.importBuffer_under]
  rcases (env.note (.importing size layout)).importBuffer B device
      ⟨size, layout, some descriptor, h.stride, h.modifier⟩ with ⟨(e | a) | id, imported⟩
  · simp only [Env.note_under]
  · rfl
  · rfl

variable (o : BufferObject)

@[simp] theorem destroy_under : o.destroy B (env.under past) = (o.destroy B env).under past := by
  simp only [destroy]
  rcases o.mapping with _ | mapping <;>
    simp only [Env.note_under, Env.unmap_under, Env.destroy_under]

@[simp] theorem openMapping_under (id : BufferId) (h : Handle) (region : Rect) (corner : Corner)
    (access : Access) :
    openMapping B id h region corner access (env.under past) =
      ((openMapping B id h region corner access env).1,
        (openMapping B id h region corner access env).2.under past) := by
  simp only [openMapping, Env.note_under, ← apply_ite fun env : Env σ => env.under past,
    Env.map_under]
  generalize (if (h.format.planar && (region.x ≠ 0 || region.y ≠ 0)) = true then
    env.note (.planarOrigin h.format) else env) = noted
  rcases noted.map B id corner.fromOrigin access with ⟨(e | a) | mapping, mapped⟩
  · simp only [Env.note_under]
  · rfl
  · simp only [Env.note_under]
    split <;> rfl

@[simp] theorem coverRegion_under (h : Handle) (request : LockRequest) (access : Access) :
    o.coverRegion B h request access (env.under past) =
      ((o.coverRegion B h request access env).1,
        (o.coverRegion B h request access env).2.under past) := by
  simp only [coverRegion]
  rcases h.format.mapCorner request.region with e | corner
  · rfl
  rcases o.mapping with _ | mapping
  · simp only [openMapping_under]
    rcases openMapping B o.id h request.region corner access env with ⟨f | mapping, mapped⟩ <;> rfl
  · simp only [Env.note_under]
    split <;> rfl

@[simp] theorem lock_under (h : Handle) (request : LockRequest) :
    o.lock B h request (env.under past) =
      ((o.lock B h request env).1, (o.lock B h request env).2.under past) := by
  simp only [lock, Env.note_under, coverRegion_under]
  split
  · rfl
  split
  · rfl
  split
  · rcases o.coverRegion B h request (request.usage ∪ o.lockedFor).access
        (env.note (.locking o.lockCount request.usage)) with ⟨f | o', covered⟩ <;> rfl
  · rfl

@[simp] theorem unlock_under :
    o.unlock B (env.under past) = ((o.unlock B env).1, (o.unlock B env).2.under past) := by
  simp only [unlock]
  split
  · rfl
  split
  · rcases o.mapping with _ | mapping
    · rfl
    · simp only [Env.unmap_under]
  · rfl

end BufferObject

end GraphicsBuffer
