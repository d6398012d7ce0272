/-
  GraphicsBuffer.Proofs.BufferObject.Origin

  What allocating and importing a buffer can do, case by case. Either way a buffer object that is
  made is unlocked and stands for the buffer that the backend has just made.
-/

import GraphicsBuffer.Proofs.Backend.Trace
import GraphicsBuffer.Proofs.BufferObject.Storage

namespace GraphicsBuffer.BufferObject

variable {σ : Type}

/-! ## Allocation -/

/-- The answers of an allocation, each with the calls that lead to it. -/
inductive AllocateOutcome (B : Backend σ) (device : DeviceId) (h : Handle) (env : Env σ) :
    Outcome (BufferObject × Handle) × Env σ → Prop where
  /-- The format has no layout or the folded image no size. -/
  | noStorage {e : Error} (h_storage : storage h = .error e) :
    AllocateOutcome B device h env (.error (.error e), env)
  /-- The backend ended the operation. -/
  | aborted {layout : FourCC} {size : Extent} {a : Abort} {env' : Env σ}
      (h_storage : storage h = .ok (layout, size))
      (h_create : (env.note (.creating h.size h.format h.usage.bindFlags)).create B device size
        layout h.usage.bindFlags = (.error (.abort a), env')) :
    AllocateOutcome B device h env (.error (.abort a), env')
  /-- The backend made no buffer. -/
  | refused {layout : FourCC} {size : Extent} {e : Error} {env' : Env σ}
      (h_storage : storage h = .ok (layout, size))
      (h_create : (env.note (.creating h.size h.format h.usage.bindFlags)).create B device size
        layout h.usage.bindFlags = (.error (.error e), env')) :
    AllocateOutcome B device h env
      (.error (.error (.allocationFailed h.size h.format.code h.usage.bits)),
        env'.note (.createFailed h.size h.format h.usage.bindFlags e))
  /-- The backend made a buffer but gave no descriptor of it, and the buffer is freed again. -/
  | unexported {layout : FourCC} {size : Extent} {id : BufferId} {f : Failure}
      {env' env'' : Env σ} (h_storage : storage h = .ok (layout, size))
      (h_create : (env.note (.creating h.size h.format h.usage.bindFlags)).create B device size
        layout h.usage.bindFlags = (.ok id, env'))
      (h_export : env'.exportDescriptor B id = (.error f, env'')) :
    AllocateOutcome B device h env (.error f, env''.destroy B id)
  /-- The buffer is made and the handle describes it. -/
  | allocated {layout : FourCC} {size : Extent} {id : BufferId} {descriptor : Descriptor}
      {env' env'' : Env σ} (h_storage : storage h = .ok (layout, size))
      (h_create : (env.note (.creating h.size h.format h.usage.bindFlags)).create B device size
        layout h.usage.bindFlags = (.ok id, env'))
      (h_export : env'.exportDescriptor B id = (.ok descriptor, env'')) :
    AllocateOutcome B device h env
      (.ok ({ id }, describeIn h descriptor (B.stride id env''.devices)
        (B.modifier id env''.devices)), env'')

theorem allocate_outcome (B : Backend σ) (device : DeviceId) (h : Handle) (env : Env σ) :
    AllocateOutcome B device h env (allocate B device h env) := by
  simp only [allocate, storageOf_roomFor]
  rcases h_storage : storage h with e | ⟨layout, size⟩
  · exact .noStorage h_storage
  rcases h_create : (env.note (.creating h.size h.format h.usage.bindFlags)).create B device size
    layout h.usage.bindFlags with ⟨(e | a) | id, env'⟩
  · simp only [h_create]
    exact .refused h_storage h_create
  · simp only [h_create]
    exact .aborted h_storage h_create
  rcases h_export : env'.exportDescriptor B id with ⟨f | descriptor, env''⟩
  · simp only [h_create, h_export]
    exact .unexported h_storage h_create h_export
  · simp only [h_create, h_export]
    exact .allocated h_storage h_create h_export

/-! ## Import -/

/-- The answers of an import, each with the call that leads to it. -/
inductive ImportOutcome (B : Backend σ) (device : DeviceId) (h : Handle) (env : Env σ) :
    Outcome BufferObject × Env σ → Prop where
  /-- The handle has no descriptor. -/
  | noDescriptor (h_descriptor : h.descriptor = none) :
    ImportOutcome B device h env (.error (.error .missingDescriptor), env)
  /-- The format has no layout or the folded image no size. -/
  | noStorage {descriptor : Descriptor} {e : Error} (h_descriptor : h.descriptor = some descriptor)
      (h_storage : storage h = .error e) :
    ImportOutcome B device h env (.error (.error e), env)
  /-- The backend ended the operation. -/
  | aborted {descriptor : Descriptor} {layout : FourCC} {size : Extent} {a : Abort} {env' : Env σ}
      (h_descriptor : h.descriptor = some descriptor) (h_storage : storage h = .ok (layout, size))
      (h_import : (env.note (.importing size layout)).importBuffer B device
        ⟨size, layout, some descriptor, h.stride, h.modifier⟩ = (.error (.abort a), env')) :
    ImportOutcome B device h env (.error (.abort a), env')
  /-- The backend did not take the memory. -/
  | refused {descriptor : Descriptor} {layout : FourCC} {size : Extent} {e : Error} {env' : Env σ}
      (h_descriptor : h.descriptor = some descriptor) (h_storage : storage h = .ok (layout, size))
      (h_import : (env.note (.importing size layout)).importBuffer B device
        ⟨size, layout, some descriptor, h.stride, h.modifier⟩ = (.error (.error e), env')) :
    ImportOutcome B device h env (.error (.error (.importFailed h.size h.format.code)),
      env'.note (.importFailed e))
  /-- The buffer is imported. -/
  | imported {descriptor : Descriptor} {layout : FourCC} {size : Extent} {id : BufferId}
      {env' : Env σ} (h_descriptor : h.descriptor = some descriptor)
      (h_storage : storage h = .ok (layout, size))
      (h_import : (env.note (.importing size layout)).importBuffer B device
        ⟨size, layout, some descriptor, h.stride, h.modifier⟩ = (.ok id, env')) :
    ImportOutcome B device h env (.ok { id }, env')

theorem importFrom_outcome (B : Backend σ) (device : DeviceId) (h : Handle) (env : Env σ) :
    ImportOutcome B device h env (importFrom B device h env) := by
  unfold importFrom
  rcases h_descriptor : h.descriptor with _ | descriptor
  · exact .noDescriptor h_descriptor
  rcases h_storage : storage h with e | ⟨layout, size⟩
  · exact .noStorage h_descriptor h_storage
  rcases h_import : (env.note (.importing size layout)).importBuffer B device
    ⟨size, layout, some descriptor, h.stride, h.modifier⟩ with ⟨(e | a) | id, env'⟩
  · simp only [h_import]
    exact .refused h_descriptor h_storage h_import
  · simp only [h_import]
    exact .aborted h_descriptor h_storage h_import
  · simp only [h_import]
    exact .imported h_descriptor h_storage h_import

/-! ## The object that is made -/

section Made

variable {B : Backend σ} {device : DeviceId} {h h' : Handle} {env env' : Env σ} {o : BufferObject}

/-- An allocated object is fresh and has the next number; the handle keeps its registration. -/
theorem allocate_ok (h_call : allocate B device h env = (.ok (o, h'), env')) :
    o = { id := env.nextBuffer } ∧ env'.nextBuffer = env.nextBuffer + 1 ∧
      h'.registration = h.registration := by
  have h_outcome := h_call ▸ allocate_outcome B device h env
  cases h_outcome with
  | allocated h_storage h_create h_export =>
    -- of the two calls only the first gives a number out
    obtain ⟨-, -, h_next⟩ := Env.create_spec h_create
    obtain ⟨-, -, h_kept⟩ := Env.exportDescriptor_spec h_export
    rcases h_next with ⟨f, h_answer, -⟩ | ⟨h_answer, h_next, -⟩
    · exact nomatch h_answer
    · cases h_answer
      exact ⟨rfl, h_kept.trans h_next, rfl⟩

/-- An imported object is fresh and has the next number. -/
theorem importFrom_ok (h_call : importFrom B device h env = (.ok o, env')) :
    o = { id := env.nextBuffer } ∧ env'.nextBuffer = env.nextBuffer + 1 := by
  have h_outcome := h_call ▸ importFrom_outcome B device h env
  cases h_outcome with
  | imported h_descriptor h_storage h_import =>
    obtain ⟨-, -, h_next⟩ := Env.importBuffer_spec h_import
    rcases h_next with ⟨f, h_answer, -⟩ | ⟨h_answer, h_next, -⟩
    · exact nomatch h_answer
    · cases h_answer
      exact ⟨rfl, h_next⟩

/-- Numbers of buffers only grow, whatever comes of an allocation. -/
theorem allocate_nextBuffer_le {answer : Outcome (BufferObject × Handle)}
    (h_call : allocate B device h env = (answer, env')) : env.nextBuffer ≤ env'.nextBuffer := by
  have h_outcome := h_call ▸ allocate_outcome B device h env
  cases h_outcome with
  | noStorage _ => exact Nat.le_refl _
  | aborted _ h_create => exact (Env.create_nextBuffer_le h_create :)
  | refused _ h_create => exact (Env.create_nextBuffer_le h_create :)
  | unexported _ h_create h_export =>
    obtain ⟨-, -, h_kept⟩ := Env.exportDescriptor_spec h_export
    rw [Env.destroy_nextBuffer, h_kept]
    exact (Env.create_nextBuffer_le h_create :)
  | allocated _ h_create h_export =>
    obtain ⟨-, -, h_kept⟩ := Env.exportDescriptor_spec h_export
    rw [h_kept]
    exact (Env.create_nextBuffer_le h_create :)

theorem importFrom_nextBuffer_le {answer : Outcome BufferObject}
    (h_call : importFrom B device h env = (answer, env')) : env.nextBuffer ≤ env'.nextBuffer := by
  have h_outcome := h_call ▸ importFrom_outcome B device h env
  cases h_outcome with
  | noDescriptor _ => exact Nat.le_refl _
  | noStorage _ _ => exact Nat.le_refl _
  | aborted _ _ h_import => exact (Env.importBuffer_nextBuffer_le h_import :)
  | refused _ _ h_import => exact (Env.importBuffer_nextBuffer_le h_import :)
  | imported _ _ h_import => exact (Env.importBuffer_nextBuffer_le h_import :)

end Made

end GraphicsBuffer.BufferObject
