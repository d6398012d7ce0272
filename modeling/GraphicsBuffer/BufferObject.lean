/-
  GraphicsBuffer.BufferObject

  Live buffers. A buffer object stands for one buffer of a backend together with the state of its
  locks. It is made by allocating a buffer for a handle or by importing the buffer that a handle
  describes; both give the backend the size of the stored image.
-/

import GraphicsBuffer.Backend.Trace
import GraphicsBuffer.Handle

namespace GraphicsBuffer

/-- A buffer and the state of its locks. -/
structure BufferObject where
  id : BufferId
  /-- The CPU mapping in use. -/
  mapping : Option BackendMapping := none
  /-- The corner up to which the mapping reaches. -/
  mappedCorner : Corner := ⟨0, 0⟩
  /-- How many locks are outstanding. -/
  lockCount : UInt32 := 0
  /-- The usages of the outstanding locks together. -/
  lockedFor : Usage := ∅
deriving DecidableEq

namespace BufferObject

variable {σ : Type}

/-- The layout and the size that a backend has to be given for an image. -/
def storageOf (format : PixelFormat) (size : Extent) : Except Error (FourCC × Extent) :=
  match format.fourCC with
  | .error e => .error e
  | .ok layout =>
    match format.physicalExtent size with
    | .error e => .error e
    | .ok size => .ok (layout, size)

/-- The layout and the size that a backend has to be given for a handle. -/
def storage (h : Handle) : Except Error (FourCC × Extent) := storageOf h.format h.size

/-- The least side of a cursor plane. -/
def cursorSide : UInt32 := 64

/-- The size of the image that an allocator has to make room for. -/
def roomFor (flags : BindFlags) (size : Extent) : Extent :=
  if BindFlags.cursor ⊆ flags then ⟨max size.width cursorSide, max size.height cursorSide⟩
  else size

/-- A handle after a buffer was allocated for it: it carries the buffer's descriptor and stride,
    and the buffer's modifier if there is one. -/
def describeIn (h : Handle) (descriptor : Descriptor) (stride : UInt32)
    (modifier : Option UInt64) : Handle :=
  { h with descriptor := some descriptor, stride, modifierWord := modifier.getD h.modifierWord }

/-- Allocates a buffer for a handle on a device. The new buffer is freed again if no descriptor
    of it can be had. -/
def allocate (B : Backend σ) (device : DeviceId) (h : Handle) (env : Env σ) :
    Outcome (BufferObject × Handle) × Env σ :=
  let flags := h.usage.bindFlags
  match storageOf h.format (roomFor flags h.size) with
  | .error e => (.error (.error e), env)
  | .ok (layout, size) =>
    match (env.note (.creating h.size h.format flags)).create B device size layout flags with
    | (.error (.abort a), env) => (.error (.abort a), env)
    | (.error (.error e), env) =>
      -- what the backend said is only reported; the answer names what was asked for
      (.error (.error (.allocationFailed h.size h.format.code h.usage.bits)),
        env.note (.createFailed h.size h.format flags e))
    | (.ok id, env) =>
      match env.exportDescriptor B id with
      -- nothing names the buffer yet, so nobody else would free it
      | (.error f, env) => (.error f, env.destroy B id)
      | (.ok descriptor, env) =>
        (.ok ({ id }, describeIn h descriptor (B.stride id env.devices)
          (B.modifier id env.devices)), env)

/-- Imports the buffer that a handle describes. -/
def importFrom (B : Backend σ) (device : DeviceId) (h : Handle) (env : Env σ) :
    Outcome BufferObject × Env σ :=
  match h.descriptor with
  | none => (.error (.error .missingDescriptor), env)
  | some descriptor =>
    match storage h with
    | .error e => (.error (.error e), env)
    | .ok (layout, size) =>
      -- the stride is what the handle claims; the backend has to check it
      let request := { size, layout, descriptor := some descriptor, stride := h.stride,
                       modifier := h.modifier }
      match (env.note (.importing size layout)).importBuffer B device request with
      | (.error (.abort a), env) => (.error (.abort a), env)
      | (.error (.error e), env) =>
        (.error (.error (.importFailed h.size h.format.code)), env.note (.importFailed e))
      | (.ok id, env) => (.ok { id }, env)

/-- Frees the buffer of an object, first ending a mapping that is still in use. -/
def destroy (B : Backend σ) (o : BufferObject) (env : Env σ) : Env σ :=
  match o.mapping with
  | none => env.destroy B o.id
  | some mapping =>
    ((env.note (.destroyedLocked o.lockCount)).unmap B o.id mapping).destroy B o.id

/-- Whether a CPU mapping is in use. -/
def isMapped (o : BufferObject) : Bool := o.mapping.isSome

/-- The address that the outstanding locks share. -/
def address? (o : BufferObject) : Option Address := o.mapping.map (·.address)

end BufferObject

end GraphicsBuffer
