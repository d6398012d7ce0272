/-
  GraphicsBuffer.BufferObject.Lock

  Locking buffers. A buffer is unlocked, or locked a number of times for a union of usages. A lock
  inside others may ask only for what the buffer is locked for already. The first lock with CPU
  usage maps the buffer; locks inside it share that mapping and have to stay in the region that it
  covers; the last unlock ends it. A lock that is refused leaves the object as it was.
-/

import GraphicsBuffer.BufferObject

namespace GraphicsBuffer

/-- What a lock asks for. -/
structure LockRequest where
  usage : Usage
  region : Rect
deriving DecidableEq

namespace BufferObject

variable {σ : Type}

/-- Whether a handle lets its buffer be locked for a usage: the buffer was allocated for it, or
    for something that lets it be locked for anything. -/
def permits (h : Handle) (usage : Usage) : Bool :=
  usage ⊆ h.usage || h.usage.meets Usage.lockableForAnything

/-- Whether a lock for a usage fits the locks that are outstanding. -/
def nestable (o : BufferObject) (usage : Usage) : Bool :=
  o.lockCount = 0 || usage ⊆ o.lockedFor

/-- The object after a lock for a usage that succeeded. The count wraps at the end of its
    word. -/
def addLock (o : BufferObject) (usage : Usage) : BufferObject :=
  { o with lockCount := o.lockCount + 1, lockedFor := o.lockedFor ∪ usage }

/-- Maps a buffer from its origin to a corner for a lock of a region. Rows of another length than
    the handle says abort the operation, and the backend's mapping stays. -/
def openMapping (B : Backend σ) (id : BufferId) (h : Handle) (region : Rect) (corner : Corner)
    (access : Access) (env : Env σ) : Outcome BackendMapping × Env σ :=
  let env :=
    -- only the size of a planar region is folded, so its origin is suspect
    if h.format.planar && (region.x ≠ 0 || region.y ≠ 0) then env.note (.planarOrigin h.format)
    else env
  match env.map B id corner.fromOrigin access with
  | (.error (.abort a), env) => (.error (.abort a), env)
  | (.error (.error e), env) =>
    (.error (.error .mappingFailed), env.note (.mapFailed region corner e))
  | (.ok mapping, env) =>
    let env := env.note (.mapped region corner)
    -- by now the backend has mapped the buffer, whatever becomes of the lock
    if mapping.stride = h.stride then (.ok mapping, env)
    else (.error (.abort .strideMismatch), env)

/-- The part of a lock that concerns the CPU: the object with a mapping that covers the region.
    `usage` is what the lock asks for, `access` what the mapping needs. -/
def coverRegion (B : Backend σ) (o : BufferObject) (h : Handle) (request : LockRequest)
    (access : Access) (env : Env σ) : Outcome BufferObject × Env σ :=
  match h.format.mapCorner request.region with
  | .error e => (.error (.error e), env)
  | .ok corner =>
    match o.mapping with
    | none =>
      match openMapping B o.id h request.region corner access env with
      | (.error f, env) => (.error f, env)
      | (.ok mapping, env) => (.ok { o with mapping := some mapping, mappedCorner := corner }, env)
    | some _ =>
      -- a lock for devices only may name any region, since it is given nothing to touch
      if request.usage.cpuAccess && !corner.within o.mappedCorner then
        (.error (.error .doubleMapping), env.note (.beyondMapping o.mappedCorner corner))
      else (.ok o, env)

/-- Locks a buffer. The new object comes with the answer; without one the object is unchanged. -/
def lock (B : Backend σ) (o : BufferObject) (h : Handle) (request : LockRequest) (env : Env σ) :
    Outcome BufferObject × Env σ :=
  let env := env.note (.locking o.lockCount request.usage)
  if !permits h request.usage then
    (.error (.error (.usageNotPermitted h.usage.bits request.usage.bits)),
      env.note (.notPermitted h.usage request.usage))
  else if !o.nestable request.usage then
    (.error (.error (.incompatibleLock o.lockedFor.bits request.usage.bits)), env)
  else
    -- for the first lock this is its own usage, for a nested one that of the locks around it
    let usage := request.usage ∪ o.lockedFor
    if usage.cpuAccess then
      match o.coverRegion B h request usage.access env with
      | (.error f, env) => (.error f, env)
      | (.ok o, env) => (.ok (o.addLock usage), env)
    else (.ok (o.addLock usage), env)

/-- The object with no lock outstanding. -/
def unlocked (o : BufferObject) : BufferObject :=
  { o with mapping := none, mappedCorner := ⟨0, 0⟩, lockCount := 0, lockedFor := ∅ }

/-- Drops one lock; the last one takes the mapping with it. Unlocking an unlocked buffer does
    nothing. -/
def unlock (B : Backend σ) (o : BufferObject) (env : Env σ) : BufferObject × Env σ :=
  if o.lockCount = 0 then (o, env)
  else if o.lockCount = 1 then
    match o.mapping with
    | none => (o.unlocked, env)
    | some mapping => (o.unlocked, env.unmap B o.id mapping)
  else ({ o with lockCount := o.lockCount - 1 }, env)

end BufferObject

end GraphicsBuffer
