/-
  GraphicsBuffer.World

  The buffer managers of a process. Each manager has a device and a table of the buffers that its
  handles stand for; keys are never used twice, so a handle resolves only in the manager that
  issued its key. A buffer object lives as long as a manager's table or a reference that was
  handed out names it; when the last of them goes, the buffer is freed.

  Operations take a handle and give the changed handle back. Every one of them is total: asked of
  a manager that is gone, it answers like a manager that knows no buffer.
-/

import GraphicsBuffer.BufferObject.Lock
import GraphicsBuffer.Config

namespace GraphicsBuffer

/-- The number of a manager, which is also that of its device. -/
abbrev ManagerId := Nat

/-- A full manager, or only the table that one keeps, next to a device. -/
inductive ManagerKind where
  | full
  | registry
deriving DecidableEq

/-- A buffer manager: its kind and the buffers of its handles by key. -/
structure Manager where
  kind : ManagerKind
  buffers : Table Key BufferId := ∅

/-- The managers of a process, the live buffer objects, and the references that were handed
    out. -/
structure World (σ : Type) where
  env : Env σ
  objects : Table BufferId BufferObject := ∅
  managers : List (Option Manager) := []
  held : List BufferId := []
  nextKey : Key := 1

namespace World

variable {σ : Type}

/-! ## Managers -/

/-- Starts managers of the given kinds on a backend; full managers report what they use. -/
def start (B : Backend σ) (devices : σ) (kinds : List ManagerKind) : World σ :=
  let log := (kinds.filter (· = .full)).map fun _ => LogEntry.usingBackend B.name
  { env := { devices, log }, managers := kinds.map fun kind => some { kind } }

/-- Starts one full manager with settings on a backend. -/
def startConfigured (B : Backend σ) (devices : σ) (config : Config) : World σ :=
  let w := start B devices [.full]
  { w with env := { w.env with log := .opening config.devicePath :: w.env.log } }

/-- A manager, if it is still there. -/
def manager? (w : World σ) (m : ManagerId) : Option Manager := (w.managers[m]?).join

/-- Replaces a manager. -/
def setManager (w : World σ) (m : ManagerId) (manager : Option Manager) : World σ :=
  { w with managers := w.managers.set m manager }

/-- How many buffers a manager has. -/
def bufferCount (w : World σ) (m : ManagerId) : Nat :=
  ((w.manager? m).map (·.buffers.size)).getD 0

/-- The buffer that a handle stands for in a manager. -/
def lookup (w : World σ) (m : ManagerId) (h : Handle) : Option BufferId := do
  let key ← h.registration
  let manager ← w.manager? m
  manager.buffers.find? key

/-- The object that a handle stands for in a manager. -/
def object? (w : World σ) (m : ManagerId) (h : Handle) : Option BufferObject := do
  let id ← w.lookup m h
  w.objects.find? id

/-! ## Lifetime of objects -/

/-- The buffers that the tables of all managers name, with repetition. -/
def registered (w : World σ) : List BufferId :=
  w.managers.flatMap fun
    | none => []
    | some manager => manager.buffers.values

/-- How many tables and references name a buffer. -/
def references (w : World σ) (id : BufferId) : Nat := w.registered.count id + w.held.count id

/-- Frees an object. -/
def destroy (B : Backend σ) (w : World σ) (id : BufferId) : World σ :=
  match w.objects.find? id with
  | none => w
  | some o => { w with env := o.destroy B w.env, objects := w.objects.erase id }

/-- Frees an object that nothing names any more. -/
def reap (B : Backend σ) (w : World σ) (id : BufferId) : World σ :=
  if w.references id = 0 then w.destroy B id else w

/-- Hands out a reference. -/
def retain (w : World σ) (id : BufferId) : World σ := { w with held := id :: w.held }

/-- Takes a reference back. -/
def release (B : Backend σ) (w : World σ) (id : BufferId) : World σ :=
  { w with held := w.held.erase id }.reap B id

/-- Ends a manager and lets go of its buffers in the order of their keys. -/
def dropManager (B : Backend σ) (w : World σ) (m : ManagerId) : World σ :=
  match w.manager? m with
  | none => w
  -- the table goes first, or it would still name every buffer that is looked at
  | some manager => manager.buffers.values.foldl (fun w id => w.reap B id) (w.setManager m none)

/-! ## Registration -/

/-- Puts a buffer into a manager's table under a fresh key and gives the key to the handle. -/
def claim (w : World σ) (m : ManagerId) (manager : Manager) (h : Handle) (id : BufferId) :
    Handle × World σ :=
  ({ h with registration := some w.nextKey },
    { w.setManager m (some { manager with buffers := manager.buffers.insert w.nextKey id }) with
      nextKey := w.nextKey + 1 })

/-- Adds an object to the live ones. -/
def addObject (w : World σ) (o : BufferObject) (env : Env σ) : World σ :=
  { w with env, objects := w.objects.insert o.id o }

/-- Allocates a buffer and returns a handle that is registered for it. -/
def create (B : Backend σ) (w : World σ) (m : ManagerId) (size : Extent) (format : PixelFormat)
    (usage : Usage) : Outcome Handle × World σ :=
  match w.manager? m with
  | none => (.error (.error .notRegistered), w)
  | some manager =>
    match BufferObject.allocate B m (Handle.new size format usage) w.env with
    | (.error f, env) => (.error f, { w with env })
    | (.ok (o, h), env) =>
      let claimed := (w.addObject o env).claim m manager h o.id
      (.ok claimed.1, claimed.2)

/-- The buffer of a handle, which is imported first if the handle is registered nowhere and a
    device is at hand. -/
def resolve (B : Backend σ) (w : World σ) (m : ManagerId) (useDevice : Bool) (h : Handle) :
    Outcome (Option BufferId × Handle) × World σ :=
  -- a registered handle is never imported again, even if it is registered elsewhere
  if h.registration.isSome then (.ok (w.lookup m h, h), w)
  else
    match w.manager? m, useDevice with
    | none, _ | _, false => (.ok (none, h), w)
    | some manager, true =>
      let env := w.env.note (.adopting h.descriptor.isSome)
      match BufferObject.importFrom B m h env with
      | (.error f, env) => (.error f, { w with env })
      | (.ok o, env) =>
        let claimed := (w.addObject o env).claim m manager h o.id
        (.ok (some o.id, claimed.1), claimed.2)

/-- Makes a handle usable in a manager. -/
def register (B : Backend σ) (w : World σ) (m : ManagerId) (h : Handle) :
    Outcome Handle × World σ :=
  match w.resolve B m true h with
  | (.error f, w) => (.error f, w)
  | (.ok (none, _), w) => (.error (.error .notRegistered), w)
  | (.ok (some _, h), w) => (.ok h, w)

/-- Takes the buffer of a handle out of a manager's table. A locked buffer stays. -/
def unregister (B : Backend σ) (w : World σ) (m : ManagerId) (h : Handle) :
    Outcome Handle × World σ :=
  match h.registration, w.manager? m, w.lookup m h with
  | some key, some manager, some id =>
    match w.objects.find? id with
    | none => (.error (.error .notRegistered), w)
    | some o =>
      if o.lockCount = 0 then
        -- the entry goes at once; the buffer stays as long as a reference to it is held
        let w := w.setManager m (some { manager with buffers := manager.buffers.erase key })
        (.ok { h with registration := none }, w.reap B id)
      else (.error (.error (.bufferLocked o.lockCount)), w)
  | _, _, _ => (.error (.error .notRegistered), w)

/-! ## Locks -/

/-- Locks an object. -/
def lockObject (B : Backend σ) (w : World σ) (o : BufferObject) (h : Handle)
    (request : LockRequest) : Outcome (Option Address) × World σ :=
  match o.lock B h request w.env with
  | (.error f, env) => (.error f, { w with env })
  | (.ok o, env) => (.ok o.address?, w.addObject o env)

/-- Drops one lock of an object. -/
def unlockObject (B : Backend σ) (w : World σ) (o : BufferObject) : World σ :=
  let after := o.unlock B w.env
  w.addObject after.1 after.2

/-- Locks the buffer of a handle. -/
def lock (B : Backend σ) (w : World σ) (m : ManagerId) (h : Handle) (request : LockRequest) :
    Outcome (Option Address) × World σ :=
  match w.object? m h with
  | none => (.error (.error .notRegistered), w)
  | some o => w.lockObject B o h request

/-- Drops one lock of the buffer of a handle. -/
def unlock (B : Backend σ) (w : World σ) (m : ManagerId) (h : Handle) :
    Except Error Unit × World σ :=
  match w.object? m h with
  | none => (.error .notRegistered, w)
  | some o => (.ok (), w.unlockObject B o)

/-! ## References and objects outside the tables -/

/-- Hands out a reference to the buffer of a handle. -/
def hold (w : World σ) (m : ManagerId) (h : Handle) : Except Error BufferId × World σ :=
  match w.lookup m h with
  | none => (.error .notRegistered, w)
  | some id => (.ok id, w.retain id)

/-- Allocates a buffer for a handle without registering it; the caller holds the one
    reference. -/
def allocate (B : Backend σ) (w : World σ) (m : ManagerId) (h : Handle) :
    Outcome (BufferId × Handle) × World σ :=
  match BufferObject.allocate B m h w.env with
  | (.error f, env) => (.error f, { w with env })
  | (.ok (o, h), env) => (.ok (o.id, h), (w.addObject o env).retain o.id)

/-- Imports the buffer of a handle without registering it; the caller holds the one reference. -/
def importFrom (B : Backend σ) (w : World σ) (m : ManagerId) (h : Handle) :
    Outcome BufferId × World σ :=
  match BufferObject.importFrom B m h w.env with
  | (.error f, env) => (.error f, { w with env })
  | (.ok o, env) => (.ok o.id, (w.addObject o env).retain o.id)

/-- Registers a handle for a buffer that the caller holds; the caller keeps a reference. -/
def insert (w : World σ) (m : ManagerId) (h : Handle) (id : BufferId) : Handle × World σ :=
  match w.manager? m with
  | none => (h, w)
  | some manager => w.claim m manager h id

end World

end GraphicsBuffer
