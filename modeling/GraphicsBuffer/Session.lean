/-
  GraphicsBuffer.Session

  A client of buffer managers, step by step. A session keeps handles and references under names of
  the client's choice and runs the operations of its managers on them. A step that names something
  that is not there is refused; a step that fails leaves the names as they were.
-/

import GraphicsBuffer.Handle.Wire
import GraphicsBuffer.World

namespace GraphicsBuffer

/-- The name of a handle or of a reference. -/
abbrev Name := String

/-! ## What a step can say -/

/-- New values for the public fields of a handle. -/
structure HandleEdit where
  width : Option UInt32 := none
  height : Option UInt32 := none
  format : Option PixelFormat := none
  usage : Option Usage := none
  stride : Option UInt32 := none
  modifierWord : Option UInt64 := none

/-- A handle with new values in its public fields. -/
def HandleEdit.apply (e : HandleEdit) (h : Handle) : Handle :=
  { h with
    width := e.width.getD h.width
    height := e.height.getD h.height
    format := e.format.getD h.format
    usage := e.usage.getD h.usage
    stride := e.stride.getD h.stride
    modifierWord := e.modifierWord.getD h.modifierWord }

/-- What happens to the bytes of a flattened handle on their way. -/
structure Damage where
  /-- Bytes put at an offset; what falls past the end is lost. -/
  patches : List (Nat × List UInt8) := []
  /-- The length that the bytes are cut or filled up with zeros to. -/
  length : Option Nat := none

namespace Damage

/-- Puts bytes at an offset and keeps the length. -/
def patch (bytes : List UInt8) (p : Nat × List UInt8) : List UInt8 :=
  bytes.mapIdx fun i b => if p.1 ≤ i then (p.2[i - p.1]?).getD b else b

/-- The bytes that arrive. -/
def apply (d : Damage) (bytes : List UInt8) : List UInt8 :=
  let patched := d.patches.foldl patch bytes
  match d.length with
  | none => patched
  | some n => patched.take n ++ List.replicate (n - patched.length) 0

end Damage

/-- The descriptor that travels with a flattened handle. -/
inductive Courier where
  /-- A duplicate of the handle's own, if it has one that can be duplicated. -/
  | duplicate
  | given (descriptor : Option Descriptor)

/-- The descriptor that arrives. -/
def Courier.deliver (c : Courier) (h : Handle) : Option Descriptor :=
  match c with
  | .given d => d
  | .duplicate => h.descriptor.bind fun d => (Kernel.duplicate d).toOption

/-- What a client does next. -/
inductive Step where
  /-- Describes a buffer that is not allocated yet. -/
  | new (h : Name) (size : Extent) (format : PixelFormat) (usage : Usage)
  | duplicate (h target : Name)
  | assign (h : Name) (edit : HandleEdit)
  /-- Flattens a handle and rebuilds one from what arrives. -/
  | transfer (h target : Name) (damage : Damage) (courier : Courier)
  | dropHandle (h : Name)
  | dropManager (m : ManagerId)
  | create (m : ManagerId) (h : Name) (size : Extent) (format : PixelFormat) (usage : Usage)
  | register (m : ManagerId) (h : Name)
  | unregister (m : ManagerId) (h : Name)
  | lock (m : ManagerId) (h : Name) (request : LockRequest)
  | unlock (m : ManagerId) (h : Name)
  /-- Resolves a handle in a bare registry, importing it only if the device may be used. -/
  | resolve (m : ManagerId) (h : Name) (useDevice : Bool)
  /-- Keeps a reference to the buffer of a handle. -/
  | hold (m : ManagerId) (h o : Name)
  /-- Allocates a buffer for a handle and keeps it unregistered. -/
  | allocate (m : ManagerId) (h o : Name)
  /-- Imports the buffer of a handle and keeps it unregistered. -/
  | importFrom (m : ManagerId) (h o : Name)
  /-- Puts an unregistered buffer into a bare registry. -/
  | insert (m : ManagerId) (h o : Name)
  | lockObject (o h : Name) (request : LockRequest)
  | unlockObject (o : Name)
  /-- Whether two references are to one buffer. -/
  | sameObject (o other : Name)
  /-- How a buffer is held. -/
  | holding (o : Name)
  | release (o : Name)

/-- Why a step does not start. -/
inductive Refusal where
  | noManager
  | noHandle
  | noObject
  | notRegistry
  | notOwned
deriving DecidableEq

/-- What a step gives. -/
inductive Answer where
  | done
  | flag (b : Bool)
  /-- A lock was granted, with this address; before it the buffer was mapped at the other. -/
  | locked (address previous : Option Address)
  | bytes (bytes : List UInt8)
  /-- The buffer is in no table. -/
  | owned
  /-- The buffer has this many tables and references naming it. -/
  | references (n : Nat)
  | refused (why : Refusal)
  | failed (why : Failure)
deriving DecidableEq

/-! ## Sessions -/

/-- A reference that a client keeps: to a buffer that was in a table once, or to one of its
    own. -/
structure Holding where
  id : BufferId
  shared : Bool
deriving DecidableEq

/-- The managers, handles and references of a client. -/
structure Session (σ : Type) where
  world : World σ
  handles : Table Name Handle := ∅
  holdings : Table Name Holding := ∅

namespace Session

variable {σ : Type}

/-- A session that begins with managers of the given kinds. -/
def start (B : Backend σ) (devices : σ) (kinds : List ManagerKind) : Session σ :=
  { world := World.start B devices kinds }

/-! ## Names -/

/-- Changes the world. -/
def setWorld (s : Session σ) (w : World σ) : Session σ := { s with world := w }

/-- Gives a handle a name. -/
def setHandle (s : Session σ) (h : Name) (handle : Handle) : Session σ :=
  { s with handles := s.handles.insert h handle }

/-- Gives up a reference. -/
def releaseHolding (B : Backend σ) (s : Session σ) (o : Name) : Session σ :=
  match s.holdings.find? o with
  | none => s
  | some holding =>
    { s with holdings := s.holdings.erase o, world := s.world.release B holding.id }

/-- Gives a reference a name; what had the name before is given up. -/
def setHolding (B : Backend σ) (s : Session σ) (o : Name) (holding : Holding) : Session σ :=
  -- releasing first frees a buffer that only this name kept
  let s := s.releaseHolding B o
  { s with holdings := s.holdings.insert o holding }

/-- The object that a name refers to. -/
def heldObject? (s : Session σ) (o : Name) : Option BufferObject :=
  (s.holdings.find? o).bind fun holding => s.world.objects.find? holding.id

/-! ## Steps -/

/-- Goes on with a manager that is there. -/
def withManager (s : Session σ) (m : ManagerId) (k : Manager → Answer × Session σ) :
    Answer × Session σ :=
  match s.world.manager? m with
  | none => (.refused .noManager, s)
  | some manager => k manager

/-- Goes on with a handle that is there. -/
def withHandle (s : Session σ) (h : Name) (k : Handle → Answer × Session σ) :
    Answer × Session σ :=
  match s.handles.find? h with
  | none => (.refused .noHandle, s)
  | some handle => k handle

/-- Goes on with an object that is there. -/
def withObject (s : Session σ) (o : Name) (k : BufferObject → Answer × Session σ) :
    Answer × Session σ :=
  match s.heldObject? o with
  | none => (.refused .noObject, s)
  | some object => k object

/-- A handle that an operation gives back takes the place of the one it was asked with. -/
def keepHandle (s : Session σ) (h : Name) (answer : Outcome Handle × World σ) :
    Answer × Session σ :=
  match answer with
  | (.error f, w) => (.failed f, s.setWorld w)
  | (.ok handle, w) => (.done, (s.setWorld w).setHandle h handle)

/-- The answer to a lock of an object. -/
def keepLock (s : Session σ) (before : Option BufferObject)
    (answer : Outcome (Option Address) × World σ) : Answer × Session σ :=
  match answer with
  | (.error f, w) => (.failed f, s.setWorld w)
  | (.ok address, w) => (.locked address (before.bind (·.address?)), s.setWorld w)

/-- Runs a step. -/
def step (B : Backend σ) (s : Session σ) : Step → Answer × Session σ
  | .new h size format usage => (.done, s.setHandle h (Handle.new size format usage))
  | .duplicate h target =>
    s.withHandle h fun handle =>
      match handle.duplicate with
      | .error e => (.failed (.error e), s)
      | .ok copy => (.done, s.setHandle target copy)
  | .assign h edit => s.withHandle h fun handle => (.done, s.setHandle h (edit.apply handle))
  | .transfer h target damage courier =>
    s.withHandle h fun handle =>
      let bytes := damage.apply handle.toWire.encode
      -- the handle that is sent stays as it is, registered or not
      match Handle.ofWire bytes (courier.deliver handle) with
      | .error e => (.failed (.error e), s)
      | .ok arrived => (.bytes bytes, s.setHandle target arrived)
  | .dropHandle h =>
    (.flag (s.handles.contains h), { s with handles := s.handles.erase h })
  | .dropManager m =>
    if m < s.world.managers.length then
      (.flag (s.world.manager? m).isSome, s.setWorld (s.world.dropManager B m))
    else (.refused .noManager, s)
  | .create m h size format usage =>
    s.withManager m fun _ => s.keepHandle h (s.world.create B m size format usage)
  | .register m h =>
    s.withManager m fun _ => s.withHandle h fun handle =>
      s.keepHandle h (s.world.register B m handle)
  | .unregister m h =>
    s.withManager m fun _ => s.withHandle h fun handle =>
      s.keepHandle h (s.world.unregister B m handle)
  | .lock m h request =>
    s.withManager m fun _ => s.withHandle h fun handle =>
      s.keepLock (s.world.object? m handle) (s.world.lock B m handle request)
  | .unlock m h =>
    s.withManager m fun _ => s.withHandle h fun handle =>
      match s.world.unlock B m handle with
      | (.error e, w) => (.failed (.error e), s.setWorld w)
      | (.ok (), w) => (.done, s.setWorld w)
  | .resolve m h useDevice =>
    s.withManager m fun manager => s.withHandle h fun handle =>
      if manager.kind ≠ .registry then (.refused .notRegistry, s)
      else
        match s.world.resolve B m useDevice handle with
        | (.error f, w) => (.failed f, s.setWorld w)
        | (.ok (found, handle), w) => (.flag found.isSome, (s.setWorld w).setHandle h handle)
  | .hold m h o =>
    s.withManager m fun _ => s.withHandle h fun handle =>
      match s.world.hold m handle with
      | (.error e, w) => (.failed (.error e), s.setWorld w)
      | (.ok id, w) => (.done, (s.setWorld w).setHolding B o ⟨id, true⟩)
  | .allocate m h o =>
    s.withManager m fun _ => s.withHandle h fun handle =>
      match s.world.allocate B m handle with
      | (.error f, w) => (.failed f, s.setWorld w)
      | (.ok (id, handle), w) =>
        (.done, ((s.setWorld w).setHandle h handle).setHolding B o ⟨id, false⟩)
  | .importFrom m h o =>
    s.withManager m fun _ => s.withHandle h fun handle =>
      match s.world.importFrom B m handle with
      | (.error f, w) => (.failed f, s.setWorld w)
      | (.ok id, w) => (.done, (s.setWorld w).setHolding B o ⟨id, false⟩)
  | .insert m h o =>
    s.withManager m fun manager => s.withHandle h fun handle =>
      if manager.kind ≠ .registry then (.refused .notRegistry, s)
      else
        match s.holdings.find? o with
        | none => (.refused .noObject, s)
        | some ⟨_, true⟩ => (.refused .notOwned, s)
        | some ⟨id, false⟩ =>
          -- from here on the table has a share in the buffer, and the reference is one of two
          let inserted := s.world.insert m handle id
          let s := (s.setWorld inserted.2).setHandle h inserted.1
          (.done, { s with holdings := s.holdings.insert o ⟨id, true⟩ })
  | .lockObject o h request =>
    s.withHandle h fun handle => s.withObject o fun object =>
      s.keepLock (some object) (s.world.lockObject B object handle request)
  | .unlockObject o =>
    s.withObject o fun object => (.done, s.setWorld (s.world.unlockObject B object))
  | .sameObject o other =>
    match s.holdings.find? o, s.holdings.find? other with
    | some ⟨a, true⟩, some ⟨b, true⟩ => (.flag (a = b), s)
    | _, _ => (.refused .noObject, s)
  | .holding o =>
    match s.holdings.find? o with
    | none => (.refused .noObject, s)
    | some ⟨_, false⟩ => (.owned, s)
    | some ⟨id, true⟩ => (.references (s.world.references id), s)
  | .release o => (.flag (s.holdings.contains o), s.releaseHolding B o)

/-- Runs steps one after another. -/
def run (B : Backend σ) (s : Session σ) (steps : List Step) : Session σ :=
  steps.foldl (fun s step => (s.step B step).2) s

/-- Ends the managers in order, then gives up the references in the order of their names. -/
def finish (B : Backend σ) (s : Session σ) : Session σ :=
  let managers := List.range s.world.managers.length
  let s := s.setWorld (managers.foldl (fun w m => w.dropManager B m) s.world)
  (s.holdings.keys.mergeSort fun a b => decide (a ≤ b)).foldl (fun s o => s.releaseHolding B o) s

/-! ## Looking at a session -/

/-- What can be seen of a buffer object. -/
structure ObjectView where
  lockCount : UInt32
  lockedFor : Usage
  mapped : Bool
  hasNativeObject : Bool

/-- What can be seen of an object. -/
def viewObject (B : Backend σ) (s : Session σ) (o : BufferObject) : ObjectView :=
  { lockCount := o.lockCount, lockedFor := o.lockedFor, mapped := o.isMapped,
    hasNativeObject := B.hasNativeObject o.id s.world.env.devices }

/-- The manager, the handles and the reference that a step mentions. -/
structure Mention where
  manager : Option ManagerId := none
  handle : Option Name := none
  target : Option Name := none
  object : Option Name := none

/-- What can be seen of the things that a step mentions, as far as they are there. -/
structure View where
  buffers : Option Nat
  handle : Option Handle
  /-- The object of the handle in the manager, if both are there. -/
  resolved : Option (Option ObjectView)
  target : Option Handle
  object : Option ObjectView

/-- Looks at the things that a step mentions. -/
def view (B : Backend σ) (s : Session σ) (mention : Mention) : View :=
  let manager := mention.manager.filter fun m => (s.world.manager? m).isSome
  let handle := mention.handle.bind s.handles.find?
  { buffers := manager.map s.world.bufferCount
    handle
    resolved := manager.bind fun m => handle.map fun h =>
      (s.world.object? m h).map (s.viewObject B)
    target := mention.target.bind s.handles.find?
    object := (mention.object.bind s.heldObject?).map (s.viewObject B) }

end Session

end GraphicsBuffer
