/-
  GraphicsBuffer.Backend.Trace

  Calling a backend and keeping account of it. An `Env` is the backend's state together with the
  calls made so far, the log, and the number of the next buffer. Each operation here makes one
  call and records it; nothing else in the library touches a backend.
-/

import GraphicsBuffer.Backend
import GraphicsBuffer.Log

namespace GraphicsBuffer

/-- A call to a backend and its answer. -/
inductive Call where
  | created (device : DeviceId) (size : Extent) (layout : FourCC) (flags : BindFlags)
      (answer : Outcome BufferId)
  | imported (device : DeviceId) (request : ImportRequest) (answer : Outcome BufferId)
  | exported (buffer : BufferId) (answer : Outcome Descriptor)
  | mapped (buffer : BufferId) (region : Rect) (access : Access) (answer : Outcome BackendMapping)
  | unmapped (buffer : BufferId) (mapping : BackendMapping)
  | destroyed (buffer : BufferId)

/-- A backend's state and the account of what was done with it. -/
structure Env (σ : Type) where
  devices : σ
  trace : List Call := []
  log : List LogEntry := []
  nextBuffer : BufferId := 1

namespace Env

variable {σ : Type}

/-- Reports something. -/
def note (env : Env σ) (entry : LogEntry) : Env σ := { env with log := env.log ++ [entry] }

/-- Records a call that left the backend in a state. -/
def record (env : Env σ) (call : Call) (devices : σ) : Env σ :=
  { env with devices, trace := env.trace ++ [call] }

/-- Asks for a new buffer; it gets the next number. -/
def create (B : Backend σ) (device : DeviceId) (size : Extent) (layout : FourCC)
    (flags : BindFlags) (env : Env σ) : Outcome BufferId × Env σ :=
  match B.create device env.nextBuffer size layout flags env.devices with
  | (.error f, s) => (.error f, env.record (.created device size layout flags (.error f)) s)
  | (.ok (), s) =>
    (.ok env.nextBuffer,
      { env.record (.created device size layout flags (.ok env.nextBuffer)) s with
        nextBuffer := env.nextBuffer + 1 })

/-- Asks for a buffer on existing memory; it gets the next number. -/
def importBuffer (B : Backend σ) (device : DeviceId) (request : ImportRequest) (env : Env σ) :
    Outcome BufferId × Env σ :=
  match B.importBuffer device env.nextBuffer request env.devices with
  | (.error f, s) => (.error f, env.record (.imported device request (.error f)) s)
  | (.ok (), s) =>
    (.ok env.nextBuffer,
      { env.record (.imported device request (.ok env.nextBuffer)) s with
        nextBuffer := env.nextBuffer + 1 })

/-- Asks for a descriptor of a buffer's memory. -/
def exportDescriptor (B : Backend σ) (id : BufferId) (env : Env σ) :
    Outcome Descriptor × Env σ :=
  let answer := B.exportDescriptor id env.devices
  (answer.1, env.record (.exported id answer.1) answer.2)

/-- Asks for a mapping of a region. -/
def map (B : Backend σ) (id : BufferId) (region : Rect) (access : Access) (env : Env σ) :
    Outcome BackendMapping × Env σ :=
  let answer := B.map id region access env.devices
  (answer.1, env.record (.mapped id region access answer.1) answer.2)

/-- Ends a mapping. -/
def unmap (B : Backend σ) (id : BufferId) (mapping : BackendMapping) (env : Env σ) : Env σ :=
  env.record (.unmapped id mapping) (B.unmap id mapping env.devices)

/-- Frees a buffer. -/
def destroy (B : Backend σ) (id : BufferId) (env : Env σ) : Env σ :=
  env.record (.destroyed id) (B.destroy id env.devices)

end Env

end GraphicsBuffer
