/-
  GraphicsBuffer.Backend.Faults

  A backend that fails on demand. It passes its calls to another backend unless the device is told
  to fail them, and it can report other strides and modifiers than the buffers have. It serves to
  try out how the library meets a backend that misbehaves.
-/

import GraphicsBuffer.Backend

namespace GraphicsBuffer

/-- What is wrong with a device. -/
structure Faults where
  create : Bool := false
  importBuffer : Bool := false
  exportDescriptor : Bool := false
  map : Bool := false
  /-- The modifier that buffers report. -/
  modifier : Option UInt64 := none
  /-- The stride that buffers report. -/
  stride : Option UInt32 := none
  /-- The stride that mappings report. -/
  mapStride : Option UInt32 := none

/-- The state of a backend, the faults of its devices, and the device of each buffer. -/
structure Faulty (σ : Type) where
  inner : σ
  faults : Table DeviceId Faults := ∅
  homes : Table BufferId DeviceId := ∅

namespace Faulty

variable {σ : Type}

/-- What is wrong with a device; nothing, unless said otherwise. -/
def faultsOf (s : Faulty σ) (device : DeviceId) : Faults := (s.faults.find? device).getD {}

/-- What is wrong with the device of a buffer. -/
def faultsAt (s : Faulty σ) (id : BufferId) : Faults :=
  match s.homes.find? id with
  | none => {}
  | some device => s.faultsOf device

/-- Puts the state after a call on the other backend in place. -/
def lift {α : Type} (s : Faulty σ) (answer : α × σ) : α × Faulty σ :=
  (answer.1, { s with inner := answer.2 })

/-- Remembers the device of a buffer that was made. -/
def settle (id : BufferId) (device : DeviceId) (answer : Outcome Unit × Faulty σ) :
    Outcome Unit × Faulty σ :=
  match answer with
  | (.ok (), s) => (.ok (), { s with homes := s.homes.insert id device })
  | (.error f, s) => (.error f, s)

/-- The failure of a call that is told to fail. -/
def injected (call : String) : Failure :=
  .error (.io (.custom s!"injected {call} failure"))

end Faulty

/-- A backend with faults on top of another, under a name of its own. -/
def Backend.withFaults {σ : Type} (B : Backend σ) (name : String) : Backend (Faulty σ) where
  name := name
  create device id size layout flags s :=
    if (s.faultsOf device).create then (.error (Faulty.injected "create"), s)
    else Faulty.settle id device (s.lift (B.create device id size layout flags s.inner))
  importBuffer device id request s :=
    if (s.faultsOf device).importBuffer then (.error (Faulty.injected "import"), s)
    else Faulty.settle id device (s.lift (B.importBuffer device id request s.inner))
  exportDescriptor id s :=
    if (s.faultsAt id).exportDescriptor then (.error (Faulty.injected "export"), s)
    else s.lift (B.exportDescriptor id s.inner)
  stride id s := (s.faultsAt id).stride.getD (B.stride id s.inner)
  modifier id s := (s.faultsAt id).modifier.or (B.modifier id s.inner)
  hasNativeObject id s := B.hasNativeObject id s.inner
  map id region access s :=
    if (s.faultsAt id).map then (.error (Faulty.injected "map"), s)
    else
      let answer := B.map id region access s.inner
      (answer.1.map fun mapping =>
        { mapping with stride := (s.faultsAt id).mapStride.getD mapping.stride },
        { s with inner := answer.2 })
  unmap id mapping s := { s with inner := B.unmap id mapping s.inner }
  destroy id s := { s with inner := B.destroy id s.inner, homes := s.homes.erase id }

end GraphicsBuffer
