/-
  GraphicsBuffer.Session.Trial

  Sessions on trial: a client of managers whose devices are shared memory with faults. Besides the
  steps of a session there are steps that set faults, touch the memory of locked buffers, and send
  a handle with fresh memory. Each step is reported with the calls, the log and a view of what it
  left behind.
-/

import GraphicsBuffer.Backend.Faults
import GraphicsBuffer.Backend.System
import GraphicsBuffer.Kernel.Source
import GraphicsBuffer.Kernel.Touch
import GraphicsBuffer.Session

namespace GraphicsBuffer.Trial

variable [PageSize]

/-- The backend of trials. -/
def backend : Backend (Faulty SystemState) := systemBackend.withFaults "recording"

/-- A session on trial. -/
abbrev State := Session (Faulty SystemState)

/-- A trial that begins with managers of the given kinds. -/
def start (kinds : List ManagerKind) : State := Session.start backend { inner := {} } kinds

/-- New faults of a device; what is not mentioned stays. -/
structure FaultEdit where
  create : Option Bool := none
  importBuffer : Option Bool := none
  exportDescriptor : Option Bool := none
  map : Option Bool := none
  modifier : Option (Option UInt64) := none
  stride : Option (Option UInt32) := none
  mapStride : Option (Option UInt32) := none

/-- The faults after an edit. -/
def FaultEdit.apply (e : FaultEdit) (f : Faults) : Faults :=
  { create := e.create.getD f.create
    importBuffer := e.importBuffer.getD f.importBuffer
    exportDescriptor := e.exportDescriptor.getD f.exportDescriptor
    map := e.map.getD f.map
    modifier := e.modifier.getD f.modifier
    stride := e.stride.getD f.stride
    mapStride := e.mapStride.getD f.mapStride }

/-- A step of a trial. -/
inductive TrialStep where
  | session (step : Step)
  /-- Changes the faults of a manager's device. -/
  | fault (m : ManagerId) (edit : FaultEdit)
  /-- Touches the memory that a lock of the handle gave the address of. -/
  | touch (m : ManagerId) (h : Name) (touch : Touch)
  /-- Sends a handle with a descriptor that is not its own. -/
  | transferFrom (h target : Name) (damage : Damage) (source : Source)

/-- What a step of a trial gives. -/
inductive TrialAnswer where
  | session (answer : Answer)
  | touched (answer : TouchAnswer)

/-- The kernel of a trial. -/
def kernel (s : State) : Kernel := s.world.env.devices.inner.kernel

/-- Changes the state of the devices behind the managers' backs. -/
def onDevices (s : State) (f : Faulty SystemState → Faulty SystemState) : State :=
  { s with world := { s.world with
    env := { s.world.env with devices := f s.world.env.devices } } }

/-- Changes the kernel. -/
def setKernel (s : State) (k : Kernel) : State :=
  onDevices s fun d => { d with inner := { d.inner with kernel := k } }

/-- Runs a step. -/
def step (s : State) : TrialStep → TrialAnswer × State
  | .session step =>
    let after := s.step backend step
    (.session after.1, after.2)
  | .fault m edit =>
    match s.world.manager? m with
    | none => (.session (.refused .noManager), s)
    | some _ =>
      (.session .done,
        onDevices s fun d => { d with faults := d.faults.insert m (edit.apply (d.faultsOf m)) })
  | .touch m h touch =>
    match s.world.manager? m, s.handles.find? h with
    | none, _ => (.session (.refused .noManager), s)
    | some _, none => (.session (.refused .noHandle), s)
    | some _, some handle =>
      match s.world.object? m handle with
      | none => (.session (.failed (.error .notRegistered)), s)
      | some object =>
        match object.address? with
        | none => (.touched (.refused .notMapped), s)
        | some address =>
          let after := (kernel s).touch address touch
          (.touched after.1, setKernel s after.2)
  | .transferFrom h target damage source =>
    let opened := (kernel s).openSource source
    let after := (setKernel s opened.2).step backend
      (.transfer h target damage (.given opened.1))
    (.session after.1, after.2)

/-! ## Reports -/

/-- What a step did: its answer, the calls it made, what it logged, and what it left behind. -/
structure Report where
  answer : TrialAnswer
  calls : List Call
  log : List LogEntry
  view : Session.View

/-- The calls and the log that a session gained. -/
def gained (before after : State) : List Call × List LogEntry :=
  (after.world.env.trace.drop before.world.env.trace.length,
    after.world.env.log.drop before.world.env.log.length)

/-- Runs a step and reports it. -/
def report (s : State) (t : TrialStep) (mention : Session.Mention) : Report × State :=
  let after := step s t
  let account := gained s after.2
  ({ answer := after.1, calls := account.1, log := account.2,
     view := after.2.view backend mention }, after.2)

end GraphicsBuffer.Trial
