/-
  GraphicsBuffer.Backend.System.Bench

  The allocator on shared memory on its own, without managers and locks: buffers and descriptors
  under names, and steps that work on them. A step that fails leaves the names as they were.
-/

import GraphicsBuffer.Backend.System
import GraphicsBuffer.Kernel.Source
import GraphicsBuffer.Kernel.Touch

namespace GraphicsBuffer.Bench

variable [PageSize]

/-- A buffer and its mapping in use. -/
structure Place where
  buffer : SystemBuffer
  mapping : Option BackendMapping := none

/-- Buffers and descriptors by name. -/
structure State where
  kernel : Kernel := {}
  buffers : Table String Place := ∅
  descriptors : Table String Descriptor := ∅

/-- What names the memory to import. -/
inductive Origin where
  /-- The descriptor of this name. -/
  | named (f : String)
  /-- A descriptor number. No number that can be given here is open; a negative one stands for
      none. -/
  | number (n : Int)

/-- A step. -/
inductive BenchStep where
  | create (b : String) (size : Extent) (layout : FourCC)
  | openSource (f : String) (source : Source)
  | close (f : String)
  | drop (b : String)
  | importFrom (b : String) (size : Extent) (layout : FourCC) (stride : UInt32)
      (modifier : Option UInt64) (origin : Origin)
  | inspect (b : String)
  | exportTo (b f : String)
  | map (b : String) (region : Rect) (access : Access)
  | unmap (b : String)
  | touch (b : String) (touch : Touch)

/-- What can be seen of a buffer. -/
structure Inspection where
  stride : UInt32
  modifier : Option UInt64
  hasNativeObject : Bool
  /-- The size of the memory in bytes. -/
  size : Nat

/-- Why a step does not start. -/
inductive Refusal where
  | noBuffer
  | noDescriptor
  | notMapped
deriving DecidableEq

/-- What a step gives. -/
inductive BenchAnswer where
  | done
  | flag (b : Bool)
  /-- A buffer with rows of this length was made. -/
  | made (stride : UInt32)
  | inspected (inspection : Inspection)
  | mapped (mapping : BackendMapping)
  | touched (answer : TouchAnswer)
  | refused (why : Refusal)
  | failed (why : Failure)

/-- Puts a buffer under a name; what was there before is unmapped. -/
def State.put (s : State) (b : String) (buffer : SystemBuffer) : State :=
  let kernel := match s.buffers.find? b with
    | none => s.kernel
    | some old => (old.buffer.unmap s.kernel).2
  { s with kernel, buffers := s.buffers.insert b { buffer } }

/-- The descriptor that an origin names; the outer option tells whether there is such a name. -/
def State.origin? (s : State) : Origin → Option (Option Descriptor)
  | .named f => (s.descriptors.find? f).map some
  | .number n => some (if n < 0 then none else some .closed)

/-- Goes on with a buffer that is there. -/
def withBuffer (s : State) (b : String) (k : Place → BenchAnswer × State) : BenchAnswer × State :=
  match s.buffers.find? b with
  | none => (.refused .noBuffer, s)
  | some place => k place

/-- Goes on with a buffer that is mapped. -/
def withMapping (s : State) (b : String) (k : Place → BackendMapping → BenchAnswer × State) :
    BenchAnswer × State :=
  withBuffer s b fun place =>
    match place.mapping with
    | none => (.refused .notMapped, s)
    | some mapping => k place mapping

/-- Runs a step. -/
def step (s : State) : BenchStep → BenchAnswer × State
  | .create b size layout =>
    match SystemBuffer.create s.kernel size layout with
    | .error f => (.failed f, s)
    | .ok (buffer, kernel) => (.made buffer.stride, { s with kernel }.put b buffer)
  | .openSource f source =>
    match s.kernel.openSource source with
    | (none, _) => (.refused .noDescriptor, s)
    | (some d, kernel) =>
      (.done, { s with kernel, descriptors := s.descriptors.insert f d })
  | .close f =>
    (.flag (s.descriptors.contains f), { s with descriptors := s.descriptors.erase f })
  | .drop b =>
    match s.buffers.find? b with
    | none => (.flag false, s)
    | some place =>
      (.flag true,
        { s with kernel := (place.buffer.unmap s.kernel).2, buffers := s.buffers.erase b })
  | .importFrom b size layout stride modifier origin =>
    match s.origin? origin with
    | none => (.refused .noDescriptor, s)
    | some descriptor =>
      match SystemBuffer.ofRequest s.kernel { size, layout, descriptor, stride, modifier } with
      | .error f => (.failed f, s)
      | .ok buffer => (.made buffer.stride, s.put b buffer)
  | .inspect b =>
    withBuffer s b fun place =>
      (.inspected { stride := place.buffer.stride, modifier := none, hasNativeObject := false,
                    size := ((s.kernel.memory? place.buffer.descriptor).map (·.size)).getD 0 }, s)
  | .exportTo b f =>
    withBuffer s b fun place =>
      match place.buffer.exportDescriptor with
      | .error e => (.failed e, s)
      | .ok d => (.done, { s with descriptors := s.descriptors.insert f d })
  | .map b region access =>
    withBuffer s b fun place =>
      match place.buffer.map s.kernel region access with
      | .error f => (.failed f, s)
      | .ok (mapping, buffer, kernel) =>
        (.mapped mapping,
          { s with kernel, buffers := s.buffers.insert b { buffer, mapping := some mapping } })
  | .unmap b =>
    withMapping s b fun place _ =>
      let after := place.buffer.unmap s.kernel
      (.done, { s with kernel := after.2, buffers := s.buffers.insert b { buffer := after.1 } })
  | .touch b touch =>
    withMapping s b fun _ mapping =>
      let after := s.kernel.touch mapping.address touch
      (.touched after.1, { s with kernel := after.2 })

end GraphicsBuffer.Bench
