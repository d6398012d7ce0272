/-
  GraphicsBuffer.Backend

  What an allocator of buffers has to provide. A backend is a record of operations on a state of
  its own; the library reaches buffers by number and never looks inside them. Every call may
  change the state, also one that fails.
-/

import GraphicsBuffer.Kernel
import GraphicsBuffer.PixelFormat

namespace GraphicsBuffer

/-- The number of a device. -/
abbrev DeviceId := Nat

/-- The number of a buffer; no two buffers of a run share it. -/
abbrev BufferId := Nat

/-- The description of a buffer that some descriptor refers to. -/
structure ImportRequest where
  size : Extent
  layout : FourCC
  descriptor : Option Descriptor
  stride : UInt32
  modifier : Option UInt64
deriving DecidableEq

/-- An active CPU mapping of a buffer: where its region starts and how long a row is. -/
structure BackendMapping where
  address : Address
  stride : UInt32
deriving DecidableEq

/-- The operations of an allocator with states in `σ`. The number of a new buffer is chosen by the
    caller. -/
structure Backend (σ : Type) where
  /-- What the log calls the allocator. -/
  name : String
  /-- Makes a buffer of a stored size and layout on a device. -/
  create : DeviceId → BufferId → Extent → FourCC → BindFlags → σ → Outcome Unit × σ
  /-- Wraps memory that exists already in a buffer on a device. -/
  importBuffer : DeviceId → BufferId → ImportRequest → σ → Outcome Unit × σ
  /-- A new descriptor for the memory of a buffer. -/
  exportDescriptor : BufferId → σ → Outcome Descriptor × σ
  /-- The length of a row of a buffer. -/
  stride : BufferId → σ → UInt32
  /-- The layout modifier of a buffer, if it reports one. -/
  modifier : BufferId → σ → Option UInt64
  /-- Whether a buffer has a native object behind it. -/
  hasNativeObject : BufferId → σ → Bool
  /-- Maps a region of a buffer for the CPU. -/
  map : BufferId → Rect → Access → σ → Outcome BackendMapping × σ
  /-- Ends a mapping that `map` returned. -/
  unmap : BufferId → BackendMapping → σ → σ
  /-- Frees a buffer. -/
  destroy : BufferId → σ → σ

end GraphicsBuffer
