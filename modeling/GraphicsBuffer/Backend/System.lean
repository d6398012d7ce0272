/-
  GraphicsBuffer.Backend.System

  The allocator on shared memory. A buffer is a memory of its own, its rows one after another; it
  is shared by handing out descriptors of that memory. `SystemBuffer` holds the operations on one
  buffer, `systemBackend` offers them by number.
-/

import GraphicsBuffer.Backend

namespace GraphicsBuffer

variable [PageSize]

/-! ## Sizes -/

/-- The bytes that rows of a stride take, rounded up to whole pages. -/
def bufferSize (stride height : UInt32) : Outcome UInt64 :=
  match Arithmetic.mul64 "stride" stride.toUInt64 "height" height.toUInt64 with
  | .error e => .error (.error e)
  | .ok size => Page.ceil64 size

/-! ## One buffer -/

/-- A buffer on a shared memory. -/
structure SystemBuffer where
  descriptor : Descriptor
  /-- The size of the memory, as it was when the buffer was made. -/
  size : Nat
  extent : Extent
  bytesPerPixel : UInt32
  stride : UInt32
  /-- The mapping in use; there is at most one. -/
  mapping : Option MappingId
deriving DecidableEq

namespace SystemBuffer

/-- The name of the memories of buffers. -/
def memoryName : List UInt8 := "gbm_gralloc".toUTF8.toList

/-- Makes a buffer on fresh memory, its rows as short as its pixels allow. -/
def create (k : Kernel) (size : Extent) (layout : FourCC) : Outcome (SystemBuffer × Kernel) :=
  if size.width = 0 ∨ size.height = 0 then .error (.error (.invalidMapping .zeroSizedBuffer))
  else
    match layout.bytesPerPixel with
    | .error e => .error (.error e)
    | .ok bytesPerPixel =>
      match Arithmetic.mul32 "width" size.width "bytes_per_pixel" bytesPerPixel with
      | .error e => .error (.error e)
      | .ok stride =>
        match bufferSize stride size.height with
        | .error f => .error f
        | .ok bytes =>
          match k.createMemory memoryName bytes.toNat with
          | .error e => .error (.error e)
          | .ok (id, k) =>
            .ok ({ descriptor := .memory id, size := bytes.toNat, extent := size, bytesPerPixel,
                   stride, mapping := none }, k)

/-- Wraps the memory behind a descriptor, provided that rows of the given stride hold the pixels
    and that the memory holds the rows. -/
def ofRequest (k : Kernel) (request : ImportRequest) : Outcome SystemBuffer :=
  match request.descriptor with
  | none => .error (.error .missingDescriptor)
  | some d =>
    match Kernel.duplicate d with
    | .error e => .error (.error (.io e))
    | .ok d =>
      match request.layout.bytesPerPixel with
      | .error e => .error (.error e)
      | .ok bytesPerPixel =>
        match Arithmetic.mul32 "width" request.size.width "bytes_per_pixel" bytesPerPixel with
        | .error e => .error (.error e)
        | .ok minStride =>
          -- rows that are shorter than their pixels would overlap
          if request.stride < minStride then .error (.error (.invalidMapping .strideTooSmall))
          else
            match k.endOf d with
            | .error e => .error (.error (.io e))
            | .ok size =>
              match bufferSize request.stride request.size.height with
              | .error f => .error f
              | .ok needed =>
                -- the memory is measured once, here; a later cut of it goes unnoticed
                if size < needed.toNat then .error (.error (.invalidMapping .memoryTooSmall))
                else
                  .ok { descriptor := d, size, extent := request.size, bytesPerPixel,
                        stride := request.stride, mapping := none }

/-- Another descriptor of the memory. -/
def exportDescriptor (b : SystemBuffer) : Outcome Descriptor :=
  match Kernel.duplicate b.descriptor with
  | .error e => .error (.error (.io e))
  | .ok d => .ok d

/-- The distance of a pixel from the start of the memory. -/
def offsetOf (b : SystemBuffer) (x y : UInt32) : Nat :=
  y.toNat * b.stride.toNat + x.toNat * b.bytesPerPixel.toNat

/-- Maps the whole memory and gives the address of the first pixel of a region inside the
    buffer. -/
def map (k : Kernel) (b : SystemBuffer) (region : Rect) (access : Access) :
    Outcome (BackendMapping × SystemBuffer × Kernel) :=
  if b.mapping.isSome then .error (.error .doubleMapping)
  else
    match Arithmetic.add32 "x" region.x "width" region.width with
    | .error e => .error (.error e)
    | .ok right =>
      match Arithmetic.add32 "y" region.y "height" region.height with
      | .error e => .error (.error e)
      | .ok bottom =>
        if (Corner.mk right bottom).fits b.extent then
          -- the region is checked against the buffer, but the mapping is always of all of it
          match k.map b.descriptor b.size access with
          | .error e => .error (.error e)
          | .ok (id, k) =>
            .ok (⟨⟨id, b.offsetOf region.x region.y⟩, b.stride⟩, { b with mapping := some id }, k)
        else .error (.error (.invalidMapping .outsideBuffer))

/-- Ends the mapping in use. -/
def unmap (k : Kernel) (b : SystemBuffer) : SystemBuffer × Kernel :=
  match b.mapping with
  | none => (b, k)
  | some id => ({ b with mapping := none }, k.unmap id)

end SystemBuffer

/-! ## The allocator -/

/-- The kernel and the buffers of all devices. -/
structure SystemState where
  kernel : Kernel := {}
  buffers : Table BufferId SystemBuffer := ∅

namespace SystemState

/-- A buffer that does not exist cannot be mapped or exported. -/
def absent : Failure := .error (.io (.system .badDescriptor))

/-- Adds a buffer that was made, with the kernel that it left. -/
def add (s : SystemState) (id : BufferId) :
    Outcome (SystemBuffer × Kernel) → Outcome Unit × SystemState
  | .error f => (.error f, s)
  | .ok (b, kernel) => (.ok (), { kernel, buffers := s.buffers.insert id b })

/-- Changes a buffer and the kernel. -/
def set (s : SystemState) (id : BufferId) (b : SystemBuffer) (kernel : Kernel) : SystemState :=
  { kernel, buffers := s.buffers.insert id b }

/-- Maps a buffer. -/
def map (s : SystemState) (id : BufferId) (region : Rect) (access : Access) :
    Outcome BackendMapping × SystemState :=
  match s.buffers.find? id with
  | none => (.error absent, s)
  | some b =>
    match b.map s.kernel region access with
    | .error f => (.error f, s)
    | .ok (mapping, b, kernel) => (.ok mapping, s.set id b kernel)

/-- Ends the mapping of a buffer. -/
def unmap (s : SystemState) (id : BufferId) : SystemState :=
  match s.buffers.find? id with
  | none => s
  | some b =>
    let after := b.unmap s.kernel
    s.set id after.1 after.2

/-- Frees a buffer and ends its mapping. -/
def destroy (s : SystemState) (id : BufferId) : SystemState :=
  let s := s.unmap id
  { s with buffers := s.buffers.erase id }

end SystemState

/-- The allocator on shared memory. Its buffers report no modifier and have no native object. -/
def systemBackend : Backend SystemState where
  name := "system"
  create _ id size layout _ s := s.add id (SystemBuffer.create s.kernel size layout)
  importBuffer _ id request s :=
    s.add id ((SystemBuffer.ofRequest s.kernel request).map fun b => (b, s.kernel))
  exportDescriptor id s :=
    match s.buffers.find? id with
    | none => (.error SystemState.absent, s)
    | some b => (b.exportDescriptor, s)
  stride id s := ((s.buffers.find? id).map (·.stride)).getD 0
  modifier _ _ := none
  hasNativeObject _ _ := false
  map id region access s := s.map id region access
  unmap id _ s := s.unmap id
  destroy id s := s.destroy id

end GraphicsBuffer
