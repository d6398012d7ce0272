/-
  GraphicsBuffer.Handle

  Buffer handles. A handle describes the shape of a buffer and carries the descriptor of its
  memory. Inside the process that registered it a handle also holds a registration key; copies
  hold none until they are registered themselves.
-/

import GraphicsBuffer.Kernel
import GraphicsBuffer.PixelFormat

namespace GraphicsBuffer

/-- The number under which a process registered a handle. A process counts its registrations in a
    word of 64 bits, from one on, and these numbers do not end: they are its keys as long as it has
    registered fewer than `2 ^ 64 - 1` handles. -/
abbrev Key := Nat

/-- Describes a buffer. -/
structure Handle where
  width : UInt32
  height : UInt32
  format : PixelFormat
  usage : Usage
  /-- Length of a row in bytes. -/
  stride : UInt32
  /-- The layout modifier, `noModifier` if the allocator reported none. -/
  modifierWord : UInt64
  /-- The descriptor of the memory. -/
  descriptor : Option Descriptor
  /-- The key of this process, if the handle is registered in it. -/
  registration : Option Key
deriving DecidableEq

namespace Handle

/-- The layout modifier that stands for none. -/
def noModifier : UInt64 := 0x00ffffffffffffff

/-- The handle of a buffer that is not allocated yet. -/
def new (size : Extent) (format : PixelFormat) (usage : Usage) : Handle :=
  { width := size.width, height := size.height, format, usage, stride := 0,
    modifierWord := noModifier, descriptor := none, registration := none }

/-- The size of the image. -/
def size (h : Handle) : Extent := ⟨h.width, h.height⟩

/-- The layout modifier, if the allocator reported one. -/
def modifier (h : Handle) : Option UInt64 :=
  if h.modifierWord = noModifier then none else some h.modifierWord

/-- A copy with a descriptor of its own, registered nowhere. -/
def duplicate (h : Handle) : Except Error Handle :=
  match h.descriptor with
  | none => .ok { h with registration := none }
  | some d =>
    match Kernel.duplicate d with
    | .error e => .error (.io e)
    | .ok d => .ok { h with descriptor := some d, registration := none }

/-- A handle as messages show it. -/
def describe (h : Handle) : String :=
  let descriptor := match h.descriptor with
    | none => "None"
    | some _ => "Some(#)"
  let owner := match h.registration with
    | none => "0"
    | some _ => "#"
  let key := h.registration.getD 0
  "GrallocHandle \x7b " ++
    s!"width: {h.width}, height: {h.height}, format: {h.format.describe}, " ++
    s!"usage: {h.usage.describe}, stride: {h.stride}, modifier: {h.modifierWord}, " ++
    s!"prime_fd: {descriptor}, data_owner: {owner}, data: {key} \x7d"

end Handle

end GraphicsBuffer
