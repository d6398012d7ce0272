/-
  GraphicsBuffer.Kernel.Touch

  Trying out memory: writes and reads through an address, one after another, and the trial of a
  single mapping.
-/

import GraphicsBuffer.Kernel

namespace GraphicsBuffer

variable [PageSize]

/-- A write or a read, at a distance from some address. -/
inductive Touch where
  | write (offset : Nat) (bytes : List UInt8)
  | read (offset count : Nat)
deriving DecidableEq

/-- What a touch gives. -/
inductive TouchAnswer where
  | written
  | bytes (bytes : List UInt8)
  | refused (why : Kernel.Untouchable)
deriving DecidableEq

namespace Kernel

/-- Touches memory. A refused touch changes nothing. -/
def touch (k : Kernel) (a : Address) : Touch → TouchAnswer × Kernel
  | .write offset bytes =>
    match k.store a offset bytes with
    | .ok k => (.written, k)
    | .error why => (.refused why, k)
  | .read offset count =>
    match k.load a offset count with
    | .ok bytes => (.bytes bytes, k)
    | .error why => (.refused why, k)

/-- Touches memory time after time. -/
def touchAll (k : Kernel) (a : Address) : List Touch → List TouchAnswer × Kernel
  | [] => ([], k)
  | t :: rest =>
    let first := k.touch a t
    let others := first.2.touchAll a rest
    (first.1 :: others.1, others.2)

/-- The first bytes behind a descriptor, at most `count` of them, through a mapping made only to
    read them. -/
def firstBytes (k : Kernel) (d : Descriptor) (length count : Nat) : Except Error (List UInt8) :=
  match k.map d length Access.read with
  | .error e => .error e
  | .ok (id, k) =>
    match k.reach? ⟨id, 0⟩ with
    | none => .ok []
    | some (_, memory) => .ok (memory.read 0 (min count (memory.room length)))

/-- What the trial of a mapping shows. -/
structure MappingTrial where
  /-- Whether the mapping starts at a page boundary. -/
  aligned : Bool
  touches : List TouchAnswer
  /-- The first bytes, read through a second mapping once the first is gone. -/
  after : Except Error (List UInt8)

/-- Maps what a descriptor refers to, touches it, and takes the mapping away again. -/
def tryMapping (k : Kernel) (d : Descriptor) (length : Nat) (access : Access)
    (touches : List Touch) : Except Error MappingTrial :=
  match k.map d length access with
  | .error e => .error e
  | .ok (id, k) =>
    let address : Address := ⟨id, 0⟩
    let touched := k.touchAll address touches
    .ok { aligned := address.inPage = 0, touches := touched.1,
          after := (touched.2.unmap id).firstBytes d length 16 }

end Kernel

end GraphicsBuffer
