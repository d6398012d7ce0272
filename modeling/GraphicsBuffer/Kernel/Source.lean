/-
  GraphicsBuffer.Kernel.Source

  Where a descriptor can come from, other than from a buffer.
-/

import GraphicsBuffer.Kernel

namespace GraphicsBuffer

/-- The origin of a descriptor. -/
inductive Source where
  /-- There is no descriptor. -/
  | nothing
  | nullDevice
  | pipe
  /-- A number that is not open. -/
  | closed
  /-- Fresh memory. -/
  | fresh (size : Nat) (writeSealed : Bool)
deriving DecidableEq

/-- Opens a descriptor, making the memory for it if need be. -/
def Kernel.openSource (k : Kernel) : Source → Option Descriptor × Kernel
  | .nothing => (none, k)
  | .nullDevice => (some .nullDevice, k)
  | .pipe => (some .pipe, k)
  | .closed => (some .closed, k)
  | .fresh size writeSealed =>
    let (id, k) := k.addMemory [] size writeSealed
    (some (.memory id), k)

end GraphicsBuffer
