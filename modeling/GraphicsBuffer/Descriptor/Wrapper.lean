/-
  GraphicsBuffer.Descriptor.Wrapper

  The wrappers that own a descriptor and the conversions between them. Only making a clone opens a
  descriptor of another number.
-/

namespace GraphicsBuffer

/-- What owns a descriptor. -/
inductive Wrapper where
  | owned
  | safe
  | file
deriving DecidableEq

/-- Whether programs that the process starts get the descriptor closed; this holds of all that the
    library opens. -/
def Wrapper.closeOnExec : Wrapper → Bool
  | .owned | .safe | .file => true

/-- A conversion of the owner of a descriptor. -/
inductive Rewrap where
  | toSafe
  | toFile
  | toOwned
  | clone
  | throughNumber
deriving DecidableEq

namespace Rewrap

/-- The wrapper after a conversion; not every wrapper has every conversion. -/
def rewrap? : Rewrap → Wrapper → Option Wrapper
  | .toSafe, .file | .toSafe, .owned => some .safe
  | .toFile, .safe | .toFile, .owned => some .file
  | .toOwned, .file => some .owned
  | .clone, .safe => some .safe
  | .throughNumber, w => some w
  | _, _ => none

/-- Whether the descriptor keeps its number. -/
def keepsNumber (c : Rewrap) : Bool := c ≠ .clone

end Rewrap

end GraphicsBuffer
