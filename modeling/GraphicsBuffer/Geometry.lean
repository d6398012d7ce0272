/-
  GraphicsBuffer.Geometry

  Sizes, regions and corners in pixels. Words of 32 bits carry them; sums that may not fit are
  made by `GraphicsBuffer.Arithmetic`.
-/

namespace GraphicsBuffer

/-- The size of an image or a buffer in pixels. -/
structure Extent where
  width : UInt32
  height : UInt32
deriving DecidableEq, Inhabited

/-- A region: its origin and its size. -/
structure Rect where
  x : UInt32
  y : UInt32
  width : UInt32
  height : UInt32
deriving DecidableEq, Inhabited

/-- The corner of a region that lies opposite its origin: one past its last column and row. -/
structure Corner where
  right : UInt32
  bottom : UInt32
deriving DecidableEq, Inhabited

namespace Rect

/-- The size of a region. -/
def extent (r : Rect) : Extent := ⟨r.width, r.height⟩

end Rect

namespace Corner

/-- The region from the origin of the buffer up to a corner. -/
def fromOrigin (c : Corner) : Rect := ⟨0, 0, c.right, c.bottom⟩

/-- Whether the region up to `c` fits in the region up to `d`. -/
def within (c d : Corner) : Bool := c.right ≤ d.right && c.bottom ≤ d.bottom

/-- Whether the region up to `c` fits in a buffer of this size. -/
def fits (c : Corner) (e : Extent) : Bool := c.right ≤ e.width && c.bottom ≤ e.height

end Corner

end GraphicsBuffer
