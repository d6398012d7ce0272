/-
  GraphicsBuffer.Log

  What the library reports about its work. Entries are values; `LogEntry.line` writes them out.
  Numbers that differ from run to run (descriptors, processes, addresses) are written `#`.
-/

import GraphicsBuffer.PixelFormat
import GraphicsBuffer.Usage

namespace GraphicsBuffer

/-- How much an entry matters. -/
inductive LogLevel where
  | error
  | info
  | debug
deriving DecidableEq

/-- The word for a level. -/
def LogLevel.word : LogLevel → String
  | .error => "ERROR"
  | .info => "INFO"
  | .debug => "DEBUG"

/-- One report. -/
inductive LogEntry where
  /-- A manager starts on the device node at this path. -/
  | opening (path : List UInt8)
  /-- A manager allocates from the backend of this name. -/
  | usingBackend (name : String)
  | creating (size : Extent) (format : PixelFormat) (flags : BindFlags)
  | createFailed (size : Extent) (format : PixelFormat) (flags : BindFlags) (e : Error)
  | importing (size : Extent) (layout : FourCC)
  | importFailed (e : Error)
  /-- A handle from elsewhere, with or without a descriptor, is about to be imported. -/
  | adopting (hasDescriptor : Bool)
  | locking (count : UInt32) (usage : Usage)
  | notPermitted (allowed requested : Usage)
  | beyondMapping (covered asked : Corner)
  /-- A folded image is mapped with an origin that is not that of the buffer. -/
  | planarOrigin (format : PixelFormat)
  | mapFailed (region : Rect) (corner : Corner) (e : Error)
  | mapped (region : Rect) (corner : Corner)
  | destroyedLocked (count : UInt32)
  /-- The system refused to unmap at this address. -/
  | unmapFailed (address : Nat) (e : Errno)

namespace LogEntry

open Text (hexNumber quoted)

/-- The level of an entry. -/
def level : LogEntry → LogLevel
  | .opening _ | .creating _ _ _ | .importing _ _ | .adopting _ | .mapped _ _ => .debug
  | .usingBackend _ | .locking _ _ => .info
  | .createFailed _ _ _ _ | .importFailed _ | .notPermitted _ _ | .beyondMapping _ _
  | .planarOrigin _ | .mapFailed _ _ _ | .destroyedLocked _ | .unmapFailed _ _ => .error

/-- Two coordinates in parentheses. -/
def point (a b : UInt32) : String := s!"({a}, {b})"

/-- What an entry says. -/
def text : LogEntry → String
  | .opening path => s!"opening {quoted path}"
  | .usingBackend name => s!"using {name} allocator"
  | .creating size format flags =>
    s!"create BO, size={size.width}x{size.height}, fmt={format.describe}, " ++
      s!"usage={hexNumber flags.bits.toNat}"
  | .createFailed size format flags e =>
    s!"failed to create BO, size={size.width}x{size.height}, fmt={format.describe}, " ++
      s!"usage={hexNumber flags.bits.toNat}: {e.message}"
  | .importing size layout =>
    s!"import BO, pfd=#, size={size.width}x{size.height}, fmt={layout.describe}"
  | .importFailed e => s!"failed to import BO, pfd=#: {e.message}"
  | .adopting hasDescriptor =>
    let descriptor := if hasDescriptor then "#" else "-1"
    s!"handle: pfd={descriptor}, data_owner=0, pid=#"
  | .locking count usage => s!"lock bo, cnt={count}, usage={hexNumber usage.bits.toNat}"
  | .notPermitted allowed requested =>
    s!"bo.usage:{hexNumber allowed.bits.toNat}/usage:{hexNumber requested.bits.toNat} " ++
      "is not HW_FB or HW_TEXTURE"
  | .beyondMapping covered asked =>
    s!"bo mapped up to {point covered.right covered.bottom}, " ++
      s!"can not map up to {point asked.right asked.bottom}"
  | .planarOrigin format => s!"can't map with offset for planar bo - fmt {format.describe}"
  | .mapFailed region corner e =>
    s!"failed to map bo {point region.x region.y}-{point corner.right corner.bottom}: {e.message}"
  | .mapped region corner =>
    s!"mapped bo {point region.x region.y}-{point corner.right corner.bottom} at 0x#"
  | .destroyedLocked count => s!"destroying BO with {count} lock(s) outstanding"
  | .unmapFailed address e => s!"failed to unmap {hexNumber address}: {e.withName}"

/-- An entry as a line. -/
def line (entry : LogEntry) : String := s!"{entry.level.word}: {entry.text}"

end LogEntry

end GraphicsBuffer
