/-
  GraphicsBuffer.Config

  The settings of a buffer manager: the device node to allocate from, read from the environment.
-/

import GraphicsBuffer.Path
import GraphicsBuffer.Text.Quoted

namespace GraphicsBuffer

/-- Settings that are read once when a buffer manager starts. -/
structure Config where
  devicePath : List UInt8

namespace Config

/-- The environment variable that names the device node. -/
def property : String := "GRALLOC_GBM_DEVICE"

/-- The device node in use when nothing else is configured. -/
def defaultPath : String := "/dev/dri/renderD128"

/-- The settings when nothing else is configured. -/
def standard : Config := ⟨defaultPath.toUTF8.toList⟩

/-- The settings for a value of the environment variable; an empty value counts as none. -/
def ofProperty : Option (List UInt8) → Config
  | none | some [] => standard
  | some path => ⟨path⟩

/-- Whether two settings ask for the same: their paths may be spelled differently. -/
def same (a b : Config) : Bool := Path.same a.devicePath b.devicePath

/-- The settings as messages show them. -/
def describe (c : Config) : String :=
  "GrallocConfig \x7b device_path: " ++ Text.quoted c.devicePath ++ " \x7d"

end Config

end GraphicsBuffer
