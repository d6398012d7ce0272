/-
  GraphicsBuffer.Usage

  What a buffer is for. A usage says how the CPU and the devices are going to touch the buffer;
  from it follow the flags an allocator is asked for and the access a CPU mapping needs.
-/

import GraphicsBuffer.FlagSet

namespace GraphicsBuffer

/-! ## Usage -/

/-- The intended uses of a buffer. The CPU read and write values are small numbers inside the
    masks `cpuReadMask` and `cpuWriteMask`, so the frequent ones share bits with the rare ones. -/
abbrev Usage := FlagSet 0xf037ffff

namespace Usage

def cpuReadRarely : Usage := .ofRaw 0x2
def cpuReadOften : Usage := .ofRaw 0x3
def cpuReadMask : Usage := .ofRaw 0xf
def cpuWriteRarely : Usage := .ofRaw 0x20
def cpuWriteOften : Usage := .ofRaw 0x30
def cpuWriteMask : Usage := .ofRaw 0xf0
def texture : Usage := .ofRaw 0x100
def render : Usage := .ofRaw 0x200
def framebuffer : Usage := .ofRaw 0x1000

/-- The names under which usages are shown. -/
def table : List (String × UInt32) :=
  [("SW_READ_RARELY", 0x2), ("SW_READ_OFTEN", 0x3), ("SW_READ_MASK", 0xf),
   ("SW_WRITE_RARELY", 0x20), ("SW_WRITE_OFTEN", 0x30), ("SW_WRITE_MASK", 0xf0),
   ("HW_TEXTURE", 0x100), ("HW_RENDER", 0x200), ("HW_2D", 0x400), ("HW_COMPOSER", 0x800),
   ("HW_FB", 0x1000), ("EXTERNAL_DISP", 0x2000), ("PROTECTED", 0x4000), ("CURSOR", 0x8000),
   ("HW_VIDEO_ENCODER", 0x10000), ("HW_CAMERA_WRITE", 0x20000), ("HW_CAMERA_READ", 0x40000),
   ("HW_CAMERA_ZSL", 0x60000), ("HW_CAMERA_MASK", 0x60000), ("HW_MASK", 0x71f00),
   ("RENDERSCRIPT", 0x100000), ("FOREIGN_BUFFERS", 0x200000), ("PRIVATE_0", 0x10000000),
   ("PRIVATE_1", 0x20000000), ("PRIVATE_2", 0x40000000), ("PRIVATE_3", 0x80000000),
   ("PRIVATE_MASK", 0xf0000000)]

/-- The names of a usage. -/
def describe (u : Usage) : String := FlagSet.describe table u

end Usage

/-! ## What an allocator is asked for -/

/-- Demands on the layout and placement of a new buffer. -/
abbrev BindFlags := FlagSet 0x1f

namespace BindFlags

def scanout : BindFlags := .ofRaw 0x1
def cursor : BindFlags := .ofRaw 0x2
def rendering : BindFlags := .ofRaw 0x4
def linear : BindFlags := .ofRaw 0x10

/-- The names under which the demands are shown. -/
def table : List (String × UInt32) :=
  [("SCANOUT", 0x1), ("CURSOR", 0x2), ("RENDERING", 0x4), ("WRITE", 0x8), ("LINEAR", 0x10)]

/-- The names of a set of demands. -/
def describe (f : BindFlags) : String := FlagSet.describe table f

end BindFlags

/-- Buffers that the CPU touches are linear, buffers that a device draws into or samples are made
    for rendering, and framebuffers can be scanned out. Nothing asks for a cursor plane. -/
def Usage.bindFlags (u : Usage) : BindFlags :=
  (if u.meets (cpuReadOften ∪ cpuWriteOften) then BindFlags.linear else ∅) ∪
  (if u.meets (render ∪ texture) then BindFlags.rendering else ∅) ∪
  (if u.meets framebuffer then BindFlags.scanout else ∅)

/-! ## CPU access -/

/-- The ways in which a mapping may be touched. -/
abbrev Access := FlagSet 0x3

namespace Access

def read : Access := .ofRaw 0x1
def write : Access := .ofRaw 0x2
def readWrite : Access := .ofRaw 0x3

/-- The names under which accesses are shown. -/
def table : List (String × UInt32) := [("READ", 0x1), ("WRITE", 0x2), ("READ_WRITE", 0x3)]

/-- The names of an access. -/
def describe (a : Access) : String := FlagSet.describe table a

end Access

namespace Usage

/-- Whether the CPU reads or writes. -/
def cpuAccess (u : Usage) : Bool := u.meets (cpuReadMask ∪ cpuWriteMask)

/-- Whether the CPU writes. -/
def cpuWrites (u : Usage) : Bool := u.meets cpuWriteMask

/-- The access that a CPU mapping for this usage needs; every mapping can be read. -/
def access (u : Usage) : Access := if u.cpuWrites then Access.readWrite else Access.read

/-- Usages that let a buffer be locked for anything once it is allocated for one of them, so that
    software can draw into framebuffers and textures. -/
def lockableForAnything : Usage := cpuReadOften ∪ framebuffer ∪ texture

end Usage

end GraphicsBuffer
