/-
  GraphicsBuffer.PixelFormat

  Pixel formats. A `PixelFormat` is the code that applications use; a `FourCC` names the layout
  that an allocator makes. Six formats have such a layout; one of them, the planar YV12, is folded
  into two-byte texels, and `PixelFormat.physicalExtent` gives the size of the folded image.
-/

import GraphicsBuffer.Arithmetic
import GraphicsBuffer.LittleEndian

namespace GraphicsBuffer

/-! ## Layout codes -/

/-- A layout named by four bytes, the first in the lowest byte of the code. -/
structure FourCC where
  code : UInt32
deriving DecidableEq, Inhabited

namespace FourCC

/-- The layout with these four bytes. -/
def ofBytes (b0 b1 b2 b3 : UInt8) : FourCC :=
  ⟨UInt32.ofNat (LittleEndian.number [b0, b1, b2, b3])⟩

/-- The four bytes of a layout. -/
def bytes (f : FourCC) : List UInt8 := LittleEndian.bytes 4 f.code.toNat

/-- RG16, two bytes a pixel. -/
def rgb565 : FourCC := ⟨0x36314752⟩

/-- RG24, three bytes a pixel. -/
def rgb888 : FourCC := ⟨0x34324752⟩

/-- GR88, two bytes a pixel. -/
def gr88 : FourCC := ⟨0x38385247⟩

/-- XB24, four bytes a pixel. -/
def xbgr8888 : FourCC := ⟨0x34324258⟩

/-- AB24, four bytes a pixel. -/
def abgr8888 : FourCC := ⟨0x34324241⟩

/-- AR24, four bytes a pixel. -/
def argb8888 : FourCC := ⟨0x34325241⟩

/-- How many bytes a pixel takes, for the layouts that are known. -/
def bytesPerPixel (f : FourCC) : Except Error UInt32 :=
  if f = rgb565 ∨ f = gr88 then .ok 2
  else if f = rgb888 then .ok 3
  else if f = xbgr8888 ∨ f = abgr8888 ∨ f = argb8888 then .ok 4
  else .error (.unsupportedFormat f.code)

/-- Whether a byte is a visible ASCII character. -/
def visible (b : UInt8) : Bool := 0x21 ≤ b && b ≤ 0x7e

/-- A layout as messages show it: by its characters if all are visible, else by its digits. -/
def describe (f : FourCC) : String :=
  if f.bytes.all visible then
    "fourcc(" ++ String.ofList (f.bytes.map fun b => Char.ofNat b.toNat) ++ ")"
  else
    "fourcc(0x" ++ String.ofList (Text.hexOfBytes f.bytes) ++ ")"

end FourCC

/-! ## Application formats -/

/-- A pixel format by its code. -/
structure PixelFormat where
  code : UInt32
deriving DecidableEq, Inhabited

namespace PixelFormat

def rgba8888 : PixelFormat := ⟨1⟩
def rgbx8888 : PixelFormat := ⟨2⟩
def rgb888 : PixelFormat := ⟨3⟩
def rgb565 : PixelFormat := ⟨4⟩
def bgra8888 : PixelFormat := ⟨5⟩
def ycbcr422sp : PixelFormat := ⟨0x10⟩
def ycrcb420sp : PixelFormat := ⟨0x11⟩

/-- A plane of luma and, below it, two chroma planes of half its width and height. -/
def yv12 : PixelFormat := ⟨0x32315659⟩

/-- The layout that stores a format, if there is one. -/
def fourCC? (f : PixelFormat) : Option FourCC :=
  if f = rgba8888 then some FourCC.abgr8888
  else if f = rgbx8888 then some FourCC.xbgr8888
  else if f = rgb888 then some FourCC.rgb888
  else if f = rgb565 then some FourCC.rgb565
  else if f = bgra8888 then some FourCC.argb8888
  else if f = yv12 then some FourCC.gr88
  else none

/-- The layout that stores a format; having none is an error. -/
def fourCC (f : PixelFormat) : Except Error FourCC :=
  match f.fourCC? with
  | some layout => .ok layout
  | none => .error (.unsupportedFormat f.code)

/-- Whether the planes of a format are folded into one image. -/
def planar (f : PixelFormat) : Bool := f = yv12

/-- The size of the stored image. A planar image is folded into two-byte texels: half as wide,
    and as high as the luma and chroma rows together. -/
def physicalExtent (f : PixelFormat) (size : Extent) : Except Error Extent :=
  if f.planar then
    match Arithmetic.add32 "height" size.height "chroma_height" (size.height / 2) with
    | .ok height => .ok ⟨size.width / 2, height⟩
    | .error e => .error e
  else .ok size

/-- The corner, in the stored image, of the region that a lock of `r` has to map: the size of the
    region is folded, its origin is not. -/
def mapCorner (f : PixelFormat) (r : Rect) : Except Error Corner := do
  let size ← f.physicalExtent r.extent
  let right ← Arithmetic.add32 "x" r.x "width" size.width
  let bottom ← Arithmetic.add32 "y" r.y "height" size.height
  return ⟨right, bottom⟩

/-- A format as messages show it. -/
def describe (f : PixelFormat) : String :=
  if f = rgba8888 then "RGBA_8888"
  else if f = rgbx8888 then "RGBX_8888"
  else if f = rgb888 then "RGB_888"
  else if f = rgb565 then "RGB_565"
  else if f = bgra8888 then "BGRA_8888"
  else if f = ycbcr422sp then "YCbCr_422_SP"
  else if f = ycrcb420sp then "YCrCb_420_SP"
  else if f = yv12 then "YV12"
  else "HalFormat(" ++ Text.hexNumber f.code.toNat ++ ")"

end PixelFormat

end GraphicsBuffer
