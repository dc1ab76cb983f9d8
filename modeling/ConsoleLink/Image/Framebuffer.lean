/-! # Video frames

A frame is a row-major image; a pixel's low 24 bits are its red, green and blue.
-/

namespace ConsoleLink

/-- A completed video frame. -/
structure Framebuffer where
  width : Nat
  height : Nat
  pixels : Array UInt32

namespace Framebuffer

/-- The bytes of a pixel: red, green, blue, and full opacity. -/
def pushPixel (bytes : ByteArray) (pixel : UInt32) : ByteArray :=
  (((bytes.push (pixel >>> 16).toUInt8).push (pixel >>> 8).toUInt8).push pixel.toUInt8).push 0xFF

/-- The bytes of the pixels, four for each. -/
def rgba (f : Framebuffer) : ByteArray :=
  f.pixels.foldl pushPixel (ByteArray.emptyWithCapacity (4 * f.pixels.size))

end Framebuffer

end ConsoleLink
