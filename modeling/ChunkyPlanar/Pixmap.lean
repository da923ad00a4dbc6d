import ChunkyPlanar.Bytes
import ChunkyPlanar.Size

/-! Pixmaps: three bytes a pixel, red, green and blue, row after row. -/

namespace ChunkyPlanar

structure Pixmap extends Size where
  pixels : Bytes
  size_pixels : pixels.size = toSize.pixelCount * 3
  deriving DecidableEq, Repr

namespace Pixmap

def ofBytes? (size : Size) (pixels : Bytes) : Option Pixmap :=
  if size_pixels : pixels.size = size.pixelCount * 3 then
    some ⟨size, pixels, size_pixels⟩
  else
    none

end Pixmap

end ChunkyPlanar
