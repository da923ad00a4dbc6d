import Mathlib
import ChunkyPlanar.Machine.Picture

/-! The reading of pixels as the machine does it, color by color. A table has the index of
each color met so far, and the palette has the color of each index. -/

namespace ChunkyPlanar.Machine

structure Indexing where
  table : Std.HashMap Color UInt8
  palette : Array Color
  indices : Bytes

namespace Indexing

def empty : Indexing := ⟨∅, #[], #[]⟩

def readColor (pixel : Bytes) : Except Trap Color := do
  return ⟨← read pixel 0, ← read pixel 1, ← read pixel 2⟩

/-- An index has eight bits, so no limit allows more than 256 colors. -/
def readPixel (limit : Nat) (indexing : Indexing) (pixel : Bytes) :
    Work ChunkyError Indexing := do
  let color ← .step (readColor pixel)
  match indexing.table[color]? with
  | some index => return { indexing with indices := indexing.indices.push index }
  | none =>
      if min limit 256 ≤ indexing.palette.size then
        let ordinal ← .step (add indexing.palette.size 1)
        .done (.fail s!"Image holds more than {limit} distinct colors"
          (.tooManyColors limit ordinal))
      else
        let index := indexing.palette.size.toUInt8
        return {
          table := indexing.table.insert color index
          palette := indexing.palette.push color
          indices := indexing.indices.push index }

end Indexing

def ofPixels (pixels : Bytes) (size : Size) (limit : Nat) :
    Work ChunkyError ChunkyPicture := do
  let pixelCount ← .step (mul size.width.toNat size.height.toNat)
  let expected ← .step (mul pixelCount 3)
  if pixels.size = expected then
    let groups ← .step (chunks pixels 3)
    let indexing ← groups.foldlM (Indexing.readPixel limit) .empty
    let built ← .step (ofIndices size indexing.indices)
    let raster ← .done (.silent (built.mapError .raster))
    return ⟨indexing.palette, raster⟩
  else
    .done (.fail s!"RGB buffer of {pixels.size} bytes does not match {size.text}"
      (.wrongByteCount expected pixels.size))

end ChunkyPlanar.Machine
