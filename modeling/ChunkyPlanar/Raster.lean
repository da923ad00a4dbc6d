import ChunkyPlanar.Bytes
import ChunkyPlanar.Size

/-! Rasters: one palette index a pixel, row after row, as many as the size has
pixels. A raster is read as its indices, as rows or pixel by pixel. -/

namespace ChunkyPlanar

structure Raster extends Size where
  indices : Bytes
  size_indices : indices.size = toSize.pixelCount
  deriving DecidableEq, Repr

inductive RasterError where
  | wrongIndexCount (size : Size) (actual : Nat)
  | indexTooLarge (index : UInt8) (position paletteSize : Nat)
  | unknownIndex (index : UInt8) (position : Nat)
  deriving DecidableEq, Repr

def RasterError.message : RasterError → String
  | .wrongIndexCount size actual =>
      s!"Pixel count mismatch: {size.text} needs {size.pixelCount} indices, got {actual}"
  | .indexTooLarge index position paletteSize =>
      s!"Invalid palette index: {index} at pixel #{position} " ++
        s!"exceeds palette size of {paletteSize}"
  | .unknownIndex index position =>
      s!"Palette index {index} at pixel #{position} has no remapped entry"

namespace Raster

def empty : Raster := ⟨⟨0, 0⟩, #[], rfl⟩

def ofIndices (size : Size) (indices : Bytes) : Except RasterError Raster :=
  if size_indices : indices.size = size.pixelCount then
    .ok ⟨size, indices, size_indices⟩
  else
    .error (.wrongIndexCount size indices.size)

/-- The first index that a palette of this many colors lacks is the error. -/
def checkWithin (raster : Raster) (paletteSize : Nat) : Except RasterError Unit :=
  match raster.indices.findFinIdx? (fun index => paletteSize ≤ index.toNat) with
  | some position =>
      .error (.indexTooLarge raster.indices[position] position paletteSize)
  | none => .ok ()

def ofIndicesWithin (size : Size) (indices : Bytes) (paletteSize : Nat) :
    Except RasterError Raster := do
  let raster ← ofIndices size indices
  raster.checkWithin paletteSize
  return raster

def isEmpty (raster : Raster) : Bool := raster.indices.isEmpty

def pixel? (raster : Raster) (x y : UInt32) : Option UInt8 :=
  if x < raster.width ∧ y < raster.height then
    raster.indices[y.toNat * raster.width.toNat + x.toNat]?
  else
    none

def rows (raster : Raster) : List Bytes :=
  raster.indices.chunks (max raster.width.toNat 1)

def greatestIndex? (raster : Raster) : Option UInt8 := raster.indices.max?

/-- Looks every index up; the first one that `lookup` does not know is the error. -/
def relabel (raster : Raster) (lookup : UInt8 → Option UInt8) :
    Except RasterError Raster :=
  match raster.indices.findFinIdx? (fun index => (lookup index).isNone) with
  | some position => .error (.unknownIndex raster.indices[position] position)
  | none =>
      .ok {
        toSize := raster.toSize
        indices := raster.indices.map fun index => (lookup index).getD 0
        size_indices := by simp [raster.size_indices] }

end Raster

end ChunkyPlanar
