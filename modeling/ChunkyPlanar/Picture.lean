import ChunkyPlanar.Palette.Reduction
import ChunkyPlanar.Plane.Blob
import ChunkyPlanar.Plane.Stack
import ChunkyPlanar.Profile

/-! Planar pictures: a hardware palette and a stack of planes. A chunky picture
becomes planar by reducing its palette to the slots of a profile, compacting its
indices and splitting their bits into planes. -/

namespace ChunkyPlanar

structure PlanarPicture extends Size where
  palette : HardwarePalette
  planes : List Plane
  deriving DecidableEq, Repr

inductive EncodingError where
  | palette (error : PaletteError)
  | planes (error : PlaneError)
  | compaction (error : RasterError)
  deriving DecidableEq, Repr

namespace EncodingError

def message : EncodingError → String
  | .palette _ => "Palette quantization failed"
  | .planes _ => "Bitplane encoding failed"
  | .compaction _ => "Index remapping failed"

def causes : EncodingError → List String
  | .palette error => [error.message]
  | .planes error => error.message :: error.causes
  | .compaction error => [error.message]

end EncodingError

namespace PlanarPicture

def depth (picture : PlanarPicture) : Nat := picture.planes.length

def bytesPerPlane (picture : PlanarPicture) : Nat :=
  picture.width.toNat / 8 * picture.height.toNat

def toRaster (picture : PlanarPicture) : Logged PlaneError Raster :=
  Raster.ofPlanes picture.planes picture.toSize

def toBlob (picture : PlanarPicture) : Blob := .ofPlanes picture.planes

def checkSize (actual : Size) (expected? : Option Size) : Logged PlaneError Unit :=
  match expected? with
  | none => .succeed ()
  | some expected =>
      if actual = expected then
        .succeed ()
      else
        .fail s!"Image is {actual.text}, expected {expected.text}"
          (.wrongSize actual expected)

/-- Indices that are their own ranks stay as they are. -/
def compact (compaction : Compaction) (raster : Raster) :
    Except RasterError Raster :=
  if compaction.isInitialSegment then .ok raster else compaction.apply raster

/-- The words of the colors in use, how many these are, and the raster of ranks. -/
def rankBy (relabel : Compaction → Raster → Except RasterError Raster)
    (picture : ChunkyPicture) (slots : Nat) :
    Logged EncodingError (HardwarePalette × Nat × Raster) := do
  let (palette, compaction) ← (picture.reduce slots).mapError .palette
  let ranks ←
    Logged.silent ((relabel compaction picture.raster).mapError .compaction)
  return (palette, compaction.size, ranks)

/-- An encoding that goes from indices to ranks in the given way. -/
def ofChunkyBy (relabel : Compaction → Raster → Except RasterError Raster)
    (picture : ChunkyPicture) (profile : Profile) :
    Logged EncodingError PlanarPicture := do
  Logged.info "Starting encoding"
  let size := picture.raster.toSize
  (checkSize size profile.requiredSize?).mapError .planes
  let _ ← (Plane.bytesPerRow size).mapError .planes
  let depth := profile.depth
  (Plane.checkDepth depth none).mapError .planes
  let (palette, colors, ranks) ← rankBy relabel picture profile.slots
  let planes ← (ranks.toPlanes depth).mapError .planes
  let bytesPerPlane := (planes.head?.map (·.bytes.size)).getD 0
  Logged.info (s!"Encoding completed successfully: {colors} colors, " ++
    s!"{planes.length} planes of {bytesPerPlane} bytes")
  return { toSize := size, palette, planes }

def ofChunky (picture : ChunkyPicture) (profile : Profile) :
    Logged EncodingError PlanarPicture :=
  ofChunkyBy compact picture profile

end PlanarPicture

end ChunkyPlanar
