import ChunkyPlanar.Journal
import ChunkyPlanar.Plane
import ChunkyPlanar.Raster

/-! The sizes that planes can cover, the depth that indices need, which is their
number of planes, and the errors of both. Rows are whole bytes, so a width is a
non-zero multiple of eight. -/

namespace ChunkyPlanar

def maxDepth : Nat := 8

inductive PlaneError where
  | unsupportedSize (size : Size)
  | wrongSize (actual expected : Size)
  | depthOutOfRange (depth required : Nat)
  | wrongBlobLength (expected actual : Nat)
  | wrongPlaneLength (position expected actual : Nat)
  | raster (error : RasterError)
  deriving DecidableEq, Repr

namespace PlaneError

def message : PlaneError → String
  | .unsupportedSize size =>
      s!"Unsupported dimensions {size.text}: " ++
        "width must be a non-zero multiple of 8 and height non-zero"
  | .wrongSize actual expected =>
      s!"Image is {actual.text}, expected {expected.text}"
  | .depthOutOfRange depth required =>
      s!"Invalid plane count {depth}: need between {required} and 8 planes"
  | .wrongBlobLength expected actual =>
      s!"Blob length mismatch: expected {expected} bytes, got {actual}"
  | .wrongPlaneLength position expected actual =>
      s!"Plane #{position} holds {actual} bytes, expected {expected}"
  | .raster _ => "Invalid image"

def causes : PlaneError → List String
  | .raster error => [error.message]
  | _ => []

end PlaneError

namespace Plane

def bytesPerRow (size : Size) : Logged PlaneError Nat :=
  if size.width = 0 ∨ size.height = 0 ∨ size.width.toNat % 8 ≠ 0 then
    .fail s!"Unsupported dimensions {size.text}" (.unsupportedSize size)
  else
    .succeed (size.width.toNat / 8)

def bytesPerPlane (size : Size) : Logged PlaneError Nat := do
  let bytesPerRow ← bytesPerRow size
  return bytesPerRow * size.height.toNat

/-- The bit length of the index; index 0 takes one plane too. -/
def depthForIndex (index : UInt8) : Nat := index.toNat.log2 + 1

def depthForSlots (slots : Nat) : Nat :=
  depthForIndex (min (slots - 1) 255).toUInt8

def checkDepth (depth : Nat) (greatestIndex? : Option UInt8) :
    Logged PlaneError Unit :=
  let required := greatestIndex?.elim 1 depthForIndex
  if depth < required ∨ maxDepth < depth then
    .fail s!"Plane count {depth} out of range {required}..={maxDepth}"
      (.depthOutOfRange depth required)
  else
    .succeed ()

end Plane

end ChunkyPlanar
