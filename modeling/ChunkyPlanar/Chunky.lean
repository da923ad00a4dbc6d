import ChunkyPlanar.Color
import ChunkyPlanar.Journal
import ChunkyPlanar.Raster

/-! Chunky pictures: a raster with the colors that its indices name. The palette
of a picture read from pixels lists its colors in the order of their first use. -/

namespace ChunkyPlanar

structure ChunkyPicture where
  palette : Array Color
  raster : Raster
  deriving DecidableEq, Repr

inductive ChunkyError where
  | wrongByteCount (expected actual : Nat)
  | tooManyColors (limit ordinal : Nat)
  | raster (error : RasterError)
  deriving DecidableEq, Repr

namespace ChunkyError

def message : ChunkyError → String
  | .wrongByteCount expected actual =>
      s!"Invalid pixel data length: expected {expected} bytes of RGB, got {actual}"
  | .tooManyColors limit ordinal =>
      s!"Palette overflow: maximum {limit} colors supported, " ++
        s!"attempted to add color #{ordinal}"
  | .raster _ => "Invalid image"

def causes : ChunkyError → List String
  | .raster error => [error.message]
  | _ => []

end ChunkyError

namespace ChunkyPicture

/-- The colors met so far, in order of first use, and the index of each pixel. -/
structure Indexing where
  palette : Array Color
  indices : Bytes

/-- The error is the ordinal of the color that exceeds the capacity. -/
def Indexing.add (capacity : Nat) (indexing : Indexing) (color : Color) :
    Except Nat Indexing :=
  match indexing.palette.idxOf? color with
  | some index =>
      .ok { indexing with indices := indexing.indices.push index.toUInt8 }
  | none =>
      if indexing.palette.size < capacity then
        .ok {
          palette := indexing.palette.push color
          indices := indexing.indices.push indexing.palette.size.toUInt8 }
      else
        .error (indexing.palette.size + 1)

/-- An index has eight bits, so no limit allows more than 256 colors. -/
def ofPixels (pixels : Bytes) (size : Size) (limit : Nat) :
    Logged ChunkyError ChunkyPicture :=
  if pixels.size = size.pixelCount * 3 then
    match (Color.ofBytes pixels).foldlM (Indexing.add (min limit 256)) ⟨#[], #[]⟩ with
    | .ok indexing =>
        .silent <| match Raster.ofIndices size indexing.indices with
          | .ok raster => .ok ⟨indexing.palette, raster⟩
          | .error error => .error (.raster error)
    | .error ordinal =>
        .fail s!"Image holds more than {limit} distinct colors"
          (.tooManyColors limit ordinal)
  else
    .fail s!"RGB buffer of {pixels.size} bytes does not match {size.text}"
      (.wrongByteCount (size.pixelCount * 3) pixels.size)

def toPixels (picture : ChunkyPicture) : Logged ChunkyError Bytes :=
  .silent <| match picture.raster.checkWithin picture.palette.size with
    | .ok () =>
        .ok (picture.raster.indices.flatMap fun index =>
          (picture.palette.getD index.toNat .black).toBytes)
    | .error error => .error (.raster error)

end ChunkyPicture

end ChunkyPlanar
