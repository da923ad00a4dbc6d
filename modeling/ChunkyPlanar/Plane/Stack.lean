import ChunkyPlanar.Plane.Shape

/-! Stacks of planes: plane number `p` holds bit `p` of every index of a raster. -/

namespace ChunkyPlanar

def Raster.plane (raster : Raster) (number : Nat) : Plane where
  number := number
  bytes := Array.ofFn (n := raster.indices.size / 8) fun byte =>
    Byte.pack fun column =>
      raster.indices[8 * byte.val + column.val].toNat.testBit number

def Raster.toPlanes (raster : Raster) (depth : Nat) :
    Logged PlaneError (List Plane) := do
  let _ ← Plane.bytesPerRow raster.toSize
  Plane.checkDepth depth raster.greatestIndex?
  return (List.range depth).map raster.plane

/-- The first plane of the list gives the lowest bit. -/
def Plane.stackIndex (planes : List Plane) (position : Nat) : Nat :=
  planes.foldr (fun plane index => 2 * index + (plane.bitAt position).toNat) 0

/-- Planes count by their place in the list, whatever their numbers are. -/
def Raster.ofPlanes (planes : List Plane) (size : Size) :
    Logged PlaneError Raster := do
  let expected ← Plane.bytesPerPlane size
  Plane.checkDepth (min planes.length 255) none
  match planes.zipIdx.find? (fun placed => placed.1.bytes.size ≠ expected) with
  | some (plane, position) =>
      Logged.fail s!"Plane #{position} has {plane.bytes.size} bytes"
        (.wrongPlaneLength position expected plane.bytes.size)
  | none =>
      Logged.silent <| Except.mapError PlaneError.raster <|
        Raster.ofIndices size <| Array.ofFn (n := expected * 8) fun position =>
          (Plane.stackIndex planes position).toUInt8

end ChunkyPlanar
