import ChunkyPlanar.Plane.Shape

/-! Headerless blobs: the bytes of the planes one after another. -/

namespace ChunkyPlanar

abbrev Blob := Bytes

namespace Blob

def ofPlanes (planes : List Plane) : Blob := Bytes.join (planes.map (·.bytes))

def toPlanes (blob : Blob) (size : Size) (depth : Nat) :
    Logged PlaneError (List Plane) := do
  let length ← Plane.bytesPerPlane size
  Plane.checkDepth depth none
  let expected := length * depth
  if blob.size = expected then
    return (blob.chunks length).mapIdx fun number bytes => ⟨number, bytes⟩
  else
    Logged.fail s!"Blob has {blob.size} bytes, expected {expected}"
      (.wrongBlobLength expected blob.size)

end Blob

end ChunkyPlanar
