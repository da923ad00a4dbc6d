import ChunkyPlanar.Chunky
import ChunkyPlanar.Machine
import ChunkyPlanar.Plane.Blob
import ChunkyPlanar.Plane.Stack

/-! The work on pictures as the machine does it, pass by pass over buffers. Every sum,
product, shift and access is a step of the machine and may trap. -/

namespace ChunkyPlanar.Machine

theorem eq_of_mul {first second product : Nat} (multiplied : mul first second = .ok product) :
    product = first * second := by
  unfold mul word at multiplied
  split at multiplied
  · cases multiplied
    rfl
  · cases multiplied

def ofIndices (size : Size) (indices : Bytes) : Except Trap (Except RasterError Raster) :=
  match multiplied : mul size.width.toNat size.height.toNat with
  | .error trap => .error trap
  | .ok expected =>
      if counted : indices.size = expected then
        .ok (.ok ⟨size, indices, counted.trans (eq_of_mul multiplied)⟩)
      else
        .ok (.error (.wrongIndexCount size indices.size))

def pixel? (raster : Raster) (x y : UInt32) : Except Trap (Option UInt8) := do
  if x < raster.width ∧ y < raster.height then
    let row ← mul y.toNat raster.width.toNat
    let position ← add row x.toNat
    return raster.indices[position]?
  else
    return none

def bit? (plane : Plane) (x y width : UInt32) : Except Trap (Option Bool) := do
  if x < width ∧ width.toNat % 8 = 0 then
    let row ← mul y.toNat (width.toNat / 8)
    let position ← add row (x.toNat / 8)
    let mask ← shiftRight 0x80 (x.toNat % 8)
    return plane.bytes[position]?.map fun byte => byte &&& mask != 0
  else
    return none

def bytesPerPlane (size : Size) : Work PlaneError Nat := do
  let bytesPerRow ← .done (Plane.bytesPerRow size)
  .step (mul bytesPerRow size.height.toNat)

/-! Splitting: each byte takes eight indices and pushes one bit of each in at its right. -/

def pushBit (number : Nat) (byte index : UInt8) : Except Trap UInt8 := do
  let pushed ← shiftLeft byte 1
  let shifted ← shiftRight index number
  return pushed ||| shifted &&& 1

def packRow (number : Nat) (row : Bytes) : Except Trap (List UInt8) := do
  let groups ← chunks row 8
  groups.mapM fun group => group.toList.foldlM (pushBit number) 0

def plane (raster : Raster) (bytesPerRow number : Nat) : Except Trap Plane := do
  let _capacity ← mul bytesPerRow raster.height.toNat
  let rows ← chunks raster.indices (max raster.width.toNat 1)
  let packed ← rows.mapM (packRow number)
  return ⟨number, packed.flatten.toArray⟩

def toPlanes (raster : Raster) (depth : Nat) : Work PlaneError (List Plane) := do
  let bytesPerRow ← .done (Plane.bytesPerRow raster.toSize)
  .done (Plane.checkDepth depth raster.greatestIndex?)
  let planes ← .step ((List.range depth).mapM (plane raster bytesPerRow))
  let _length ← .step (mul bytesPerRow raster.height.toNat)
  return planes

/-! Stacking: each plane in turn adds its bit to the indices, a byte and then a column at a
time. -/

def depositBit (number place : Nat) (byte : UInt8) (indices : Bytes) (column : Nat) :
    Except Trap Bytes := do
  let shifted ← shiftRight byte (← sub 7 column)
  let bit ← shiftLeft (shifted &&& 1) number
  let position ← add (← mul place 8) column
  merge indices position bit

def depositByte (number : Nat) (indices : Bytes) (placed : UInt8 × Nat) :
    Except Trap Bytes :=
  (List.range 8).foldlM (depositBit number placed.2 placed.1) indices

def depositPlane (indices : Bytes) (placed : Plane × Nat) : Except Trap Bytes :=
  placed.1.bytes.toList.zipIdx.foldlM (depositByte placed.2) indices

def ofPlanes (planes : List Plane) (size : Size) : Work PlaneError Raster := do
  let expected ← bytesPerPlane size
  .done (Plane.checkDepth (min planes.length 255) none)
  match planes.zipIdx.find? (fun placed => placed.1.bytes.size ≠ expected) with
  | some (plane, position) =>
      .done (.fail s!"Plane #{position} has {plane.bytes.size} bytes"
        (.wrongPlaneLength position expected plane.bytes.size))
  | none =>
      let length ← .step (mul expected 8)
      let indices ← .step (planes.zipIdx.foldlM depositPlane (Array.replicate length 0))
      let built ← .step (ofIndices size indices)
      .done (.silent (built.mapError .raster))

def cut (blob : Blob) (size : Size) (depth : Nat) : Work PlaneError (List Plane) := do
  let length ← bytesPerPlane size
  .done (Plane.checkDepth depth none)
  let expected ← .step (mul length depth)
  if blob.size = expected then
    let parts ← .step (chunks blob length)
    return (parts.zip (List.range depth)).map fun part => ⟨part.2, part.1⟩
  else
    .done (.fail s!"Blob has {blob.size} bytes, expected {expected}"
      (.wrongBlobLength expected blob.size))

def toPixels (picture : ChunkyPicture) : Work ChunkyError Bytes :=
  match picture.raster.checkWithin picture.palette.size with
  | .error error => .done (.silent (.error (.raster error)))
  | .ok () => do
      let shown ← .step (picture.raster.indices.toList.mapM (read picture.palette ·.toNat))
      return shown.toArray.flatMap Color.toBytes

end ChunkyPlanar.Machine
