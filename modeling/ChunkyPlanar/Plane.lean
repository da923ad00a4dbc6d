import ChunkyPlanar.Byte
import ChunkyPlanar.Bytes

/-! Bit planes: eight pixels a byte, the leftmost in the most significant bit. -/

namespace ChunkyPlanar

structure Plane where
  number : Nat
  bytes : Bytes
  deriving DecidableEq, Repr

namespace Plane

/-- A pixel outside the rows of the given width, or past the last row, has no bit. -/
def bit? (plane : Plane) (x y width : UInt32) : Option Bool :=
  if x < width ∧ width.toNat % 8 = 0 then
    plane.bytes[y.toNat * (width.toNat / 8) + x.toNat / 8]?.map fun byte =>
      Byte.bit byte (x.toNat % 8)
  else
    none

/-- Counts pixels over all rows; past the end the bit is clear. -/
def bitAt (plane : Plane) (position : Nat) : Bool :=
  Byte.bit (plane.bytes.getD (position / 8) 0) (position % 8)

end Plane

end ChunkyPlanar
