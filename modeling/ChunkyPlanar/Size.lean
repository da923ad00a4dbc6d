/-! Picture sizes in pixels. -/

namespace ChunkyPlanar

structure Size where
  width : UInt32
  height : UInt32
  deriving DecidableEq, Repr

namespace Size

def pixelCount (size : Size) : Nat := size.width.toNat * size.height.toNat

def text (size : Size) : String := s!"{size.width}x{size.height}"

theorem pixelCount_lt (size : Size) : size.pixelCount < UInt64.size := by
  have width := size.width.toNat_lt
  have height := size.height.toNat_lt
  calc size.pixelCount ≤ (UInt32.size - 1) * (UInt32.size - 1) :=
        Nat.mul_le_mul (Nat.le_pred_of_lt width) (Nat.le_pred_of_lt height)
    _ < UInt64.size := by decide

theorem position_lt_pixelCount {size : Size} {x y : Nat} (column : x < size.width.toNat)
    (row : y < size.height.toNat) :
    y * size.width.toNat + x < size.pixelCount := by
  calc
    y * size.width.toNat + x < y * size.width.toNat + size.width.toNat :=
      Nat.add_lt_add_left column _
    _ = (y + 1) * size.width.toNat := (Nat.succ_mul ..).symm
    _ ≤ size.height.toNat * size.width.toNat := Nat.mul_le_mul_right _ row
    _ = size.pixelCount := Nat.mul_comm ..

end Size

end ChunkyPlanar
