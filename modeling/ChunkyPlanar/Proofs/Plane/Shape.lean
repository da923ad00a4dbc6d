import Mathlib
import ChunkyPlanar.Plane.Shape
import ChunkyPlanar.Proofs.Raster

/-! The sizes that planes fill and the depths that hold every index of a raster,
said without the checks that look for them. -/

namespace ChunkyPlanar

/-- Rows are whole bytes, and there is at least one byte. -/
structure Size.FillsPlanes (size : Size) : Prop where
  width_ne_zero : size.width ≠ 0
  height_ne_zero : size.height ≠ 0
  width_mod : size.width.toNat % 8 = 0

namespace Size

theorem not_fillsPlanes_iff (size : Size) :
    ¬ size.FillsPlanes ↔
      size.width = 0 ∨ size.height = 0 ∨ size.width.toNat % 8 ≠ 0 := by
  constructor
  · intro unfilled
    by_contra suitable
    rw [not_or, not_or, not_not] at suitable
    exact unfilled ⟨suitable.1, suitable.2.1, suitable.2.2⟩
  · intro unsuitable fills
    rcases unsuitable with width | height | width
    · exact fills.width_ne_zero width
    · exact fills.height_ne_zero height
    · exact width fills.width_mod

variable {size : Size}

theorem FillsPlanes.of_suitable
    (suitable : ¬ (size.width = 0 ∨ size.height = 0 ∨ size.width.toNat % 8 ≠ 0)) :
    size.FillsPlanes :=
  not_not.mp (mt size.not_fillsPlanes_iff.mp suitable)

/-- The bytes of a plane are fewer than a 64-bit word counts. -/
theorem bytes_lt (size : Size) :
    size.width.toNat / 8 * size.height.toNat < UInt64.size :=
  Nat.lt_of_le_of_lt (Nat.mul_le_mul_right _ (Nat.div_le_self ..)) size.pixelCount_lt

theorem FillsPlanes.bytes_mul_eight (fills : size.FillsPlanes) :
    size.width.toNat / 8 * size.height.toNat * 8 = size.pixelCount := by
  have width : size.width.toNat / 8 * 8 = size.width.toNat :=
    Nat.div_mul_cancel (Nat.dvd_of_mod_eq_zero fills.width_mod)
  calc
    size.width.toNat / 8 * size.height.toNat * 8 =
        size.width.toNat / 8 * 8 * size.height.toNat := Nat.mul_right_comm ..
    _ = size.pixelCount := by rw [width, pixelCount]

theorem FillsPlanes.pixelCount_div_eight (fills : size.FillsPlanes) :
    size.pixelCount / 8 = size.width.toNat / 8 * size.height.toNat := by
  rw [← fills.bytes_mul_eight]
  exact Nat.mul_div_cancel _ (by decide)

theorem FillsPlanes.pixelCount_mod_eight (fills : size.FillsPlanes) :
    size.pixelCount % 8 = 0 := by
  rw [← fills.bytes_mul_eight]
  exact Nat.mul_mod_left _ 8

/-! Rows are whole bytes, so a pixel stands in its byte as its column does. -/

theorem FillsPlanes.position_div_eight (fills : size.FillsPlanes) (x y : Nat) :
    (y * size.width.toNat + x) / 8 = y * (size.width.toNat / 8) + x / 8 := by
  obtain ⟨bytes, width⟩ := Nat.dvd_of_mod_eq_zero fills.width_mod
  rw [width, Nat.mul_div_cancel_left _ (by decide), Nat.mul_left_comm,
    Nat.mul_add_div (by decide)]

theorem FillsPlanes.position_mod_eight (fills : size.FillsPlanes) (x y : Nat) :
    (y * size.width.toNat + x) % 8 = x % 8 := by
  obtain ⟨bytes, width⟩ := Nat.dvd_of_mod_eq_zero fills.width_mod
  rw [width, Nat.mul_left_comm, Nat.mul_add_mod]

theorem FillsPlanes.bytes_pos (fills : size.FillsPlanes) :
    0 < size.width.toNat / 8 * size.height.toNat := by
  have width : size.width.toNat ≠ 0 := fun zero =>
    fills.width_ne_zero (UInt32.toNat_inj.mp zero)
  have height : size.height.toNat ≠ 0 := fun zero =>
    fills.height_ne_zero (UInt32.toNat_inj.mp zero)
  have whole := fills.width_mod
  apply Nat.mul_pos
  · omega
  · omega

end Size

namespace Plane

theorem outcome_bytesPerRow_of_fillsPlanes {size : Size} (fills : size.FillsPlanes) :
    (bytesPerRow size).outcome = .ok (size.width.toNat / 8) := by
  have suitable := mt size.not_fillsPlanes_iff.mpr (not_not.mpr fills)
  unfold bytesPerRow
  rw [if_neg suitable, Logged.outcome_succeed]

theorem outcome_bytesPerRow_of_not_fillsPlanes {size : Size}
    (unfilled : ¬ size.FillsPlanes) :
    (bytesPerRow size).outcome = .error (.unsupportedSize size) := by
  unfold bytesPerRow
  rw [if_pos (size.not_fillsPlanes_iff.mp unfilled), Logged.outcome_fail]

theorem outcome_bytesPerRow_eq_ok_iff {size : Size} {bytes : Nat} :
    (bytesPerRow size).outcome = .ok bytes ↔
      size.FillsPlanes ∧ bytes = size.width.toNat / 8 := by
  by_cases fills : size.FillsPlanes
  · rw [outcome_bytesPerRow_of_fillsPlanes fills]
    simp [fills, eq_comm]
  · rw [outcome_bytesPerRow_of_not_fillsPlanes fills]
    simp [fills]

theorem outcome_bytesPerPlane_eq_ok_iff {size : Size} {bytes : Nat} :
    (bytesPerPlane size).outcome = .ok bytes ↔
      size.FillsPlanes ∧ bytes = size.width.toNat / 8 * size.height.toNat := by
  unfold bytesPerPlane
  simp only [Logged.bind_eq, Logged.outcome_bind_eq_ok_iff, Logged.pure_eq,
    Logged.outcome_succeed, Except.ok.injEq, outcome_bytesPerRow_eq_ok_iff]
  constructor
  · intro parts
    obtain ⟨_, ⟨fills, row⟩, plane⟩ := parts
    rw [row] at plane
    exact ⟨fills, plane.symm⟩
  · intro parts
    obtain ⟨fills, plane⟩ := parts
    exact ⟨_, ⟨fills, rfl⟩, plane.symm⟩

theorem depthForIndex_le_iff {index : UInt8} {depth : Nat} :
    depthForIndex index ≤ depth ↔ 1 ≤ depth ∧ index.toNat < 2 ^ depth := by
  unfold depthForIndex
  by_cases zero : index.toNat = 0
  · simp [zero, Nat.log2_zero]
  · rw [Nat.succ_le_iff, Nat.log2_lt zero]
    constructor
    · intro small
      refine ⟨?_, small⟩
      by_contra none
      have flat : depth = 0 := by omega
      rw [flat, pow_zero] at small
      omega
    · exact And.right

theorem outcome_checkDepth_of_within {depth : Nat} {greatest? : Option UInt8}
    (enough : greatest?.elim 1 depthForIndex ≤ depth) (most : depth ≤ maxDepth) :
    (checkDepth depth greatest?).outcome = .ok () := by
  unfold checkDepth
  rw [if_neg (by omega), Logged.outcome_succeed]

theorem outcome_checkDepth_of_not_within {depth : Nat} {greatest? : Option UInt8}
    (outside : ¬ (greatest?.elim 1 depthForIndex ≤ depth ∧ depth ≤ maxDepth)) :
    (checkDepth depth greatest?).outcome =
      .error (.depthOutOfRange depth (greatest?.elim 1 depthForIndex)) := by
  unfold checkDepth
  rw [if_pos (by omega), Logged.outcome_fail]

theorem outcome_checkDepth_eq_ok_iff {depth : Nat} {greatest? : Option UInt8}
    {checked : Unit} :
    (checkDepth depth greatest?).outcome = .ok checked ↔
      greatest?.elim 1 depthForIndex ≤ depth ∧ depth ≤ maxDepth := by
  by_cases within : greatest?.elim 1 depthForIndex ≤ depth ∧ depth ≤ maxDepth
  · rw [outcome_checkDepth_of_within within.1 within.2]
    simp [within]
  · rw [outcome_checkDepth_of_not_within within]
    simp [within]

end Plane

namespace Raster

/-- The fewest planes that hold every index. -/
def requiredDepth (raster : Raster) : Nat :=
  raster.greatestIndex?.elim 1 Plane.depthForIndex

theorem requiredDepth_le_iff {raster : Raster} {depth : Nat} :
    raster.requiredDepth ≤ depth ↔
      1 ≤ depth ∧ ∀ index ∈ raster.indices, index.toNat < 2 ^ depth := by
  unfold requiredDepth
  cases greatest : raster.greatestIndex? with
  | none =>
      rw [greatestIndex?_eq_none_iff] at greatest
      simp [greatest]
  | some index =>
      obtain ⟨member, bound⟩ := greatestIndex?_eq_some_iff.mp greatest
      rw [Option.elim_some, Plane.depthForIndex_le_iff]
      constructor
      · intro parts
        obtain ⟨positive, small⟩ := parts
        refine ⟨positive, fun other otherMember => ?_⟩
        have below := UInt8.le_iff_toNat_le.mp (bound other otherMember)
        exact Nat.lt_of_le_of_lt below small
      · intro parts
        obtain ⟨positive, small⟩ := parts
        exact ⟨positive, small index member⟩

end Raster

end ChunkyPlanar
