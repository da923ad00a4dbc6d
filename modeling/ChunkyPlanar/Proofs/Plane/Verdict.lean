import Mathlib
import ChunkyPlanar.Proofs.Plane.Stack

/-! Verdicts on splitting a raster and on stacking planes: the first fault, or planes and
raster that agree on every bit of every pixel. -/

namespace ChunkyPlanar

namespace Plane

theorem depthForIndex_eq (index : UInt8) :
    depthForIndex index = max index.toNat.size 1 := by
  apply eq_of_forall_ge_iff
  intro depth
  rw [depthForIndex_le_iff, max_le_iff, Nat.size_le, and_comm]

section Full

variable {plane : Plane} {size : Size}
  (full : plane.bytes.size = size.width.toNat / 8 * size.height.toNat)

include full

theorem bit?_of_inside (fills : size.FillsPlanes) {x y : UInt32}
    (inside : x < size.width ∧ y < size.height) :
    plane.bit? x y size.width =
      some (plane.bitAt (y.toNat * size.width.toNat + x.toNat)) := by
  have position : y.toNat * size.width.toNat + x.toNat < size.pixelCount :=
    Size.position_lt_pixelCount (UInt32.lt_iff_toNat_lt.mp inside.1)
      (UInt32.lt_iff_toNat_lt.mp inside.2)
  have byte := fills.position_div_eight x.toNat y.toNat
  have column := fills.position_mod_eight x.toNat y.toNat
  have present : y.toNat * (size.width.toNat / 8) + x.toNat / 8 < plane.bytes.size := by
    rw [full, ← byte]
    rw [← fills.bytes_mul_eight] at position
    omega
  unfold bit? bitAt
  rw [if_pos ⟨inside.1, fills.width_mod⟩, Array.getElem?_eq_getElem present,
    Option.map_some, byte, column, Array.getD_eq_getD_getElem?,
    Array.getElem?_eq_getElem present, Option.getD_some]

theorem bit?_of_outside {x y : UInt32}
    (outside : ¬ (x < size.width ∧ y < size.height)) :
    plane.bit? x y size.width = none := by
  unfold bit?
  by_cases column : x < size.width
  · have below : size.height.toNat ≤ y.toNat := by
      rw [← UInt32.le_iff_toNat_le]
      exact UInt32.not_lt.mp fun row => outside ⟨column, row⟩
    have past : plane.bytes.size ≤
        y.toNat * (size.width.toNat / 8) + x.toNat / 8 := by
      rw [full, Nat.mul_comm]
      exact Nat.le_add_right_of_le (Nat.mul_le_mul_right _ below)
    rw [Array.getElem?_eq_none past, Option.map_none, ite_self]
  · rw [if_neg fun inside => column inside.1]

end Full

end Plane

namespace Raster

/-- Planes and raster end at the same edges. -/
theorem bit?_plane {raster : Raster} (fills : raster.FillsPlanes) (number : Nat)
    (x y : UInt32) :
    (raster.plane number).bit? x y raster.width =
      (raster.pixel? x y).map fun index => index.toNat.testBit number := by
  have full := size_bytes_plane fills number
  by_cases inside : x < raster.width ∧ y < raster.height
  · obtain ⟨present, found⟩ := pixel?_of_inside inside
    rw [Plane.bit?_of_inside full fills inside, bitAt_plane fills _ present, found,
      Option.map_some]
  · rw [Plane.bit?_of_outside full inside, pixel?_of_outside inside, Option.map_none]

/-- A column past the right edge is not the first one of the next row. -/
example :
    let raster : Raster := ⟨⟨8, 2⟩, #[0, 0, 0, 0, 0, 0, 0, 0, 1, 0, 0, 0, 0, 0, 0, 0], rfl⟩
    (raster.plane 0).bit? 8 0 8 = none ∧ (raster.plane 0).bit? 0 1 8 = some true := by
  decide

theorem exists_isGreatest {raster : Raster} (fills : raster.FillsPlanes) :
    ∃ greatest, IsGreatest {index | index ∈ raster.indices} greatest ∧
      raster.requiredDepth = max greatest.toNat.size 1 := by
  unfold requiredDepth
  cases found : raster.greatestIndex? with
  | none =>
      have empty : raster.indices.size = 0 := by
        rw [greatestIndex?_eq_none_iff.mp found]
        rfl
      have positive := fills.bytes_pos
      rw [raster.size_indices, ← fills.bytes_mul_eight] at empty
      omega
  | some greatest =>
      rw [greatestIndex?_eq_some_iff] at found
      exact ⟨greatest, ⟨found.1, fun other member => found.2 other member⟩,
        Plane.depthForIndex_eq greatest⟩

theorem outcome_toPlanes_of_not_fillsPlanes {raster : Raster} {depth : Nat}
    (unfilled : ¬ raster.FillsPlanes) :
    (raster.toPlanes depth).outcome = .error (.unsupportedSize raster.toSize) := by
  have refused := Plane.outcome_bytesPerRow_of_not_fillsPlanes unfilled
  unfold toPlanes
  simp only [Logged.bind_eq, Logged.outcome_bind, refused, Except.bind]

/-- What comes of splitting a raster: the first fault, in the order in which faults are
looked for, or planes that have the bits of each index at its pixel and end where the
raster ends. -/
def SplitVerdict (raster : Raster) (depth : Nat)
    (outcome : Except PlaneError (List Plane)) : Prop :=
  let bytes := raster.width.toNat / 8 * raster.height.toNat
  if raster.width = 0 ∨ raster.height = 0 ∨ raster.width.toNat % 8 ≠ 0 then
    outcome = .error (.unsupportedSize raster.toSize)
  else
    ∃ greatest, IsGreatest {index | index ∈ raster.indices} greatest ∧
      let required := max greatest.toNat.size 1
      if 8 < depth ∨ depth < required then
        outcome = .error (.depthOutOfRange depth required)
      else
        ∃ planes, outcome = .ok planes ∧ planes.length = depth ∧
          ∀ number (inside : number < planes.length),
            planes[number].number = number ∧ planes[number].bytes.size = bytes ∧
              ∀ x y, planes[number].bit? x y raster.width =
                (raster.pixel? x y).map fun index => index.toNat.testBit number

theorem verdict_toPlanes (raster : Raster) (depth : Nat) :
    SplitVerdict raster depth (raster.toPlanes depth).outcome := by
  dsimp only [SplitVerdict]
  refine ite_prop_iff_and.mpr ⟨fun unsuitable => ?_, fun suitable => ?_⟩
  · exact outcome_toPlanes_of_not_fillsPlanes (raster.not_fillsPlanes_iff.mpr unsuitable)
  have fills : raster.FillsPlanes := .of_suitable suitable
  obtain ⟨greatest, isGreatest, required⟩ := exists_isGreatest fills
  refine ⟨greatest, isGreatest, ?_⟩
  rw [← required]
  refine ite_prop_iff_and.mpr ⟨fun outside => ?_, fun within => ?_⟩
  · apply outcome_toPlanes_of_not_within fills
    unfold maxDepth
    omega
  refine ⟨(List.range depth).map raster.plane, ?_, by simp, fun number inside => ?_⟩
  · exact outcome_toPlanes_eq_ok_iff.mpr
      ⟨fills, by omega, by unfold maxDepth; omega, rfl⟩
  · rw [List.getElem_map, List.getElem_range]
    exact ⟨rfl, size_bytes_plane fills number, bit?_plane fills number⟩

section Stack

variable {planes : List Plane} {size : Size}

theorem outcome_ofPlanes_of_not_fillsPlanes (unfilled : ¬ size.FillsPlanes) :
    (ofPlanes planes size).outcome = .error (.unsupportedSize size) := by
  have refused := Plane.outcome_bytesPerRow_of_not_fillsPlanes unfilled
  unfold ofPlanes Plane.bytesPerPlane
  simp only [Logged.bind_eq, Logged.outcome_bind, refused, Except.bind]

/-- However many planes there are, their count stays outside when it is cut off. -/
theorem outcome_ofPlanes_of_not_counted (fills : size.FillsPlanes)
    (outside : ¬ (1 ≤ planes.length ∧ planes.length ≤ maxDepth)) :
    (ofPlanes planes size).outcome =
      .error (.depthOutOfRange (min planes.length 255) 1) := by
  have measured := Plane.outcome_bytesPerPlane_eq_ok_iff.mpr ⟨fills, rfl⟩
  have refused : (Plane.checkDepth (min planes.length 255) none).outcome =
      .error (.depthOutOfRange (min planes.length 255) 1) := by
    apply Plane.outcome_checkDepth_of_not_within
    unfold maxDepth at outside ⊢
    rw [Option.elim_none]
    omega
  unfold ofPlanes
  simp only [Logged.bind_eq, Logged.outcome_bind, measured, refused, Except.bind]

theorem outcome_ofPlanes_of_uneven (fills : size.FillsPlanes)
    (counted : 1 ≤ planes.length ∧ planes.length ≤ maxDepth)
    (uneven : ∃ plane ∈ planes,
      plane.bytes.size ≠ size.width.toNat / 8 * size.height.toNat) :
    ∃ position, ∃ inside : position < planes.length,
      planes[position].bytes.size ≠ size.width.toNat / 8 * size.height.toNat ∧
      (∀ earlier (before : earlier < position),
        planes[earlier].bytes.size = size.width.toNat / 8 * size.height.toNat) ∧
      (ofPlanes planes size).outcome = .error (.wrongPlaneLength position
        (size.width.toNat / 8 * size.height.toNat) planes[position].bytes.size) := by
  have measured := Plane.outcome_bytesPerPlane_eq_ok_iff.mpr ⟨fills, rfl⟩
  have deep : (Plane.checkDepth (min planes.length 255) none).outcome = .ok () := by
    apply Plane.outcome_checkDepth_of_within
    · rw [Option.elim_none]
      omega
    · unfold maxDepth at counted ⊢
      omega
  unfold ofPlanes
  simp only [Logged.bind_eq, Logged.outcome_bind, measured, deep, Except.bind]
  cases found : planes.zipIdx.find? fun placed =>
      placed.1.bytes.size ≠ size.width.toNat / 8 * size.height.toNat with
  | none =>
      obtain ⟨plane, member, other⟩ := uneven
      exact absurd (find?_zipIdx_eq_none_iff.mp found plane member) other
  | some placed =>
      obtain ⟨other, position, inside, rfl, first⟩ :=
        List.find?_eq_some_iff_getElem.mp found
      have present : position < planes.length := by simpa using inside
      simp only [List.getElem_zipIdx, Nat.zero_add] at other first ⊢
      refine ⟨position, present, by simpa using other, fun earlier before => ?_, rfl⟩
      simpa using first earlier before

/-- Each plane gives one bit, and no bit comes from elsewhere. -/
theorem exists_pixel?_of_stacked {raster : Raster}
    (stacked : (ofPlanes planes size).outcome = .ok raster) {x y : UInt32}
    (inside : x < size.width ∧ y < size.height) :
    ∃ index, raster.pixel? x y = some index ∧
      (∀ number (below : number < planes.length),
        planes[number].bit? x y size.width = some (index.toNat.testBit number)) ∧
      ∀ number, planes.length ≤ number → index.toNat.testBit number = false := by
  obtain ⟨fills, _, uniform, rfl, _⟩ := outcome_ofPlanes_eq_ok_iff.mp stacked
  obtain ⟨present, found⟩ := pixel?_of_inside inside
  have index := toNat_getElem_of_stacked stacked present
  refine ⟨_, found, fun number below => ?_, fun number high => ?_⟩
  · have full := uniform planes[number] (List.getElem_mem below)
    rw [Plane.bit?_of_inside full fills inside, index, Plane.testBit_stackIndex,
      List.getElem?_eq_getElem below, Option.elim_some]
  · rw [index, Plane.testBit_stackIndex, List.getElem?_eq_none high, Option.elim_none]

end Stack

/-- What comes of stacking planes: the first fault, in the order in which faults are
looked for, or a raster that takes the bits of each index from the planes by their
places. -/
def StackVerdict (planes : List Plane) (size : Size)
    (outcome : Except PlaneError Raster) : Prop :=
  let bytes := size.width.toNat / 8 * size.height.toNat
  if size.width = 0 ∨ size.height = 0 ∨ size.width.toNat % 8 ≠ 0 then
    outcome = .error (.unsupportedSize size)
  else if planes.length = 0 ∨ 8 < planes.length then
    outcome = .error (.depthOutOfRange (min planes.length 255) 1)
  else if ∃ plane ∈ planes, plane.bytes.size ≠ bytes then
    ∃ position, ∃ inside : position < planes.length,
      planes[position].bytes.size ≠ bytes ∧
      (∀ earlier (before : earlier < position), planes[earlier].bytes.size = bytes) ∧
      outcome =
        .error (.wrongPlaneLength position bytes planes[position].bytes.size)
  else
    ∃ raster, outcome = .ok raster ∧ raster.toSize = size ∧
      ∀ x y, x < size.width ∧ y < size.height →
        ∃ index, raster.pixel? x y = some index ∧
          (∀ number (below : number < planes.length),
            planes[number].bit? x y size.width = some (index.toNat.testBit number)) ∧
          ∀ number, planes.length ≤ number → index.toNat.testBit number = false

theorem StackVerdict.ne_raster {planes : List Plane} {size : Size}
    {outcome : Except PlaneError Raster} (verdict : StackVerdict planes size outcome)
    (error : RasterError) : outcome ≠ .error (.raster error) := by
  rintro rfl
  dsimp only [StackVerdict] at verdict
  split_ifs at verdict <;> simp at verdict

theorem verdict_outcome_ofPlanes (planes : List Plane) (size : Size) :
    StackVerdict planes size (ofPlanes planes size).outcome := by
  dsimp only [StackVerdict]
  refine ite_prop_iff_and.mpr ⟨fun unsuitable => ?_, fun suitable => ?_⟩
  · exact outcome_ofPlanes_of_not_fillsPlanes (size.not_fillsPlanes_iff.mpr unsuitable)
  have fills : size.FillsPlanes := .of_suitable suitable
  refine ite_prop_iff_and.mpr ⟨fun outside => ?_, fun inside => ?_⟩
  · apply outcome_ofPlanes_of_not_counted fills
    unfold maxDepth
    omega
  have counted : 1 ≤ planes.length ∧ planes.length ≤ maxDepth := by
    unfold maxDepth
    omega
  refine ite_prop_iff_and.mpr
    ⟨outcome_ofPlanes_of_uneven fills counted, fun uniform => ?_⟩
  have uniform : ∀ plane ∈ planes,
      plane.bytes.size = size.width.toNat / 8 * size.height.toNat := by
    simpa using uniform
  obtain ⟨raster, stacked⟩ := exists_outcome_ofPlanes fills counted uniform
  obtain ⟨_, _, _, sized, _⟩ := outcome_ofPlanes_eq_ok_iff.mp stacked
  exact ⟨raster, stacked, sized, fun _ _ => exists_pixel?_of_stacked stacked⟩

theorem verdict_ofPlanes (planes : List Plane) (size : Size) :
    let outcome := (ofPlanes planes size).outcome
    StackVerdict planes size outcome ∧
      ∀ error, outcome ≠ .error (.raster error) := by
  have verdict := verdict_outcome_ofPlanes planes size
  exact ⟨verdict, verdict.ne_raster⟩

end Raster

end ChunkyPlanar
