import Mathlib
import ChunkyPlanar.Proofs.Machine.Remap
import ChunkyPlanar.Proofs.Machine.Splitting
import ChunkyPlanar.Proofs.Machine.Stacking
import ChunkyPlanar.Proofs.Plane.Blob
import ChunkyPlanar.Proofs.Plane.Verdict

/-! The machine never traps in its work on pictures. Its words hold every length and every
place, so that the results, errors among them, are those of exact numbers. -/

namespace ChunkyPlanar

namespace Byte

theorem and_shiftRight_ne_zero {column : Nat} (within : column < 8) (byte : UInt8) :
    (byte &&& 0x80 >>> column.toUInt8 != 0) = bit byte column := by
  have mask : ∀ column < 8,
      ((0x80 : UInt8) >>> column.toUInt8).toNat = 2 ^ (7 - column) := by decide
  rw [Bool.eq_iff_iff, bne_iff_ne, ne_eq, ← UInt8.toNat_inj, UInt8.toNat_and,
    mask column within, Nat.and_two_pow, bit]
  cases byte.toNat.testBit (7 - column) with
  | false => simp
  | true => simp

end Byte

namespace Machine

theorem pixel?_eq (raster : Raster) (x y : UInt32) :
    pixel? raster x y = .ok (raster.pixel? x y) := by
  unfold pixel? Raster.pixel?
  split
  · rename_i inside
    have place := Nat.lt_trans (Size.position_lt_pixelCount
      (UInt32.lt_iff_toNat_lt.mp inside.1) (UInt32.lt_iff_toNat_lt.mp inside.2))
      raster.pixelCount_lt
    rw [mul_eq (Nat.lt_of_le_of_lt (Nat.le_add_right ..) place), ok_bind, add_eq place,
      ok_bind]
    rfl
  · rfl

theorem bit?_eq (plane : Plane) (x y width : UInt32) :
    bit? plane x y width = .ok (plane.bit? x y width) := by
  have row : y.toNat * (width.toNat / 8) ≤ (UInt32.size - 1) * (UInt32.size - 1) :=
    Nat.mul_le_mul (Nat.le_pred_of_lt y.toNat_lt)
      (Nat.le_trans (Nat.div_le_self ..) (Nat.le_pred_of_lt width.toNat_lt))
  have column : x.toNat / 8 ≤ UInt32.size - 1 :=
    Nat.le_trans (Nat.div_le_self ..) (Nat.le_pred_of_lt x.toNat_lt)
  have place : y.toNat * (width.toNat / 8) + x.toNat / 8 < UInt64.size :=
    Nat.lt_of_le_of_lt (Nat.add_le_add row column) (by decide)
  have offset : x.toNat % 8 < 8 := Nat.mod_lt _ (by decide)
  unfold bit? Plane.bit?
  split
  · rw [mul_eq (Nat.lt_of_le_of_lt (Nat.le_add_right ..) place), ok_bind, add_eq place,
      ok_bind, shiftRight_eq offset, ok_bind]
    simp only [Byte.and_shiftRight_ne_zero offset]
    rfl
  · rfl

theorem map_zip_range (parts : List Bytes) :
    (parts.zip (List.range parts.length)).map (fun part => (⟨part.2, part.1⟩ : Plane)) =
      parts.mapIdx fun number bytes => ⟨number, bytes⟩ := by
  apply List.ext_getElem
  · simp
  · intro number _ _
    simp

theorem cut_eq (blob : Blob) (size : Size) (depth : Nat) :
    cut blob size depth = .done (Blob.toPlanes blob size depth) := by
  unfold cut Blob.toPlanes
  rw [bytesPerPlane_eq]
  refine Work.bind_done fun length measured => ?_
  obtain ⟨fills, rfl⟩ := Plane.outcome_bytesPerPlane_eq_ok_iff.mp measured
  refine Work.bind_done fun _ deep => ?_
  obtain ⟨_, most⟩ := Plane.outcome_checkDepth_eq_ok_iff.mp deep
  have fits : size.width.toNat / 8 * size.height.toNat * depth < UInt64.size := by
    rw [Nat.mul_comm]
    exact Blob.length_lt size most
  simp only [mul_eq fits, Work.bind_eq, Work.bind_step]
  split
  · rename_i whole
    have count : (blob.chunks (size.width.toNat / 8 * size.height.toNat)).length = depth := by
      rw [Bytes.length_chunks, whole]
      exact Nat.mul_div_cancel_left _ fills.bytes_pos
    rw [chunks_eq fills.bytes_pos, Work.bind_step, ← map_zip_range, count]
    rfl
  · rfl

theorem toPixels_eq (picture : ChunkyPicture) :
    toPixels picture = .done picture.toPixels := by
  unfold toPixels ChunkyPicture.toPixels
  cases checked : picture.raster.checkWithin picture.palette.size with
  | error error => rfl
  | ok checked =>
      have within : ∀ index ∈ picture.raster.indices.toList,
          index.toNat < picture.palette.size := by
        simpa using Raster.checkWithin_eq_ok_iff.mp checked
      have shown : picture.raster.indices.toList.map
          (fun index => picture.palette.getD index.toNat .black) =
          (picture.raster.indices.map fun index =>
            picture.palette.getD index.toNat .black).toList := Array.toList_map.symm
      simp only [mapM_read_eq within, Work.bind_eq, Work.bind_step, shown, Array.toArray_toList,
        Array.flatMap_map]
      rfl

/-- A length that an outcome says was expected is the exact one, and a word holds it. -/
def Expects (size : Size) (depth : Nat) : Except PlaneError α → Prop
  | .error (.wrongBlobLength expected _) =>
      expected = depth * (size.width.toNat / 8 * size.height.toNat) ∧
        expected < UInt64.size
  | .error (.wrongPlaneLength _ expected _) =>
      expected = size.width.toNat / 8 * size.height.toNat ∧ expected < UInt64.size
  | _ => True

theorem expects_toPlanes (blob : Blob) (size : Size) (depth : Nat) :
    Expects size depth (Blob.toPlanes blob size depth).outcome := by
  by_cases fills : size.FillsPlanes
  · by_cases within : 1 ≤ depth ∧ depth ≤ maxDepth
    · rw [Blob.outcome_toPlanes_of_within fills within.1 within.2]
      dsimp only
      split
      · trivial
      · exact ⟨rfl, Blob.length_lt size within.2⟩
    · rw [Blob.outcome_toPlanes_of_depth fills within]
      trivial
  · rw [Blob.outcome_toPlanes_of_shape fills]
    trivial

theorem expects_ofPlanes (planes : List Plane) (size : Size) :
    Expects size planes.length (Raster.ofPlanes planes size).outcome := by
  by_cases fills : size.FillsPlanes
  · by_cases counted : 1 ≤ planes.length ∧ planes.length ≤ maxDepth
    · by_cases uneven : ∃ plane ∈ planes,
          plane.bytes.size ≠ size.width.toNat / 8 * size.height.toNat
      · obtain ⟨position, inside, _, _, refused⟩ :=
          Raster.outcome_ofPlanes_of_uneven fills counted uneven
        rw [refused]
        exact ⟨rfl, size.bytes_lt⟩
      · have uniform : ∀ plane ∈ planes,
            plane.bytes.size = size.width.toNat / 8 * size.height.toNat := by
          simpa using uneven
        obtain ⟨raster, stacked⟩ := Raster.exists_outcome_ofPlanes fills counted uniform
        rw [stacked]
        trivial
    · rw [Raster.outcome_ofPlanes_of_not_counted fills counted]
      trivial
  · rw [Raster.outcome_ofPlanes_of_not_fillsPlanes fills]
    trivial

/-- Whatever it is given, the machine gives the exact result, and a length that it finds
wrong is compared with the exact product. -/
theorem exact_without_traps (size : Size) (indices : Bytes) (raster : Raster)
    (x y width : UInt32) (bits : Plane) (planes : List Plane) (blob : Blob) (depth : Nat)
    (picture : ChunkyPicture) (slots : Nat) :
    mul size.width.toNat size.height.toNat = .ok size.pixelCount ∧
      ofIndices size indices = .ok (Raster.ofIndices size indices) ∧
      pixel? raster x y = .ok (raster.pixel? x y) ∧
      bit? bits x y width = .ok (bits.bit? x y width) ∧
      bytesPerPlane size = .done (Plane.bytesPerPlane size) ∧
      toPlanes raster depth = .done (raster.toPlanes depth) ∧
      ofPlanes planes size = .done (Raster.ofPlanes planes size) ∧
      Expects size planes.length (Raster.ofPlanes planes size).outcome ∧
      cut blob size depth = .done (Blob.toPlanes blob size depth) ∧
      Expects size depth (Blob.toPlanes blob size depth).outcome ∧
      reduce picture slots =
        .done (Prod.map id Compaction.toRemap <$> picture.reduce slots) ∧
      toPixels picture = .done picture.toPixels :=
  ⟨mul_eq size.pixelCount_lt, ofIndices_eq size indices, pixel?_eq raster x y,
    bit?_eq bits x y width, bytesPerPlane_eq size, toPlanes_eq raster depth,
    ofPlanes_eq planes size, expects_ofPlanes planes size, cut_eq blob size depth,
    expects_toPlanes blob size depth, reduce_eq picture slots, toPixels_eq picture⟩

-- A word just counts eight planes of the largest size.
example :
    mul (536870911 * 4294967295) 8 = .ok 18446744035054845960 ∧
      mul (536870911 * 4294967295) 9 = .error (.overflow 20752587039436701705) :=
  ⟨rfl, rfl⟩

end Machine

end ChunkyPlanar
