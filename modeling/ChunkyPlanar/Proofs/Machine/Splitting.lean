import Mathlib
import ChunkyPlanar.Machine.Picture
import ChunkyPlanar.Proofs.Machine
import ChunkyPlanar.Proofs.Plane.Stack
import ChunkyPlanar.Proofs.Raster.Views

/-! Splitting on the machine. Bit by bit, group by group and row by row the passes make the
bytes of the planes, and nothing traps once the size and the depth are checked. -/

namespace ChunkyPlanar

namespace Bytes

theorem join_flatMap (parts : List α) (cut : α → List Bytes) :
    join (parts.flatMap cut) = join (parts.map fun part => join (cut part)) := by
  induction parts with
  | nil => rfl
  | cons part parts ih => rw [List.flatMap_cons, join_append, ih, List.map_cons, join_cons]

/-- Chunks that are cut again are the shorter chunks of the whole. -/
theorem flatMap_chunks {bytes : Bytes} {length part : Nat} (positive : 0 < part)
    (divides : part ∣ length) (whole : length ∣ bytes.size) :
    (bytes.chunks length).flatMap (·.chunks part) = bytes.chunks part := by
  have divisible : ∀ chunk ∈ bytes.chunks length, part ∣ chunk.size := by
    intro chunk member
    rwa [size_of_mem_chunks whole member]
  have uniform : ∀ own ∈ (bytes.chunks length).flatMap (·.chunks part), own.size = part := by
    intro own member
    obtain ⟨chunk, within, cut⟩ := List.mem_flatMap.mp member
    exact size_of_mem_chunks (divisible chunk within) cut
  have same : (bytes.chunks length).map (fun chunk => join (chunk.chunks part)) =
      bytes.chunks length := by
    rw [List.map_congr_left fun chunk member => join_chunks (divisible chunk member)]
    exact List.map_id _
  rw [← chunks_join_of_uniform positive uniform, join_flatMap, same, join_chunks whole]

end Bytes

namespace Machine

theorem pushBit_eq {number : Nat} (within : number < 8) (byte index : UInt8) :
    pushBit number byte index =
      .ok (byte <<< 1 ||| (index.toNat.testBit number).toUInt8) := by
  unfold pushBit
  rw [shiftLeft_eq (by decide), ok_bind, shiftRight_eq within, ok_bind,
    shiftRight_and_one within]
  rfl

def packGroup (number : Nat) (group : Bytes) : UInt8 :=
  Byte.pack fun column => (group.getD column.val 0).toNat.testBit number

/-- Eight indices that are pushed one after another are packed into a byte. -/
theorem foldlM_pushBit_eq {number : Nat} (within : number < 8) {group : Bytes}
    (full : group.size = 8) :
    group.toList.foldlM (pushBit number) 0 = .ok (packGroup number group) := by
  have columns : group.toList =
      (List.finRange 8).map fun column => group.getD column.val 0 := by
    apply List.ext_getElem
    · simp [full]
    · intro column inside _
      rw [Array.length_toList] at inside
      simp [Array.getD, inside]
  rw [foldlM_eq (pushBit_eq within), columns, List.foldl_map, packGroup, Byte.pack,
    Fin.foldl_eq_foldl_finRange]

theorem packRow_eq {number : Nat} (within : number < 8) {row : Bytes}
    (whole : 8 ∣ row.size) :
    packRow number row = .ok ((row.chunks 8).map (packGroup number)) := by
  have groups : (row.chunks 8).mapM (fun group => group.toList.foldlM (pushBit number) 0) =
      .ok ((row.chunks 8).map (packGroup number)) :=
    mapM_eq fun group member =>
      foldlM_pushBit_eq within (Bytes.size_of_mem_chunks whole member)
  unfold packRow
  rw [chunks_eq (by decide), ok_bind]
  exact groups

theorem packGroup_chunks (raster : Raster) (number : Nat) :
    (raster.indices.chunks 8).map (packGroup number) = (raster.plane number).bytes.toList := by
  apply List.ext_getElem
  · simp [Raster.plane]
  · intro byte inside inside'
    rw [List.length_map, Bytes.length_chunks] at inside
    simp only [Bytes.chunks, Raster.plane, List.getElem_map, List.getElem_range,
      Array.getElem_toList, Array.getElem_ofFn, packGroup]
    congr 1
    funext column
    have place : byte * 8 + column.val = 8 * byte + column.val := by omega
    have chunk : column.val <
        (raster.indices.extract (byte * 8) ((byte + 1) * 8)).size := by
      rw [Array.size_extract]
      omega
    rw [Array.getD, dif_pos chunk]
    simp only [Array.getInternal_eq_getElem, Array.getElem_extract, place]

/-- Rows are whole groups, so their groups are those of the whole buffer. -/
theorem plane_eq {raster : Raster} (fills : raster.FillsPlanes) {number : Nat}
    (within : number < 8) :
    plane raster (raster.width.toNat / 8) number = .ok (raster.plane number) := by
  have positive : 0 < max raster.width.toNat 1 := by omega
  have divides : 8 ∣ max raster.width.toNat 1 := by
    have width := fills.width_mod
    have some : raster.width.toNat ≠ 0 := fun zero =>
      fills.width_ne_zero (UInt32.toNat_inj.mp zero)
    omega
  have rows : raster.rows.mapM (packRow number) =
      .ok (raster.rows.map fun row => (row.chunks 8).map (packGroup number)) := by
    refine mapM_eq fun row member => packRow_eq within ?_
    rw [Raster.size_of_mem_rows member]
    exact Nat.dvd_of_mod_eq_zero fills.width_mod
  have packed : (raster.rows.map fun row => (row.chunks 8).map (packGroup number)).flatten =
      (raster.plane number).bytes.toList := by
    rw [← List.flatMap_def, ← List.map_flatMap, Raster.rows,
      Bytes.flatMap_chunks (by decide) divides raster.dvd_size_indices,
      packGroup_chunks raster number]
  unfold plane
  rw [mul_eq raster.bytes_lt, ok_bind, chunks_eq positive, ok_bind]
  change raster.rows.mapM (packRow number) >>= _ = _
  rw [rows, ok_bind, packed]
  rfl

theorem toPlanes_eq (raster : Raster) (depth : Nat) :
    toPlanes raster depth = .done (raster.toPlanes depth) := by
  unfold toPlanes Raster.toPlanes
  refine Work.bind_done fun bytesPerRow measured => ?_
  obtain ⟨fills, rfl⟩ := Plane.outcome_bytesPerRow_eq_ok_iff.mp measured
  refine Work.bind_done fun _ deep => ?_
  obtain ⟨_, most⟩ := Plane.outcome_checkDepth_eq_ok_iff.mp deep
  have planes : (List.range depth).mapM (plane raster (raster.width.toNat / 8)) =
      .ok ((List.range depth).map raster.plane) := by
    refine mapM_eq fun number member => plane_eq fills ?_
    exact Nat.lt_of_lt_of_le (List.mem_range.mp member) most
  simp only [planes, mul_eq raster.bytes_lt, Work.bind_eq, Work.bind_step]
  rfl

end Machine

end ChunkyPlanar
