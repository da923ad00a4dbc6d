import Mathlib
import ChunkyPlanar.Proofs.Plane.Blob
import ChunkyPlanar.Proofs.Plane.Stack

/-! Blobs bit by bit: where the bits of each index stand. The planes of a blob can always
be stacked, so reading it has no fault of its own. -/

namespace ChunkyPlanar.Blob

/-- The index of a pixel, with one bit from each plane. Past the end of the blob bits are
clear. -/
def index (blob : Blob) (size : Size) (depth x y : Nat) : Nat :=
  let bytesPerRow := size.width.toNat / 8
  let bytesPerPlane := bytesPerRow * size.height.toNat
  ∑ number ∈ Finset.range depth,
    let byte := blob.getD (number * bytesPerPlane + y * bytesPerRow + x / 8) 0
    2 ^ number * (byte.toNat.testBit (7 - x % 8)).toNat

/-- The planes are the whole blob, as many as the depth and all of one size. -/
structure Cuts (blob : Blob) (size : Size) (depth : Nat) (planes : List Plane) :
    Prop where
  fills : size.FillsPlanes
  positive : 1 ≤ depth
  most : depth ≤ maxDepth
  length : planes.length = depth
  uniform : ∀ plane ∈ planes,
    plane.bytes.size = size.width.toNat / 8 * size.height.toNat
  joined : ofPlanes planes = blob

theorem cuts_of_toPlanes {blob : Blob} {size : Size} {depth : Nat} {planes : List Plane}
    (cut : (toPlanes blob size depth).outcome = .ok planes) :
    Cuts blob size depth planes := by
  have verdict := verdict_outcome_toPlanes blob size depth
  rw [cut] at verdict
  dsimp only [Verdict] at verdict
  split_ifs at verdict with suitable deep other
  · cases verdict.2
  obtain ⟨_, _, same, length, placed, joined⟩ := verdict
  cases same
  refine ⟨.of_suitable suitable, by omega, ?_, length,
    fun plane member => ?_, joined⟩
  · unfold maxDepth
    omega
  · obtain ⟨number, inside, rfl⟩ := List.getElem_of_mem member
    exact (placed number inside).2

namespace Cuts

variable {blob : Blob} {size : Size} {depth : Nat} {planes : List Plane}
  (cuts : Cuts blob size depth planes)

include cuts

theorem exists_outcome_ofPlanes :
    ∃ raster, (Raster.ofPlanes planes size).outcome = .ok raster := by
  have positive := cuts.positive
  have most := cuts.most
  rw [← cuts.length] at positive most
  exact Raster.exists_outcome_ofPlanes cuts.fills ⟨positive, most⟩ cuts.uniform

theorem getElem?_blob (number : Nat) {offset : Nat}
    (inside : offset < size.width.toNat / 8 * size.height.toNat) :
    blob[number * (size.width.toNat / 8 * size.height.toNat) + offset]? =
      planes[number]?.bind (·.bytes[offset]?) := by
  have parts : ∀ part ∈ planes.map (·.bytes),
      part.size = size.width.toNat / 8 * size.height.toNat := by
    simpa using cuts.uniform
  rw [← cuts.joined, ofPlanes, Nat.mul_comm number,
    Bytes.getElem?_join_of_uniform parts number inside, List.getElem?_map]
  cases planes[number]? with
  | none => rfl
  | some plane => rfl

theorem bitAt_plane {number : Nat} (present : number < depth) {position : Nat}
    (inside : position < size.pixelCount) :
    planes[number]?.elim false (·.bitAt position) =
      Byte.bit (blob.getD (number * (size.width.toNat / 8 * size.height.toNat) +
        position / 8) 0) (position % 8) := by
  have byte : position / 8 < size.width.toNat / 8 * size.height.toNat := by
    rw [← cuts.fills.bytes_mul_eight] at inside
    omega
  have length := cuts.length
  have held := cuts.getElem?_blob number byte
  rw [List.getElem?_eq_getElem (by omega), Option.bind_some] at held
  rw [List.getElem?_eq_getElem (by omega), Option.elim_some, Plane.bitAt,
    Array.getD_eq_getD_getElem?, Array.getD_eq_getD_getElem?, held]

section Stacked

variable {raster : Raster} (stacked : (Raster.ofPlanes planes size).outcome = .ok raster)

include stacked

theorem index_of_stacked {position : Nat} (inside : position < raster.indices.size) :
    raster.indices[position].toNat =
      blob.index size depth (position % size.width.toNat)
        (position / size.width.toNat) := by
  have pixel : position < size.pixelCount := by
    rwa [Raster.size_indices_of_stacked stacked] at inside
  have place : position / size.width.toNat * size.width.toNat +
      position % size.width.toNat = position := Nat.div_add_mod' ..
  have byte := cuts.fills.position_div_eight (position % size.width.toNat)
    (position / size.width.toNat)
  have column := cuts.fills.position_mod_eight (position % size.width.toNat)
    (position / size.width.toNat)
  rw [place] at byte column
  rw [Raster.toNat_getElem_of_stacked stacked inside, Plane.stackIndex_eq_sum,
    cuts.length, index]
  apply Finset.sum_congr rfl
  intro number present
  rw [cuts.bitAt_plane (Finset.mem_range.mp present) pixel, column, byte, Nat.add_assoc]
  rfl

theorem index_at_of_stacked {x y : Nat} (column : x < size.width.toNat)
    (row : y < size.height.toNat) :
    ∃ inside : y * size.width.toNat + x < raster.indices.size,
      raster.indices[y * size.width.toNat + x].toNat = blob.index size depth x y := by
  have inside : y * size.width.toNat + x < raster.indices.size := by
    rw [Raster.size_indices_of_stacked stacked]
    exact Size.position_lt_pixelCount column row
  refine ⟨inside, ?_⟩
  rw [cuts.index_of_stacked stacked inside, Nat.mul_comm y, Nat.mul_add_mod,
    Nat.mod_eq_of_lt column, Nat.mul_add_div (by omega), Nat.div_eq_of_lt column,
    Nat.add_zero]

end Stacked

end Cuts

end ChunkyPlanar.Blob
