import Mathlib
import ChunkyPlanar.Proofs.Chunky.Verdict
import ChunkyPlanar.Proofs.Journal
import ChunkyPlanar.Proofs.Picture.Encoding
import ChunkyPlanar.Proofs.Plane.Verdict

/-! Journals of the work on pictures. Every check reports the error that it finds, so an
error is reported once, wherever it is found. Only showing pixels reports nothing. -/

namespace ChunkyPlanar

open Logged

namespace Plane

theorem tells_bytesPerRow (size : Size) : (bytesPerRow size).Tells [] := by
  unfold bytesPerRow
  split
  · exact .error _ _
  · exact .succeed _

theorem tells_bytesPerPlane (size : Size) : (bytesPerPlane size).Tells [] := by
  unfold bytesPerPlane
  exact .bind (tells_bytesPerRow size) fun _ _ => .succeed _

theorem tells_checkDepth (depth : Nat) (greatestIndex? : Option UInt8) :
    (checkDepth depth greatestIndex?).Tells [] := by
  unfold checkDepth
  dsimp only
  split
  · exact .error _ _
  · exact .succeed _

end Plane

theorem Raster.tells_toPlanes (raster : Raster) (depth : Nat) :
    (raster.toPlanes depth).Tells [] := by
  unfold toPlanes
  refine .bind (Plane.tells_bytesPerRow _) fun _ _ => ?_
  exact .bind (Plane.tells_checkDepth _ _) fun _ _ => .succeed _

theorem Raster.measures_of_toPlanes {raster : Raster} {depth : Nat} {planes : List Plane}
    (split : (raster.toPlanes depth).outcome = .ok planes) :
    planes.length = depth ∧ (planes.head?.map (·.bytes.size)).getD 0 =
      raster.width.toNat / 8 * raster.height.toNat := by
  obtain ⟨fills, enough, _, rfl⟩ := outcome_toPlanes_eq_ok_iff.mp split
  have positive : 1 ≤ depth := (requiredDepth_le_iff.mp enough).1
  have some : depth ≠ 0 := by omega
  constructor
  · rw [List.length_map, List.length_range]
  · rw [List.head?_map, List.head?_range, if_neg some, Option.map_some, Option.map_some,
      Option.getD_some, size_bytes_plane fills]

theorem Raster.tells_ofPlanes (planes : List Plane) (size : Size) :
    (ofPlanes planes size).Tells [] := by
  have verdict := verdict_outcome_ofPlanes planes size
  unfold ofPlanes at verdict ⊢
  refine .bind (Plane.tells_bytesPerPlane _) fun expected measured => ?_
  refine .bind (Plane.tells_checkDepth _ _) fun _ deep => ?_
  simp only [bind_eq, outcome_bind, measured, deep, Except.bind] at verdict
  split at verdict
  · exact .error _ _
  · cases built : ofIndices size (Array.ofFn (n := expected * 8) fun position =>
        (Plane.stackIndex planes position).toUInt8) with
    | ok raster => exact .silent ⟨raster, rfl⟩
    | error error =>
        rw [built] at verdict
        exact absurd rfl (verdict.ne_raster error)

theorem Blob.tells_toPlanes (blob : Blob) (size : Size) (depth : Nat) :
    (blob.toPlanes size depth).Tells [] := by
  unfold toPlanes
  refine .bind (Plane.tells_bytesPerPlane _) fun _ _ => ?_
  refine .bind (Plane.tells_checkDepth _ _) fun _ _ => ?_
  dsimp only
  split
  · exact .succeed _
  · exact .error _ _

theorem HardwarePalette.tells_ofBytes (file : Bytes) : (ofBytes file).Tells [] := by
  unfold ofBytes
  split
  · exact .error _ _
  · exact .succeed _

namespace ChunkyPicture

theorem tells_ofPixels (pixels : Bytes) (size : Size) (limit : Nat) :
    (ofPixels pixels size limit).Tells [] := by
  have verdict := verdict_outcome_ofPixels pixels size limit
  unfold ofPixels at verdict ⊢
  split
  · next whole =>
      rw [if_pos whole] at verdict
      cases read : (Color.ofBytes pixels).foldlM
          (Indexing.add (min limit 256)) ⟨#[], #[]⟩ with
      | error ordinal => exact .error _ _
      | ok indexing =>
          rw [read] at verdict
          cases built : Raster.ofIndices size indexing.indices with
          | ok raster =>
              refine .silent ⟨⟨indexing.palette, raster⟩, ?_⟩
              rw [built]
          | error error =>
              simp only [built] at verdict
              exact absurd rfl (verdict.ne_raster error)
  · exact .error _ _

theorem tells_reduce (picture : ChunkyPicture) (slots : Nat) :
    (picture.reduce slots).Tells [] := by
  unfold reduce
  dsimp only
  split
  · exact .error _ _
  split
  · exact .error _ _
  split
  · exact .error _ _
  · exact .succeed _

end ChunkyPicture

namespace PlanarPicture

theorem tells_checkSize (size : Size) (expected? : Option Size) :
    (checkSize size expected?).Tells [] := by
  unfold checkSize
  split
  · exact .succeed _
  · split
    · exact .succeed _
    · exact .error _ _

def completion (colors depth bytesPerPlane : Nat) : String :=
  s!"Encoding completed successfully: {colors} colors, " ++
    s!"{depth} planes of {bytesPerPlane} bytes"

/-- Behind its first entry an encoding tells of its end, unless it fails before. -/
theorem exists_ofChunky_eq_info_bind (picture : ChunkyPicture) (profile : Profile) :
    ∃ later : Logged EncodingError PlanarPicture,
      later.Tells [completion (Compaction.ofRaster picture.raster).size profile.depth
        (picture.raster.width.toNat / 8 * picture.raster.height.toNat)] ∧
        ofChunky picture profile =
          (info "Starting encoding").bind fun _ => later := by
  unfold ofChunky ofChunkyBy rankBy
  simp only [bind_eq, bind_assoc, pure_eq, bind_succeed]
  refine ⟨_, ?_, rfl⟩
  refine .bind ((tells_checkSize _ _).mapError _) fun _ _ => ?_
  refine .bind ((Plane.tells_bytesPerRow _).mapError _) fun _ _ => ?_
  refine .bind ((Plane.tells_checkDepth _ _).mapError _) fun _ _ => ?_
  refine .bind ((picture.tells_reduce _).mapError _) fun reduced reduces => ?_
  rw [outcome_mapError, mapError_eq_ok_iff] at reduces
  obtain ⟨_, _, _, rfl⟩ := ChunkyPicture.outcome_reduce_eq_ok_iff.mp reduces
  obtain ⟨ranks, applied⟩ := Compaction.exists_apply_ofRaster picture.raster
  dsimp only
  rw [compact_ofRaster, applied]
  refine .bind (.silent ⟨ranks, rfl⟩) fun raster same => ?_
  cases same
  refine .bind ((ranks.tells_toPlanes _).mapError _) fun planes split => ?_
  rw [outcome_mapError, mapError_eq_ok_iff] at split
  obtain ⟨counted, sized⟩ := Raster.measures_of_toPlanes split
  rw [Raster.toSize_of_relabel applied] at sized
  rw [counted, sized]
  exact .info_bind_succeed _ _

theorem reportsOnce_ofChunky (picture : ChunkyPicture) (profile : Profile) :
    (ofChunky picture profile).ReportsOnce := by
  obtain ⟨later, tells, starts⟩ := exists_ofChunky_eq_info_bind picture profile
  rw [starts]
  exact tells.reportsOnce.info_bind

end PlanarPicture

namespace ChunkyPicture

theorem reportsOnce_toPixels_iff (picture : ChunkyPicture) :
    picture.toPixels.ReportsOnce ↔
      ∀ index ∈ picture.raster.indices, index.toNat < picture.palette.size := by
  rw [← Raster.checkWithin_eq_ok_iff]
  unfold toPixels
  cases picture.raster.checkWithin picture.palette.size with
  | ok checked => simp [ReportsOnce, silent]
  | error error => simp [ReportsOnce, silent]

/-- Every error is reported once, apart from that of an index to show without a color. -/
theorem reportsOnce_unless_toPixels (picture : ChunkyPicture) (pixels : Bytes) (size : Size)
    (limit slots depth : Nat) (profile : Profile) (raster : Raster) (planes : List Plane)
    (blob : Blob) (file : Bytes) :
    (ofPixels pixels size limit).ReportsOnce ∧
      (picture.toPixels.ReportsOnce ↔
        ∀ index ∈ picture.raster.indices, index.toNat < picture.palette.size) ∧
      (PlanarPicture.ofChunky picture profile).ReportsOnce ∧
      (raster.toPlanes depth).ReportsOnce ∧
      (Raster.ofPlanes planes size).ReportsOnce ∧
      (blob.toPlanes size depth).ReportsOnce ∧
      (picture.reduce slots).ReportsOnce ∧
      (HardwarePalette.ofBytes file).ReportsOnce := by
  refine ⟨?indexing, ?showing, ?encoding, ?splitting, ?joining, ?cutting, ?reducing,
    ?loading⟩
  case indexing => exact (tells_ofPixels pixels size limit).reportsOnce
  case showing => exact picture.reportsOnce_toPixels_iff
  case encoding => exact PlanarPicture.reportsOnce_ofChunky picture profile
  case splitting => exact (raster.tells_toPlanes depth).reportsOnce
  case joining => exact (Raster.tells_ofPlanes planes size).reportsOnce
  case cutting => exact (blob.tells_toPlanes size depth).reportsOnce
  case reducing => exact (picture.tells_reduce slots).reportsOnce
  case loading => exact (HardwarePalette.tells_ofBytes file).reportsOnce

/-- A picture of one color, whose first pixel names a second. -/
theorem not_reportsOnce_toPixels_row :
    let picture : ChunkyPicture :=
      ⟨#[.black], ⟨⟨8, 1⟩, #[1, 0, 0, 0, 0, 0, 0, 0], rfl⟩⟩
    picture.toPixels.outcome = .error (.raster (.indexTooLarge 1 0 1)) ∧
      ¬ picture.toPixels.ReportsOnce := by
  intro picture
  refine ⟨by decide +kernel +revert, ?_⟩
  rw [reportsOnce_toPixels_iff]
  decide +kernel +revert

end ChunkyPicture

end ChunkyPlanar
