import Mathlib
import ChunkyPlanar.Proofs.Picture.Encoding

/-! The shortcut of an encoding. It is taken where the indices in use leave no gap, which
is where giving ranks changes nothing, so an encoding that always gives ranks comes to
the same and reports the same. -/

namespace ChunkyPlanar.PlanarPicture

/-- Only compactions that a reduction gives are looked at. -/
theorem ofChunkyBy_congr {picture : ChunkyPicture} {profile : Profile}
    {first second : Compaction → Raster → Except RasterError Raster}
    (agree : ∀ palette compaction,
      (picture.reduce profile.slots).outcome = .ok (palette, compaction) →
        first compaction picture.raster = second compaction picture.raster) :
    ofChunkyBy first picture profile = ofChunkyBy second picture profile := by
  have ranked : rankBy first picture profile.slots =
      rankBy second picture profile.slots := by
    apply Logged.bind_congr
    rintro ⟨palette, compaction⟩ reduces
    rw [Logged.outcome_mapError, Logged.mapError_eq_ok_iff] at reduces
    dsimp only
    rw [agree palette compaction reduces]
  unfold ofChunkyBy
  rw [ranked]

theorem compact_eq_apply_of_reduce {picture : ChunkyPicture} {slots : Nat}
    {palette : HardwarePalette} {compaction : Compaction}
    (reduces : (picture.reduce slots).outcome = .ok (palette, compaction)) :
    compact compaction picture.raster = compaction.apply picture.raster := by
  obtain ⟨_, _, _, reduced⟩ := ChunkyPicture.outcome_reduce_eq_ok_iff.mp reduces
  cases reduced
  exact compact_ofRaster picture.raster

theorem ofChunky_eq_ofChunkyBy_apply :
    (∀ (picture : ChunkyPicture) (slots : Nat) (palette : HardwarePalette)
        (compaction : Compaction),
      (picture.reduce slots).outcome = .ok (palette, compaction) →
      (compaction.isInitialSegment = true ↔
        ∀ number, (∃ index ∈ picture.raster.indices, index.toNat = number) ↔
          number < compaction.size) ∧
      (compaction.isInitialSegment = true ↔
        compaction.apply picture.raster = .ok picture.raster)) ∧
    ∀ (picture : ChunkyPicture) (profile : Profile),
      ofChunky picture profile = ofChunkyBy Compaction.apply picture profile := by
  constructor
  · intro picture slots palette compaction reduces
    obtain ⟨_, _, _, reduced⟩ := ChunkyPicture.outcome_reduce_eq_ok_iff.mp reduces
    cases reduced
    exact ⟨Compaction.isInitialSegment_ofRaster_iff, Compaction.apply_self_iff.symm⟩
  · intro picture profile
    exact ofChunkyBy_congr fun _ _ => compact_eq_apply_of_reduce

/-- The indices in use leave gaps, so the shortcut is not taken. -/
theorem ofChunky_eq_ofChunkyBy_apply_row :
    let picture : ChunkyPicture :=
      ⟨#[.black, ⟨255, 0, 0⟩, ⟨16, 32, 48⟩, ⟨0, 255, 0⟩],
        ⟨⟨8, 1⟩, #[3, 1, 3, 3, 1, 1, 1, 3], rfl⟩⟩
    let palette : HardwarePalette := ⟨#[0x00F, 0x0F0, 0, 0]⟩
    let compaction : Compaction := ⟨[1, 3], by decide⟩
    let profile : Profile := { slots := 4, depth? := some 2 }
    (picture.reduce 4).outcome = .ok (palette, compaction) ∧
      compaction.isInitialSegment = false ∧
      (compaction.isInitialSegment = true ↔
        ∀ number, (∃ index ∈ picture.raster.indices, index.toNat = number) ↔
          number < compaction.size) ∧
      (compaction.isInitialSegment = true ↔
        compaction.apply picture.raster = .ok picture.raster) ∧
      ofChunky picture profile = ofChunkyBy Compaction.apply picture profile := by
  intro picture palette compaction profile
  have reduces : (picture.reduce 4).outcome = .ok (palette, compaction) := by
    decide +kernel +revert
  have gaps : compaction.isInitialSegment = false := by
    decide +kernel +revert
  obtain ⟨gapless, own⟩ :=
    ofChunky_eq_ofChunkyBy_apply.1 picture 4 palette compaction reduces
  exact ⟨reduces, gaps, gapless, own, ofChunky_eq_ofChunkyBy_apply.2 picture profile⟩

end ChunkyPlanar.PlanarPicture
