import Mathlib
import ChunkyPlanar.Proofs.Picture.Representation
import ChunkyPlanar.Proofs.Plane.Blob

/-! Blobs of encodings: every byte of every plane and nothing else, so cutting one gives
back the planes of the picture. -/

namespace ChunkyPlanar

namespace PlanarPicture

variable {picture : ChunkyPicture} {profile : Profile} {ranks : Raster}

theorem Fits.outcome_toPlanes_toBlob (fits : Fits picture profile ranks) :
    ((ofRanks picture profile ranks).toBlob.toPlanes picture.raster.toSize
      profile.depth).outcome = .ok (ofRanks picture profile ranks).planes := by
  have shape := fits.represents
  have positive := fits.positive
  have most := fits.most
  rw [← shape.depth] at positive most ⊢
  exact Blob.outcome_toPlanes_ofPlanes fits.fills positive most shape.numbers
    shape.bytes

end PlanarPicture

namespace Blob

open PlanarPicture

/-- The first part is about any blob, the second about blobs of encodings. -/
theorem toPlanes_exact :
    (∀ blob size depth, Verdict blob size depth (toPlanes blob size depth).outcome) ∧
    ∀ picture profile planar, (ofChunky picture profile).outcome = .ok planar →
      planar.toBlob.size = planar.depth * planar.bytesPerPlane ∧
        (planar.toBlob.toPlanes planar.toSize planar.depth).outcome =
          .ok planar.planes := by
  refine ⟨verdict_outcome_toPlanes, ?_⟩
  intro picture profile planar encodes
  obtain ⟨ranks, fits, rfl⟩ := outcome_ofChunky_eq_ok_iff.mp encodes
  have shape := fits.represents
  refine ⟨size_ofPlanes shape.bytes, ?_⟩
  rw [PlanarPicture.depth, shape.depth, shape.size]
  exact fits.outcome_toPlanes_toBlob

theorem toPlanes_exact_square :
    let picture : ChunkyPicture :=
      ⟨#[.black, ⟨255, 0, 0⟩, ⟨16, 32, 48⟩, ⟨0, 255, 0⟩],
        ⟨⟨8, 2⟩, #[3, 1, 3, 3, 1, 1, 1, 3, 0, 0, 0, 0, 3, 3, 3, 3], rfl⟩⟩
    let profile : Profile := { slots := 4 }
    let planar : PlanarPicture :=
      ⟨⟨8, 2⟩, ⟨#[0x000, 0x00F, 0x0F0, 0]⟩,
        [⟨0, #[0x4E, 0]⟩, ⟨1, #[0xB1, 0x0F]⟩]⟩
    (ofChunky picture profile).outcome = .ok planar ∧
      planar.toBlob = #[0x4E, 0, 0xB1, 0x0F] ∧
      planar.toBlob.size = planar.depth * planar.bytesPerPlane ∧
      (planar.toBlob.toPlanes planar.toSize planar.depth).outcome =
        .ok planar.planes := by
  intro picture profile planar
  have encodes : (ofChunky picture profile).outcome = .ok planar := by
    decide +kernel +revert
  exact ⟨encodes, rfl, toPlanes_exact.2 picture profile planar encodes⟩

end Blob

end ChunkyPlanar
