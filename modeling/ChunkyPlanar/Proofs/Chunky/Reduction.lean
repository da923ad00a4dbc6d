import Mathlib
import ChunkyPlanar.Proofs.Chunky.Verdict
import ChunkyPlanar.Proofs.Palette.Reduction

/-! Reductions of pictures that were read from pixels. The palette has no more colors than
slots, and the pixels use all of it, so its colors take the first slots as they are. -/

namespace ChunkyPlanar.ChunkyPicture

/-- A reduction in which each index is its own rank and each color has the slot of its
index. -/
structure KeepsPlaces (picture : ChunkyPicture) (slots : Nat) (palette : HardwarePalette)
    (compaction : Compaction) : Prop where
  gapless : compaction.isInitialSegment = true
  size : compaction.size = picture.palette.size
  words : palette.words.toList = picture.palette.toList.map Color.toWord ++
    List.replicate (slots - picture.palette.size) 0

section Read

variable {pixels : Bytes} {size : Size} {slots : Nat} {picture : ChunkyPicture}
  (indexed : (ofPixels pixels size slots).outcome = .ok picture)

include indexed

theorem size_compaction_of_ofPixels :
    (Compaction.ofRaster picture.raster).size = picture.palette.size := by
  rw [Compaction.size_ofRaster, card_indices_of_ofPixels indexed]

theorem isInitialSegment_of_ofPixels :
    (Compaction.ofRaster picture.raster).isInitialSegment = true := by
  rw [Compaction.isInitialSegment_ofRaster_iff, size_compaction_of_ofPixels indexed]
  intro number
  constructor
  · rintro ⟨index, member, rfl⟩
    exact within_of_ofPixels indexed index member
  · exact (listsFirstUses_of_ofPixels indexed).used number

/-- Slots that are enough to read pixels are enough to reduce what was read. -/
theorem exists_reduce_of_ofPixels (positive : 1 ≤ slots) (most : slots ≤ 256) :
    ∃ palette compaction, (picture.reduce slots).outcome = .ok (palette, compaction) ∧
      picture.KeepsPlaces slots palette compaction := by
  have inside : ¬ (slots = 0 ∨ HardwarePalette.maxSize < slots) := by
    unfold HardwarePalette.maxSize
    omega
  have few : ¬ slots < picture.palette.size := by
    have size_le := size_palette_le_of_ofPixels indexed
    omega
  have gapless := isInitialSegment_of_ofPixels indexed
  have sized := size_compaction_of_ofPixels indexed
  refine ⟨_, _, outcome_reduce_of_within inside few (within_of_ofPixels indexed),
    gapless, sized, ?_⟩
  apply HardwarePalette.words_ofUsed_of_gapless
  rw [← sized]
  exact (Compaction.isInitialSegment_iff_map_toNat _).mp gapless

end Read

end ChunkyPlanar.ChunkyPicture
