import Mathlib
import ChunkyPlanar.Proofs.Picture.Verdict

/-! Faults of encodings, each with what makes it one. A depth that a profile derives from
its slots is never at fault, since no more indices are in use than there are slots. -/

namespace ChunkyPlanar.PlanarPicture

/-- What an encoding may be refused for. -/
inductive Fault (picture : ChunkyPicture) (profile : Profile) : EncodingError → Prop
  | size {expected : Size} (asked : profile.requiredSize? = some expected)
      (other : picture.raster.toSize ≠ expected) :
      Fault picture profile (.planes (.wrongSize picture.raster.toSize expected))
  | shape (unfilled : ¬ picture.raster.FillsPlanes) :
      Fault picture profile (.planes (.unsupportedSize picture.raster.toSize))
  | depth (outside : profile.depth = 0 ∨ 8 < profile.depth) :
      Fault picture profile (.planes (.depthOutOfRange profile.depth 1))
  | slots (outside : profile.slots = 0 ∨ 256 < profile.slots) :
      Fault picture profile (.palette (.slotsOutOfRange profile.slots))
  | colors (many : profile.slots < picture.palette.size) :
      Fault picture profile
        (.palette (.tooManyColors picture.palette.size profile.slots))
  | missing {index : UInt8} (used : index ∈ picture.raster.indices)
      (outside : picture.palette.size ≤ index.toNat) :
      Fault picture profile (.palette (.missingColor index picture.palette.size))
  | shallow {required : Nat}
      (held : picture.raster.indices.toList.toFinset.card ≤ min profile.slots 256)
      (few : 2 ^ profile.depth < picture.raster.indices.toList.toFinset.card)
      (enough : picture.raster.indices.toList.toFinset.card ≤ 2 ^ required) :
      Fault picture profile (.planes (.depthOutOfRange profile.depth required))

variable {picture : ChunkyPicture} {profile : Profile} {error : EncodingError}

theorem Verdict.fault (verdict : Verdict picture profile (.error error)) :
    Fault picture profile error := by
  dsimp only [Verdict] at verdict
  simp only [List.mem_toFinset, Array.mem_toList_iff] at verdict
  split_ifs at verdict with resized unsuitable deep slots many missing shallow
  · obtain ⟨expected, asked, equal⟩ := verdict
    cases equal
    refine .size asked fun same => resized.2 ?_
    rw [asked, same]
  · cases verdict
    exact .shape (picture.raster.not_fillsPlanes_iff.mpr unsuitable)
  · cases verdict
    exact .depth deep
  · cases verdict
    exact .slots slots
  · cases verdict
    exact .colors many
  · obtain ⟨index, least, equal⟩ := verdict
    cases equal
    exact .missing least.1.1 least.1.2
  · obtain ⟨required, least, equal⟩ := verdict
    cases equal
    have held : picture.raster.indices.toList.toFinset.card ≤ picture.palette.size := by
      rw [← Compaction.size_ofRaster]
      apply Compaction.size_ofRaster_le_of_within
      simpa using missing
    exact .shallow (by omega) shallow least.1.2
  · obtain ⟨planar, equal⟩ := verdict
    cases equal

theorem fault_of_outcome (failed : (ofChunky picture profile).outcome = .error error) :
    Fault picture profile error := by
  have verdict := verdict_outcome_ofChunky picture profile
  rw [failed] at verdict
  exact verdict.fault

section Derived

variable (derived : profile.depth? = none)

include derived

end Derived

end ChunkyPlanar.PlanarPicture
