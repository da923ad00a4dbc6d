import Mathlib
import ChunkyPlanar.Proofs.Picture.Encoding
import ChunkyPlanar.Settings.Reader

/-! Required widths and heights. A profile that has both lets pictures of that size through
and no others. One of them alone is not looked at: the profile works as it does without it,
and so do the settings that a file and options are merged into. -/

namespace ChunkyPlanar

/-- A picture of one color. -/
def ChunkyPicture.blank (size : Size) : ChunkyPicture where
  palette := #[.black]
  raster := ⟨size, Array.replicate size.pixelCount 0, Array.size_replicate⟩

namespace Profile

/-- A picture that can be encoded has the width and the height of the profile, whichever of
them the profile has. -/
def Enforces (profile : Profile) : Prop :=
  ∀ picture planar, (PlanarPicture.ofChunky picture profile).outcome = .ok planar →
    (∀ width, profile.width? = some width → picture.raster.width = width) ∧
      ∀ height, profile.height? = some height → picture.raster.height = height

/-- Depth and slots that pictures can be encoded with. -/
structure Workable (profile : Profile) : Prop where
  positive : 1 ≤ profile.depth
  most : profile.depth ≤ maxDepth
  slots : ¬ (profile.slots = 0 ∨ HardwarePalette.maxSize < profile.slots)

/-- The profile without a width or a height that stands alone. -/
def paired (profile : Profile) : Profile :=
  { profile with
    width? := profile.requiredSize?.map (·.width)
    height? := profile.requiredSize?.map (·.height) }

variable {profile : Profile} {size : Size}

theorem requiredSize?_paired (profile : Profile) :
    profile.paired.requiredSize? = profile.requiredSize? := by
  unfold paired
  cases required : profile.requiredSize? with
  | none => rfl
  | some size => rfl

/-- An encoding does not see a width or a height that stands alone. -/
theorem ofChunky_paired (picture : ChunkyPicture) (profile : Profile) :
    PlanarPicture.ofChunky picture profile.paired =
      PlanarPicture.ofChunky picture profile := by
  have depth : profile.paired.depth = profile.depth := rfl
  have slots : profile.paired.slots = profile.slots := rfl
  unfold PlanarPicture.ofChunky PlanarPicture.ofChunkyBy
  rw [requiredSize?_paired, depth, slots]

theorem accepts_of_unpaired
    (unpaired : profile.width?.isSome ≠ profile.height?.isSome) (size : Size) :
    profile.Accepts size := by
  intro expected required
  unfold requiredSize? at required
  cases width : profile.width? with
  | none => simp [width] at required
  | some _ =>
      cases height : profile.height? with
      | none => simp [width, height] at required
      | some _ => simp [width, height] at unpaired

/-- With one color in use any depth and any number of slots will do. -/
theorem exists_ofChunky_blank (workable : profile.Workable) (fills : size.FillsPlanes)
    (accepts : profile.Accepts size) :
    ∃ planar, (PlanarPicture.ofChunky (.blank size) profile).outcome = .ok planar := by
  have within : ∀ index ∈ (ChunkyPicture.blank size).raster.indices, index.toNat < 1 := by
    intro index member
    rw [(Array.mem_replicate.mp member).2]
    exact Nat.one_pos
  have slots := workable.slots
  obtain ⟨ranks, applied⟩ :=
    Compaction.exists_apply_ofRaster (ChunkyPicture.blank size).raster
  have enough : ranks.requiredDepth ≤ profile.depth :=
    (PlanarPicture.requiredDepth_ranks_le_iff applied).mpr
      ⟨workable.positive, (Compaction.size_ofRaster_le_of_within within).trans
        Nat.one_le_two_pow⟩
  have admits : PlanarPicture.Admits profile (.blank size) :=
    ⟨accepts, fills, workable.positive, workable.most⟩
  have colors : ¬ profile.slots < (ChunkyPicture.blank size).palette.size := by
    change ¬ profile.slots < 1
    omega
  exact ⟨_, PlanarPicture.outcome_ofChunky_eq_ok_iff.mpr
    ⟨ranks, ⟨admits, slots, colors, within, applied, enough⟩, rfl⟩⟩

/-- Of the two least sizes in a direction one differs from what is asked for. -/
theorem exists_fillsPlanes_of_unpaired
    (unpaired : profile.width?.isSome ≠ profile.height?.isSome) :
    ∃ size : Size, size.FillsPlanes ∧
      ((∃ width, profile.width? = some width ∧ size.width ≠ width) ∨
        ∃ height, profile.height? = some height ∧ size.height ≠ height) := by
  cases width : profile.width? with
  | some asked =>
      by_cases least : asked = 8
      · exact ⟨⟨16, 1⟩, ⟨by decide, by decide, rfl⟩, .inl ⟨asked, rfl, by simp [least]⟩⟩
      · exact ⟨⟨8, 1⟩, ⟨by decide, by decide, rfl⟩, .inl ⟨asked, rfl, Ne.symm least⟩⟩
  | none =>
      cases height : profile.height? with
      | none => simp [width, height] at unpaired
      | some asked =>
          by_cases least : asked = 1
          · exact ⟨⟨8, 2⟩, ⟨by decide, by decide, rfl⟩, .inr ⟨asked, rfl, by simp [least]⟩⟩
          · exact ⟨⟨8, 1⟩, ⟨by decide, by decide, rfl⟩, .inr ⟨asked, rfl, Ne.symm least⟩⟩

theorem enforces_of_paired (paired : profile.width?.isSome = profile.height?.isSome) :
    profile.Enforces := by
  intro picture planar encodes
  obtain ⟨_, fits, _⟩ := PlanarPicture.outcome_ofChunky_eq_ok_iff.mp encodes
  constructor
  · intro width given
    obtain ⟨height, other⟩ : ∃ height, profile.height? = some height := by
      rw [← Option.isSome_iff_exists, ← paired, given, Option.isSome_some]
    have sized := fits.accepts ⟨width, height⟩ (by simp [requiredSize?, given, other])
    rw [sized]
  · intro height given
    obtain ⟨width, other⟩ : ∃ width, profile.width? = some width := by
      rw [← Option.isSome_iff_exists, paired, given, Option.isSome_some]
    have sized := fits.accepts ⟨width, height⟩ (by simp [requiredSize?, given, other])
    rw [sized]

/-- A profile that no picture can be encoded with enforces anything. -/
theorem enforces_iff :
    profile.Enforces ↔
      (profile.Workable → profile.width?.isSome = profile.height?.isSome) := by
  constructor
  · intro enforces workable
    by_contra unpaired
    obtain ⟨size, fills, differs⟩ := exists_fillsPlanes_of_unpaired unpaired
    obtain ⟨planar, encodes⟩ :=
      exists_ofChunky_blank workable fills (accepts_of_unpaired unpaired size)
    obtain ⟨widths, heights⟩ := enforces _ _ encodes
    rcases differs with ⟨width, given, other⟩ | ⟨height, given, other⟩
    · exact other (widths width given)
    · exact other (heights height given)
  · intro paired
    by_cases workable : profile.Workable
    · exact enforces_of_paired (paired workable)
    · intro picture planar encodes
      obtain ⟨_, fits, _⟩ := PlanarPicture.outcome_ofChunky_eq_ok_iff.mp encodes
      exact absurd ⟨fits.positive, fits.most, fits.slots⟩ workable

end Profile

namespace SettingsFile

/-- A size among the options has both parts, so only parts of the file can stand alone. -/
theorem paired_withOptions_iff (file : SettingsFile) (options : CommandLine.EncodeOptions) :
    (file.withOptions options).profile.width?.isSome =
        (file.withOptions options).profile.height?.isSome ↔
      options.size?.isSome ∨ file.profile.width?.isSome = file.profile.height?.isSome := by
  unfold withOptions
  cases options.size? with
  | none => simp
  | some size => simp

/-- Required sizes are enforced by every profile that has both a width and a height or
neither, and no others but those that encode nothing. -/
theorem enforces_required_iff (profile : Profile) (file : SettingsFile)
    (options : CommandLine.EncodeOptions) :
    let merged := (file.withOptions options).profile
    (profile.Enforces ↔
        (profile.Workable → profile.width?.isSome = profile.height?.isSome)) ∧
      (merged.Enforces ↔ (merged.Workable → options.size?.isSome ∨
        file.profile.width?.isSome = file.profile.height?.isSome)) ∧
      ∀ picture, PlanarPicture.ofChunky picture profile =
        PlanarPicture.ofChunky picture profile.paired := by
  intro merged
  refine ⟨Profile.enforces_iff, ?_, fun picture => ?_⟩
  · rw [← paired_withOptions_iff]
    exact Profile.enforces_iff
  · exact (Profile.ofChunky_paired picture profile).symm

/-- A file asks for a width of sixteen pixels, and a picture of eight is encoded. -/
theorem not_enforces_width_alone :
    let file : SettingsFile := { profile := { width? := some 16 } }
    let profile := (file.withOptions { }).profile
    let picture : ChunkyPicture :=
      ⟨#[.black], ⟨⟨8, 1⟩, #[0, 0, 0, 0, 0, 0, 0, 0], rfl⟩⟩
    let planes : List Plane := [⟨0, #[0]⟩, ⟨1, #[0]⟩, ⟨2, #[0]⟩, ⟨3, #[0]⟩, ⟨4, #[0]⟩]
    parse? "[codec]\nwidth = 16\n" = some file ∧
      profile.width? = some 16 ∧ picture.raster.width = 8 ∧
      (PlanarPicture.ofChunky picture profile).outcome =
        .ok ⟨⟨8, 1⟩, .black 32, planes⟩ ∧
      ¬ profile.Enforces := by
  intro file profile picture planes
  have encodes : (PlanarPicture.ofChunky picture profile).outcome =
      .ok ⟨⟨8, 1⟩, .black 32, planes⟩ := by
    decide +kernel +revert
  have parsed : parse? "[codec]\nwidth = 16\n" = some file := by
    cbv
  refine ⟨parsed, rfl, rfl, encodes, fun enforces => ?_⟩
  have width := (enforces picture _ encodes).1 16 rfl
  exact absurd width (by decide)

end SettingsFile

end ChunkyPlanar
