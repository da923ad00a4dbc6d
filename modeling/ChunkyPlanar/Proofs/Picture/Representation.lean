import Mathlib
import ChunkyPlanar.Proofs.Picture.Encoding

/-! What an encoding shows: pixel by pixel the colors of the picture that it was
made from, as far as hardware words hold them. -/

namespace ChunkyPlanar

/-- Every index that occurs in the raster once, the least one first. -/
structure Raster.Uses (raster : Raster) (used : List UInt8) : Prop where
  ascending : used.Pairwise (· < ·)
  mem_iff : ∀ index, index ∈ used ↔ index ∈ raster.indices

namespace PlanarPicture

/-- The planar picture stands for the chunky one: `used` lists the indices in use, and
`decoded` holds the place in that list of the index of each pixel. -/
structure Represents (planar : PlanarPicture) (picture : ChunkyPicture)
    (profile : Profile) (used : List UInt8) (decoded : Raster) : Prop where
  uses : picture.raster.Uses used
  size : planar.toSize = picture.raster.toSize
  slots : planar.palette.size = profile.slots
  words : planar.palette.words.toList.map some =
    used.map (fun index => picture.palette[index.toNat]?.map Color.toWord) ++
      List.replicate (profile.slots - used.length) (some 0)
  depth : planar.planes.length = profile.depth
  numbers : ∀ number (inside : number < planar.planes.length),
    planar.planes[number].number = number
  bytes : ∀ plane ∈ planar.planes,
    plane.bytes.size = planar.width.toNat / 8 * planar.height.toNat
  decodes : planar.toRaster.outcome = .ok decoded
  size_decoded : decoded.toSize = picture.raster.toSize
  pixels : ∀ x y, x < picture.raster.width → y < picture.raster.height →
    ∃ index rank color, picture.raster.pixel? x y = some index ∧
      decoded.pixel? x y = some rank ∧ used[rank.toNat]? = some index ∧
      picture.palette[index.toNat]? = some color ∧
      planar.palette.get? rank.toNat = some color.toWord
  restores : ∃ reduced, (picture.reduce profile.slots).outcome = .ok reduced ∧
    reduced.2.undo decoded = .ok picture.raster

variable {picture : ChunkyPicture} {profile : Profile} {ranks : Raster}

theorem Fits.exists_pixel (fits : Fits picture profile ranks) {x y : UInt32}
    (column : x < picture.raster.width) (row : y < picture.raster.height) :
    ∃ index rank color, picture.raster.pixel? x y = some index ∧
      ranks.pixel? x y = some rank ∧
      (Compaction.ofRaster picture.raster).members[rank.toNat]? = some index ∧
      picture.palette[index.toNat]? = some color ∧
      (ofRanks picture profile ranks).palette.get? rank.toNat =
        some color.toWord := by
  obtain ⟨index, found⟩ := Raster.exists_pixel? column row
  have member := Raster.mem_of_pixel?_eq_some found
  obtain ⟨rank, ranked⟩ := Option.isSome_iff_exists.mp
    ((Compaction.isSome_rank?_iff _).mpr (Compaction.mem_ofRaster.mpr member))
  have colored := Array.getElem?_eq_getElem (fits.within index member)
  refine ⟨index, rank, _, found, ?_, ?_, colored, ?_⟩
  · rw [Raster.pixel?_of_relabel fits.applied, found, Option.bind_some, ranked]
  · exact (Compaction.rank?_eq_some_iff _).mp ranked
  · rw [fits.get?_palette member ranked, colored, Option.map_some]

theorem Fits.represents (fits : Fits picture profile ranks) :
    (ofRanks picture profile ranks).Represents picture profile
      (Compaction.ofRaster picture.raster).members ranks where
  uses := ⟨(Compaction.ofRaster picture.raster).ascending,
    fun _ => Compaction.mem_ofRaster⟩
  size := rfl
  slots := fits.size_palette
  words := HardwarePalette.words_ofUsed fun index member =>
    fits.within index (Compaction.mem_ofRaster.mp member)
  depth := by simp [ofRanks]
  numbers := by simp [ofRanks]
  bytes := by
    intro plane member
    obtain ⟨number, _, rfl⟩ := List.mem_map.mp member
    rw [Raster.size_bytes_plane fits.fills_ranks,
      Raster.toSize_of_relabel fits.applied, ofRanks]
  decodes := fits.outcome_toRaster
  size_decoded := Raster.toSize_of_relabel fits.applied
  pixels := fun _ _ => fits.exists_pixel
  restores := by
    have reduces := ChunkyPicture.outcome_reduce_of_within fits.slots fits.colors
      fits.within
    exact ⟨_, reduces, (Compaction.apply_eq_ok_iff_undo_eq_ok _).mp fits.applied⟩

theorem represents_ofChunky (picture : ChunkyPicture) (profile : Profile)
    (planar : PlanarPicture)
    (encodes : (ofChunky picture profile).outcome = .ok planar) :
    ∃ used decoded, planar.Represents picture profile used decoded := by
  obtain ⟨ranks, fits, rfl⟩ := outcome_ofChunky_eq_ok_iff.mp encodes
  exact ⟨_, _, fits.represents⟩

theorem represents_ofChunky_row :
    let picture : ChunkyPicture :=
      ⟨#[.black, ⟨255, 0, 0⟩, ⟨16, 32, 48⟩, ⟨0, 255, 0⟩],
        ⟨⟨8, 1⟩, #[3, 1, 3, 3, 1, 1, 1, 3], rfl⟩⟩
    let profile : Profile := { slots := 4, depth? := some 2 }
    let planar : PlanarPicture :=
      ⟨⟨8, 1⟩, ⟨#[0x00F, 0x0F0, 0, 0]⟩, [⟨0, #[0xB1]⟩, ⟨1, #[0]⟩]⟩
    (ofChunky picture profile).outcome = .ok planar ∧
      ∃ used decoded, planar.Represents picture profile used decoded := by
  intro picture profile planar
  have encodes : (ofChunky picture profile).outcome = .ok planar := by
    decide +kernel +revert
  exact ⟨encodes, represents_ofChunky picture profile planar encodes⟩

end PlanarPicture

end ChunkyPlanar
