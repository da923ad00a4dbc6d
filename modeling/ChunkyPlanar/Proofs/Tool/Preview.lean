import Mathlib
import ChunkyPlanar.Proofs.Chunky
import ChunkyPlanar.Proofs.Color
import ChunkyPlanar.Proofs.Palette.File
import ChunkyPlanar.Proofs.Picture.Blob
import ChunkyPlanar.Tool.Preview

/-! Previews of encodings: all that is lost on the way through the two files is the
low nibble of each channel. -/

namespace ChunkyPlanar

namespace PlanarPicture

variable {picture : ChunkyPicture} {profile : Profile} {ranks : Raster}

theorem Fits.outcome_ofBytes_toBytes (fits : Fits picture profile ranks) :
    (HardwarePalette.ofBytes (ofRanks picture profile ranks).palette.toBytes).outcome =
      .ok (ofRanks picture profile ranks).palette := by
  have slots := fits.slots
  rw [← fits.size_palette] at slots
  rw [HardwarePalette.ofBytes_toBytes, Logged.outcome_succeed]
  · omega
  · omega

theorem Fits.color_of_rank (fits : Fits picture profile ranks) {index rank : UInt8}
    (member : index ∈ picture.raster.indices)
    (ranked : (Compaction.ofRaster picture.raster).rank? index = some rank) :
    (ofRanks picture profile ranks).palette.colors.getD rank.toNat .black =
      Color.ofWord (picture.palette.getD index.toNat .black).toWord := by
  have inside := fits.within index member
  have word := fits.get?_palette member ranked
  unfold HardwarePalette.get? at word
  simp [HardwarePalette.colors, Array.getD_eq_getD_getElem?, word, inside]

theorem Fits.rank_lt_size_colors (fits : Fits picture profile ranks) {rank : UInt8}
    (member : rank ∈ ranks.indices) :
    rank.toNat < (ofRanks picture profile ranks).palette.colors.size := by
  have small := (Compaction.mem_ranks_iff fits.applied).mp member
  have few := fits.length_members_le
  have size : (ofRanks picture profile ranks).palette.words.size = profile.slots :=
    fits.size_palette
  rw [HardwarePalette.colors, Array.size_map, size]
  exact Nat.lt_of_lt_of_le small few

theorem Fits.pixels_of_ranks (fits : Fits picture profile ranks) :
    (ranks.indices.flatMap fun rank =>
      ((ofRanks picture profile ranks).palette.colors.getD rank.toNat .black).toBytes) =
    (picture.raster.indices.flatMap fun index =>
      (picture.palette.getD index.toNat .black).toBytes).map Byte.repeatHighNibble := by
  let shown (index : UInt8) : Color := picture.palette.getD index.toNat .black
  have colors : ranks.indices.map (fun rank =>
      (ofRanks picture profile ranks).palette.colors.getD rank.toNat .black) =
      picture.raster.indices.map fun index => Color.ofWord (shown index).toWord :=
    Raster.map_indices_of_relabel fits.applied fun _ member _ =>
      fits.color_of_rank member
  calc
    _ = (picture.raster.indices.map fun index =>
          Color.ofWord (shown index).toWord).flatMap Color.toBytes := by
      rw [← colors, Array.flatMap_map]
    _ = picture.raster.indices.flatMap fun index =>
          (shown index).toBytes.map Byte.repeatHighNibble := by
      rw [Array.flatMap_map]
      simp only [Color.toBytes_ofWord_toWord]
    _ = _ := by rw [Array.map_flatMap]

end PlanarPicture

namespace Preview

open PlanarPicture

variable {picture : ChunkyPicture} {profile : Profile} {planar : PlanarPicture}

theorem outcome_pixels_of_stages {blob : Blob} {paletteFile : Bytes} {size : Size}
    {depth : Nat} {palette : HardwarePalette} {planes : List Plane}
    {raster : Raster} {pixels : Bytes}
    (read : (HardwarePalette.ofBytes paletteFile).outcome = .ok palette)
    (cut : (blob.toPlanes size depth).outcome = .ok planes)
    (stacked : (Raster.ofPlanes planes size).outcome = .ok raster)
    (shown : (ChunkyPicture.toPixels ⟨palette.colors, raster⟩).outcome = .ok pixels) :
    (Preview.pixels blob paletteFile size depth).outcome = .ok pixels := by
  unfold Preview.pixels
  simp only [Logged.bind_eq, Logged.outcome_bind, Logged.outcome_mapError, read, cut,
    stacked, shown, Except.mapError, Except.bind]

theorem exists_outcome_pixels_ofChunky
    (encodes : (ofChunky picture profile).outcome = .ok planar) :
    ∃ source, picture.toPixels.outcome = .ok source ∧
      (Preview.pixels planar.toBlob planar.palette.toBytes picture.raster.toSize
        planar.depth).outcome = .ok (source.map Byte.repeatHighNibble) := by
  obtain ⟨ranks, fits, rfl⟩ := outcome_ofChunky_eq_ok_iff.mp encodes
  refine ⟨_, ChunkyPicture.outcome_toPixels_of_within fits.within, ?_⟩
  rw [← fits.pixels_of_ranks, PlanarPicture.depth, fits.represents.depth]
  apply outcome_pixels_of_stages fits.outcome_ofBytes_toBytes
    fits.outcome_toPlanes_toBlob fits.outcome_toRaster
  exact ChunkyPicture.outcome_toPixels_of_within fun rank member =>
    fits.rank_lt_size_colors member

theorem outcome_pixels_of_ofPixels {pixels : Bytes} {size : Size}
    (indexed : (ChunkyPicture.ofPixels pixels size profile.slots).outcome = .ok picture)
    (encodes : (ofChunky picture profile).outcome = .ok planar) :
    (Preview.pixels planar.toBlob planar.palette.toBytes size planar.depth).outcome =
      .ok (pixels.map Byte.repeatHighNibble) := by
  obtain ⟨sized, shown⟩ := ChunkyPicture.toPixels_ofPixels indexed
  obtain ⟨source, same, previewed⟩ := exists_outcome_pixels_ofChunky encodes
  rw [shown] at same
  cases same
  rwa [sized] at previewed

/-- The first part starts from a palette and a raster, the second from pixels. -/
theorem pixels_ofChunky :
    (∀ picture profile planar, (ofChunky picture profile).outcome = .ok planar →
      ∃ source, picture.toPixels.outcome = .ok source ∧
        (Preview.pixels planar.toBlob planar.palette.toBytes picture.raster.toSize
          planar.depth).outcome = .ok (source.map Byte.repeatHighNibble)) ∧
    ∀ pixels size profile picture planar,
      (ChunkyPicture.ofPixels pixels size profile.slots).outcome = .ok picture →
      (ofChunky picture profile).outcome = .ok planar →
      (Preview.pixels planar.toBlob planar.palette.toBytes size
        planar.depth).outcome = .ok (pixels.map Byte.repeatHighNibble) := by
  exact ⟨fun _ _ _ => exists_outcome_pixels_ofChunky,
    fun _ _ _ _ _ => outcome_pixels_of_ofPixels⟩

theorem pixels_ofChunky_row :
    let size : Size := ⟨8, 1⟩
    let profile : Profile := { slots := 4, depth? := some 2 }
    let picture : ChunkyPicture :=
      ⟨#[.black, ⟨255, 0, 0⟩, ⟨16, 32, 48⟩, ⟨0, 250, 9⟩],
        ⟨size, #[3, 1, 3, 3, 1, 1, 1, 3], rfl⟩⟩
    let planar : PlanarPicture :=
      ⟨size, ⟨#[0x00F, 0x0F0, 0, 0]⟩, [⟨0, #[0xB1]⟩, ⟨1, #[0]⟩]⟩
    let pixels : Bytes := #[7, 8, 9, 0, 250, 9, 7, 8, 9, 7, 8, 9,
      0, 250, 9, 0, 250, 9, 0, 250, 9, 7, 8, 9]
    let indexed : ChunkyPicture :=
      ⟨#[⟨7, 8, 9⟩, ⟨0, 250, 9⟩], ⟨size, #[0, 1, 0, 0, 1, 1, 1, 0], rfl⟩⟩
    let fromPixels : PlanarPicture :=
      ⟨size, ⟨#[0x000, 0x0F0, 0, 0]⟩, [⟨0, #[0x4E]⟩, ⟨1, #[0]⟩]⟩
    (ofChunky picture profile).outcome = .ok planar ∧
      (∃ source, picture.toPixels.outcome = .ok source ∧
        (Preview.pixels planar.toBlob planar.palette.toBytes picture.raster.toSize
          planar.depth).outcome = .ok (source.map Byte.repeatHighNibble)) ∧
      (ChunkyPicture.ofPixels pixels size profile.slots).outcome = .ok indexed ∧
      (ofChunky indexed profile).outcome = .ok fromPixels ∧
      (Preview.pixels fromPixels.toBlob fromPixels.palette.toBytes size
        fromPixels.depth).outcome = .ok (pixels.map Byte.repeatHighNibble) := by
  intro size profile picture planar pixels indexed fromPixels
  have encodes : (ofChunky picture profile).outcome = .ok planar := by
    decide +kernel +revert
  have indexes : (ChunkyPicture.ofPixels pixels size profile.slots).outcome =
      .ok indexed := by
    decide +kernel +revert
  have encodesIndexed : (ofChunky indexed profile).outcome = .ok fromPixels := by
    decide +kernel +revert
  exact ⟨encodes, pixels_ofChunky.1 picture profile planar encodes, indexes,
    encodesIndexed,
    pixels_ofChunky.2 pixels size profile indexed fromPixels indexes encodesIndexed⟩

end Preview

end ChunkyPlanar
