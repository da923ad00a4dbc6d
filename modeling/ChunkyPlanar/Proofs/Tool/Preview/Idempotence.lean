import Mathlib
import ChunkyPlanar.Proofs.Chunky.Reduction
import ChunkyPlanar.Proofs.Tool.Preview

/-! Previews of previews: what a preview shows can be encoded like the pixels before
it, with no more colors, and shows itself again. -/

namespace ChunkyPlanar

theorem Byte.repeatHighNibble_repeatHighNibble (byte : UInt8) :
    repeatHighNibble (repeatHighNibble byte) = repeatHighNibble byte := by
  have small := byte.toNat_lt
  apply UInt8.toNat_inj.mp
  rw [toNat_repeatHighNibble, toNat_repeatHighNibble]
  omega

namespace Color

theorem ofBytes_map_repeatHighNibble (bytes : Bytes) :
    ofBytes (bytes.map Byte.repeatHighNibble) =
      (ofBytes bytes).map fun color => ofWord color.toWord := by
  apply Array.ext
  · simp [size_ofBytes]
  · intro position _ _
    simp [ofBytes, ofWord_toWord]

theorem card_inPixels_map_repeatHighNibble_le (bytes : Bytes) :
    (inPixels (bytes.map Byte.repeatHighNibble)).card ≤ (inPixels bytes).card := by
  have shown : inPixels (bytes.map Byte.repeatHighNibble) =
      (inPixels bytes).image fun color => ofWord color.toWord := by
    ext color
    simp [inPixels, ofBytes_map_repeatHighNibble]
  rw [shown]
  exact Finset.card_image_le

end Color

namespace PlanarPicture

/-- Of a picture read from pixels an encoding asks no more than a number of colors that
its slots and its planes hold. -/
theorem exists_ofChunky_iff_of_ofPixels {pixels : Bytes} {size : Size} {limit : Nat}
    {picture : ChunkyPicture} {profile : Profile}
    (indexed : (ChunkyPicture.ofPixels pixels size limit).outcome = .ok picture) :
    (∃ planar, (ofChunky picture profile).outcome = .ok planar) ↔
      Admits profile picture ∧
        ¬ (profile.slots = 0 ∨ HardwarePalette.maxSize < profile.slots) ∧
        (Color.inPixels pixels).card ≤ profile.slots ∧
        (Color.inPixels pixels).card ≤ 2 ^ profile.depth := by
  have colors := ChunkyPicture.size_palette_of_ofPixels indexed
  have used := ChunkyPicture.size_compaction_of_ofPixels indexed
  rw [← colors]
  constructor
  · intro encoded
    obtain ⟨planar, encodes⟩ := encoded
    obtain ⟨ranks, fits, _⟩ := outcome_ofChunky_eq_ok_iff.mp encodes
    have deep := (requiredDepth_ranks_le_iff fits.applied).mp fits.enough
    rw [used] at deep
    exact ⟨fits.toAdmits, fits.slots, not_lt.mp fits.colors, deep.2⟩
  · intro parts
    obtain ⟨admits, slots, few, deep⟩ := parts
    obtain ⟨ranks, applied⟩ := Compaction.exists_apply_ofRaster picture.raster
    have enough : ranks.requiredDepth ≤ profile.depth := by
      rw [requiredDepth_ranks_le_iff applied, used]
      exact ⟨admits.positive, deep⟩
    exact ⟨_, outcome_ofChunky_eq_ok_iff.mpr ⟨ranks, ⟨admits, slots, not_lt.mpr few,
      ChunkyPicture.within_of_ofPixels indexed, applied, enough⟩, rfl⟩⟩

theorem Admits.of_toSize {profile : Profile} {first second : ChunkyPicture}
    (admits : Admits profile first)
    (same : second.raster.toSize = first.raster.toSize) : Admits profile second := by
  refine ⟨?_, ?_, admits.positive, admits.most⟩
  · rw [same]
    exact admits.accepts
  · rw [same]
    exact admits.fills

end PlanarPicture

namespace Preview

open PlanarPicture

variable {pixels : Bytes} {size : Size} {profile : Profile} {picture : ChunkyPicture}
  {planar : PlanarPicture}
  (indexed : (ChunkyPicture.ofPixels pixels size profile.slots).outcome = .ok picture)
  (encodes : (ofChunky picture profile).outcome = .ok planar)

include indexed encodes

/-- Colors may coincide in a preview, and they never part. -/
theorem exists_ofPixels_ofChunky_again :
    ∃ again planarAgain,
      (ChunkyPicture.ofPixels (pixels.map Byte.repeatHighNibble) size
        profile.slots).outcome = .ok again ∧
      (ofChunky again profile).outcome = .ok planarAgain := by
  have fewer := Color.card_inPixels_map_repeatHighNibble_le pixels
  obtain ⟨whole, few⟩ := ChunkyPicture.exists_ofPixels_iff.mp ⟨picture, indexed⟩
  obtain ⟨again, indexedAgain⟩ : ∃ again,
      (ChunkyPicture.ofPixels (pixels.map Byte.repeatHighNibble) size
        profile.slots).outcome = .ok again := by
    rw [ChunkyPicture.exists_ofPixels_iff, Array.size_map]
    exact ⟨whole, Nat.le_trans fewer few⟩
  obtain ⟨admits, slots, fit, deep⟩ :=
    (exists_ofChunky_iff_of_ofPixels indexed).mp ⟨planar, encodes⟩
  have same : again.raster.toSize = picture.raster.toSize :=
    (ChunkyPicture.toPixels_ofPixels indexedAgain).1.trans
      (ChunkyPicture.toPixels_ofPixels indexed).1.symm
  obtain ⟨planarAgain, encodesAgain⟩ :=
    (exists_ofChunky_iff_of_ofPixels indexedAgain).mpr
      ⟨admits.of_toSize same, slots, Nat.le_trans fewer fit, Nat.le_trans fewer deep⟩
  exact ⟨again, planarAgain, indexedAgain, encodesAgain⟩

omit indexed encodes

theorem pixels_idempotent (pixels : Bytes) (size : Size) (profile : Profile)
    (picture : ChunkyPicture) (planar : PlanarPicture)
    (indexed : (ChunkyPicture.ofPixels pixels size profile.slots).outcome = .ok picture)
    (encodes : (ofChunky picture profile).outcome = .ok planar) :
    ∃ shown again planarAgain,
      (Preview.pixels planar.toBlob planar.palette.toBytes size planar.depth).outcome =
        .ok shown ∧
      (ChunkyPicture.ofPixels shown size profile.slots).outcome = .ok again ∧
      (ofChunky again profile).outcome = .ok planarAgain ∧
      (Color.inPixels shown).card ≤ (Color.inPixels pixels).card ∧
      again.palette.size ≤ picture.palette.size ∧
      (Preview.pixels planarAgain.toBlob planarAgain.palette.toBytes size
        planarAgain.depth).outcome = .ok shown := by
  obtain ⟨again, planarAgain, indexedAgain, encodesAgain⟩ :=
    exists_ofPixels_ofChunky_again indexed encodes
  have fewer := Color.card_inPixels_map_repeatHighNibble_le pixels
  refine ⟨_, again, planarAgain, outcome_pixels_of_ofPixels indexed encodes,
    indexedAgain, encodesAgain, fewer, ?_, ?_⟩
  · rwa [ChunkyPicture.size_palette_of_ofPixels indexed,
      ChunkyPicture.size_palette_of_ofPixels indexedAgain]
  · rw [outcome_pixels_of_ofPixels indexedAgain encodesAgain, Array.map_map]
    simp only [Function.comp_def, Byte.repeatHighNibble_repeatHighNibble]

/-- Two of the colors coincide in the preview. -/
theorem pixels_idempotent_merged :
    let size : Size := ⟨8, 1⟩
    let profile : Profile := { slots := 4, depth? := some 2 }
    let pixels : Bytes := #[7, 8, 9, 0, 250, 9, 3, 8, 1, 7, 8, 9,
      0, 250, 9, 0, 250, 9, 0, 250, 9, 3, 8, 1]
    let shown : Bytes := #[0, 0, 0, 0, 255, 0, 0, 0, 0, 0, 0, 0,
      0, 255, 0, 0, 255, 0, 0, 255, 0, 0, 0, 0]
    let picture : ChunkyPicture :=
      ⟨#[⟨7, 8, 9⟩, ⟨0, 250, 9⟩, ⟨3, 8, 1⟩],
        ⟨size, #[0, 1, 2, 0, 1, 1, 1, 2], rfl⟩⟩
    let planar : PlanarPicture :=
      ⟨size, ⟨#[0x000, 0x0F0, 0, 0]⟩, [⟨0, #[0x4E]⟩, ⟨1, #[0x21]⟩]⟩
    (ChunkyPicture.ofPixels pixels size profile.slots).outcome = .ok picture ∧
      (ofChunky picture profile).outcome = .ok planar ∧
      (Preview.pixels planar.toBlob planar.palette.toBytes size planar.depth).outcome =
        .ok shown ∧
      ∃ again planarAgain,
        (ChunkyPicture.ofPixels shown size profile.slots).outcome = .ok again ∧
        (ofChunky again profile).outcome = .ok planarAgain ∧
        (Color.inPixels shown).card ≤ (Color.inPixels pixels).card ∧
        again.palette.size ≤ picture.palette.size ∧
        (Preview.pixels planarAgain.toBlob planarAgain.palette.toBytes size
          planarAgain.depth).outcome = .ok shown := by
  intro size profile pixels shown picture planar
  have indexed : (ChunkyPicture.ofPixels pixels size profile.slots).outcome =
      .ok picture := by
    decide +kernel +revert
  have encodes : (ofChunky picture profile).outcome = .ok planar := by
    decide +kernel +revert
  have previewed : (Preview.pixels planar.toBlob planar.palette.toBytes size
      planar.depth).outcome = .ok shown := by
    decide +kernel +revert
  obtain ⟨same, again, planarAgain, shows, rest⟩ :=
    pixels_idempotent pixels size profile picture planar indexed encodes
  rw [previewed] at shows
  cases shows
  exact ⟨indexed, encodes, previewed, again, planarAgain, rest⟩

end Preview

end ChunkyPlanar
