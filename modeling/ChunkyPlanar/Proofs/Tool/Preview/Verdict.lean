import Mathlib
import ChunkyPlanar.Proofs.Chunky
import ChunkyPlanar.Proofs.Palette.File
import ChunkyPlanar.Proofs.Plane.Reading
import ChunkyPlanar.Tool.Plan

/-! Verdicts on previews: what any two files show, read off their bytes. -/

namespace ChunkyPlanar

namespace Preview

/-- What the files show: their first fault, in the order in which faults are looked for,
or a pixmap that has at each pixel the color of the word its bits name. -/
def Verdict (blob : Blob) (paletteFile : Bytes) (size : Size) (depth : Nat)
    (outcome : Except ToolError Pixmap) : Prop :=
  let width := size.width.toNat
  let height := size.height.toNat
  let length := depth * (width / 8 * height)
  let words := paletteFile.size / 2
  let indexAt (position : Nat) :=
    blob.index size depth (position % width) (position / width)
  if paletteFile.size = 0 ∨ paletteFile.size % 2 = 1 ∨ 512 < paletteFile.size then
    outcome = .error (.palette (.wrongFileLength paletteFile.size))
  else if size.width = 0 ∨ size.height = 0 ∨ size.width.toNat % 8 ≠ 0 then
    outcome = .error (.planes (.unsupportedSize size))
  else if depth = 0 ∨ 8 < depth then
    outcome = .error (.planes (.depthOutOfRange depth 1))
  else if blob.size ≠ length then
    outcome = .error (.planes (.wrongBlobLength length blob.size))
  else if ∃ position < size.pixelCount, words ≤ indexAt position then
    ∃ position, ∃ index : UInt8,
      IsLeast {position | position < size.pixelCount ∧ words ≤ indexAt position} position ∧
        index.toNat = indexAt position ∧
        outcome = .error (.indexing (.raster (.indexTooLarge index position words)))
  else
    ∃ pixmap, outcome = .ok pixmap ∧ pixmap.toSize = size ∧
      ∀ x < width, ∀ y < height,
        (Color.ofBytes pixmap.pixels)[y * width + x]? =
          some (.ofWord (HardwarePalette.wordAt paletteFile (blob.index size depth x y)))

theorem Verdict.ne_unfilledPreview {blob : Blob} {paletteFile : Bytes} {size : Size}
    {depth : Nat} {error : ToolError}
    (verdict : Verdict blob paletteFile size depth (.error error)) (unfilled : Size) :
    error ≠ .unfilledPreview unfilled := by
  rintro rfl
  dsimp only [Verdict] at verdict
  split_ifs at verdict <;> simp at verdict

/-- A preview without its journal. -/
theorem outcome_pixels (blob : Blob) (paletteFile : Bytes) (size : Size) (depth : Nat) :
    (pixels blob paletteFile size depth).outcome = (do
      let palette ← (HardwarePalette.ofBytes paletteFile).outcome.mapError .palette
      let planes ← (blob.toPlanes size depth).outcome.mapError .planes
      let raster ← (Raster.ofPlanes planes size).outcome.mapError .planes
      (ChunkyPicture.toPixels ⟨palette.colors, raster⟩).outcome.mapError .indexing) := by
  unfold pixels
  simp only [Logged.bind_eq, Logged.outcome_bind, Logged.outcome_mapError]
  rfl

end Preview

namespace CommandLine.PreviewArguments

/-- The pixmap of the two files, before it is saved. -/
def shown (arguments : PreviewArguments) (blob : Blob) (paletteFile : Bytes) :
    Except ToolError Pixmap :=
  (Preview.pixels blob paletteFile arguments.size arguments.planes).outcome >>=
    arguments.pixmap

variable {arguments : PreviewArguments} {blob : Blob} {paletteFile : Bytes}

theorem shown_of_error {error : ToolError}
    (failed : (Preview.pixels blob paletteFile arguments.size arguments.planes).outcome =
      .error error) :
    arguments.shown blob paletteFile = .error error := by
  rw [shown, failed]
  rfl

section Whole

variable (whole :
  ¬ (paletteFile.size = 0 ∨ paletteFile.size % 2 = 1 ∨ 512 < paletteFile.size))

include whole

theorem shown_of_cut_error {error : PlaneError}
    (refused : (blob.toPlanes arguments.size arguments.planes).outcome = .error error) :
    arguments.shown blob paletteFile = .error (.planes error) := by
  apply shown_of_error
  rw [Preview.outcome_pixels, HardwarePalette.outcome_ofBytes_of_words whole, refused]
  rfl

variable {planes : List Plane} {raster : Raster}
  (cut : (blob.toPlanes arguments.size arguments.planes).outcome = .ok planes)
  (stacked : (Raster.ofPlanes planes arguments.size).outcome = .ok raster)

include cut stacked

theorem outcome_pixels_of_stacked :
    (Preview.pixels blob paletteFile arguments.size arguments.planes).outcome =
      (ChunkyPicture.toPixels ⟨Array.ofFn (n := paletteFile.size / 2) fun slot =>
        Color.ofWord (HardwarePalette.wordAt paletteFile slot), raster⟩).outcome.mapError
          .indexing := by
  have colors : HardwarePalette.colors ⟨Array.ofFn (n := paletteFile.size / 2) fun slot =>
      HardwarePalette.wordAt paletteFile slot⟩ =
      Array.ofFn (n := paletteFile.size / 2) fun slot =>
        Color.ofWord (HardwarePalette.wordAt paletteFile slot) := by
    simp [HardwarePalette.colors, Function.comp_def]
  rw [Preview.outcome_pixels, HardwarePalette.outcome_ofBytes_of_words whole, cut, ← colors]
  simp only [bind, Except.bind, Except.mapError, stacked]

theorem shown_of_missing
    (missing : ∃ index ∈ raster.indices, paletteFile.size / 2 ≤ index.toNat) :
    ∃ position, ∃ inside : position < raster.indices.size,
      paletteFile.size / 2 ≤ raster.indices[position].toNat ∧
      (∀ other (before : other < position),
        raster.indices[other].toNat < paletteFile.size / 2) ∧
      arguments.shown blob paletteFile = .error (.indexing (.raster
        (.indexTooLarge raster.indices[position] position (paletteFile.size / 2)))) := by
  obtain ⟨position, inside, large, first, refused⟩ :=
    Raster.exists_checkWithin_eq_error missing
  refine ⟨position, inside, large, first, shown_of_error ?_⟩
  rw [outcome_pixels_of_stacked whole cut stacked]
  unfold ChunkyPicture.toPixels
  rw [Array.size_ofFn, refused]
  rfl

theorem shown_of_within
    (within : ∀ index ∈ raster.indices, index.toNat < paletteFile.size / 2) :
    ∃ pixmap, arguments.shown blob paletteFile = .ok pixmap ∧
      pixmap.toSize = arguments.size ∧
      Color.ofBytes pixmap.pixels = raster.indices.map fun index =>
        Color.ofWord (HardwarePalette.wordAt paletteFile index.toNat) := by
  obtain ⟨_, _, _, sized, _⟩ := Raster.outcome_ofPlanes_eq_ok_iff.mp stacked
  let colors := raster.indices.map fun index =>
    Color.ofWord (HardwarePalette.wordAt paletteFile index.toNat)
  have size : (colors.flatMap Color.toBytes).size = arguments.size.pixelCount * 3 := by
    rw [Bytes.size_arrayFlatMap_of_uniform Color.size_toBytes, Array.size_map,
      raster.size_indices, sized, Nat.mul_comm]
  have pixels : (Preview.pixels blob paletteFile arguments.size
      arguments.planes).outcome = .ok (colors.flatMap Color.toBytes) := by
    rw [outcome_pixels_of_stacked whole cut stacked,
      ChunkyPicture.outcome_toPixels_of_within (by simpa using within)]
    have named : raster.indices.map (fun index =>
        (Array.ofFn (n := paletteFile.size / 2) fun slot =>
          Color.ofWord (HardwarePalette.wordAt paletteFile slot)).getD index.toNat .black) =
        colors := by
      apply Array.map_congr_left
      intro index member
      simp [Array.getD, within index member]
    rw [← named, Array.flatMap_map]
    rfl
  refine ⟨⟨arguments.size, colors.flatMap Color.toBytes, size⟩, ?_, rfl,
    Color.ofBytes_flatMap_toBytes colors⟩
  rw [shown, pixels]
  change arguments.pixmap (colors.flatMap Color.toBytes) = _
  unfold pixmap Pixmap.ofBytes?
  rw [dif_pos size]

end Whole

theorem verdict_shown (arguments : PreviewArguments) (blob : Blob) (paletteFile : Bytes) :
    Preview.Verdict blob paletteFile arguments.size arguments.planes
      (arguments.shown blob paletteFile) := by
  dsimp only [Preview.Verdict]
  refine ite_prop_iff_and.mpr ⟨fun faulty => ?_, fun whole => ?_⟩
  · apply shown_of_error
    rw [Preview.outcome_pixels, HardwarePalette.outcome_ofBytes_of_length faulty]
    rfl
  refine ite_prop_iff_and.mpr ⟨fun unsuitable => ?_, fun suitable => ?_⟩
  · have unfilled := (Size.not_fillsPlanes_iff _).mpr unsuitable
    exact shown_of_cut_error whole (Blob.outcome_toPlanes_of_shape unfilled)
  have fills : arguments.size.FillsPlanes := .of_suitable suitable
  refine ite_prop_iff_and.mpr ⟨fun outside => ?_, fun deep => ?_⟩
  · apply shown_of_cut_error whole
    apply Blob.outcome_toPlanes_of_depth fills
    unfold maxDepth
    omega
  have split : (blob.toPlanes arguments.size arguments.planes).outcome = _ :=
    Blob.outcome_toPlanes_of_within fills (by omega) (by unfold maxDepth; omega)
  refine ite_prop_iff_and.mpr ⟨fun other => ?_, fun same => ?_⟩
  · rw [if_neg other] at split
    exact shown_of_cut_error whole split
  -- The planes can be stacked, so only the indices are left to check.
  have cut := split.trans (if_pos (not_not.mp same))
  have cuts := Blob.cuts_of_toPlanes cut
  obtain ⟨raster, stacked⟩ := cuts.exists_outcome_ofPlanes
  have count := Raster.size_indices_of_stacked stacked
  have named {position : Nat} (inside : position < raster.indices.size) :=
    cuts.index_of_stacked stacked inside
  refine ite_prop_iff_and.mpr ⟨fun missing => ?_, fun present => ?_⟩
  · obtain ⟨position, below, large⟩ := missing
    have inside : position < raster.indices.size := count ▸ below
    rw [← named inside] at large
    obtain ⟨first, inside, large, before, refused⟩ := shown_of_missing whole cut stacked
      ⟨_, Array.getElem_mem inside, large⟩
    refine ⟨first, raster.indices[first], ⟨⟨count ▸ inside, named inside ▸ large⟩, ?_⟩,
      named inside, refused⟩
    intro other parts
    by_contra earlier
    have small := before other (not_le.mp earlier)
    rw [named] at small
    exact absurd parts.2 (not_le.mpr small)
  · have within : ∀ index ∈ raster.indices, index.toNat < paletteFile.size / 2 := by
      intro index member
      obtain ⟨position, inside, rfl⟩ := Array.getElem_of_mem member
      rw [named inside]
      by_contra large
      exact present ⟨position, count ▸ inside, not_lt.mp large⟩
    obtain ⟨pixmap, shown, size, colors⟩ := shown_of_within whole cut stacked within
    refine ⟨pixmap, shown, size, fun x column y row => ?_⟩
    obtain ⟨inside, index⟩ := cuts.index_at_of_stacked stacked column row
    rw [colors, Array.getElem?_map, Array.getElem?_eq_getElem inside, Option.map_some, index]

end CommandLine.PreviewArguments

end ChunkyPlanar
