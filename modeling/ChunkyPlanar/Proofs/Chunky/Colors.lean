import Mathlib
import ChunkyPlanar.Proofs.Chunky

/-! The colors of pixels, counted once each. They are the palette of the picture read
from the pixels, every one of them is in use there, and their number alone decides
whether the pixels can be read. -/

namespace ChunkyPlanar

/-- The different colors of pixels. -/
def Color.inPixels (pixels : Bytes) : Finset Color := (ofBytes pixels).toList.toFinset

namespace ChunkyPicture

/-- What an indexing keeps while it reads: its palette holds each color read once. -/
structure Indexing.Collects (indexing : Indexing) (capacity : Nat)
    (colors : List Color) : Prop where
  nodup : indexing.palette.toList.Nodup
  mem_iff : ∀ color, color ∈ indexing.palette.toList ↔ color ∈ colors
  few : indexing.palette.size ≤ capacity

namespace Indexing.Collects

variable {indexing next last : Indexing} {capacity : Nat} {seen colors : List Color}
  {color : Color}

theorem size_palette (collects : indexing.Collects capacity seen) :
    indexing.palette.size = seen.toFinset.card := by
  have same : indexing.palette.toList.toFinset = seen.toFinset := by
    ext color
    rw [List.mem_toFinset, List.mem_toFinset, collects.mem_iff]
  rw [← same, List.toFinset_card_of_nodup collects.nodup, Array.length_toList]

theorem mem_palette_iff (collects : indexing.Collects capacity seen) :
    color ∈ indexing.palette ↔ color ∈ seen := by
  rw [← Array.mem_toList_iff, collects.mem_iff]

theorem add (collects : indexing.Collects capacity seen)
    (added : indexing.add capacity color = .ok next) :
    next.Collects capacity (seen ++ [color]) := by
  rcases Indexing.add_cases added with ⟨index, found, rfl⟩ | ⟨new, room, rfl⟩
  · have old := collects.mem_palette_iff.mp (Array.mem_of_getElem? found)
    refine ⟨collects.nodup, fun other => ?_, collects.few⟩
    rw [collects.mem_iff, List.mem_append, List.mem_singleton, or_iff_left_of_imp]
    rintro rfl
    exact old
  · refine ⟨?_, fun other => ?_, by rwa [Array.size_push]⟩
    · rw [Array.toList_push, List.nodup_append_comm, List.singleton_append,
        List.nodup_cons, Array.mem_toList_iff]
      exact ⟨new, collects.nodup⟩
    · rw [Array.toList_push, List.mem_append, collects.mem_iff, List.mem_append]

theorem lt_card_of_add (collects : indexing.Collects capacity seen) {ordinal : Nat}
    (refused : indexing.add capacity color = .error ordinal) :
    capacity < (seen ++ [color]).toFinset.card := by
  obtain ⟨new, full, _⟩ := Indexing.refused_of_add refused
  rw [collects.mem_palette_iff] at new
  rw [List.toFinset_append, Finset.union_comm, List.toFinset_cons,
    List.toFinset_nil, insert_empty_eq, Finset.singleton_union,
    Finset.card_insert_of_notMem (by simpa using new), ← collects.size_palette]
  omega

theorem run (collects : indexing.Collects capacity seen)
    (read : colors.foldlM (Indexing.add capacity) indexing = .ok last) :
    last.Collects capacity (seen ++ colors) :=
  Indexing.run_induction (motive := fun indexing seen => indexing.Collects capacity seen)
    (fun _ _ _ _ collects added => collects.add added) collects read

/-- What is kept holds up to the color at which reading stops. -/
theorem exists_refused (collects : indexing.Collects capacity seen) {ordinal : Nat}
    (refused : colors.foldlM (Indexing.add capacity) indexing = .error ordinal) :
    ∃ stopped read color rest, colors = read ++ color :: rest ∧
      Indexing.Collects stopped capacity (seen ++ read) ∧
      stopped.add capacity color = .error ordinal :=
  Indexing.refusal_induction
    (motive := fun indexing seen => indexing.Collects capacity seen)
    (fun _ _ _ _ collects added => collects.add added) collects refused

theorem ordinal_of_run (collects : indexing.Collects capacity seen) {ordinal : Nat}
    (refused : colors.foldlM (Indexing.add capacity) indexing = .error ordinal) :
    ordinal = capacity + 1 := by
  obtain ⟨stopped, _, color, _, _, kept, stops⟩ := collects.exists_refused refused
  obtain ⟨_, full, rfl⟩ := Indexing.refused_of_add stops
  have few := kept.few
  omega

theorem exists_run_iff (collects : indexing.Collects capacity seen) :
    (∃ last, colors.foldlM (Indexing.add capacity) indexing = .ok last) ↔
      (seen ++ colors).toFinset.card ≤ capacity := by
  constructor
  · rintro ⟨last, read⟩
    have kept := collects.run read
    rw [← kept.size_palette]
    exact kept.few
  · intro few
    cases read : colors.foldlM (Indexing.add capacity) indexing with
    | ok last => exact ⟨last, rfl⟩
    | error ordinal =>
        obtain ⟨stopped, before, color, rest, split, kept, stops⟩ :=
          collects.exists_refused read
        have many := kept.lt_card_of_add stops
        have whole : seen ++ colors = seen ++ before ++ [color] ++ rest := by
          simp [split]
        have more : (seen ++ before ++ [color]).toFinset.card ≤
            (seen ++ colors).toFinset.card := by
          apply Finset.card_le_card
          rw [whole, List.toFinset_append (l := seen ++ before ++ [color])]
          exact Finset.subset_union_left
        omega

end Indexing.Collects

theorem collects_empty (capacity : Nat) :
    Indexing.Collects ⟨#[], #[]⟩ capacity [] :=
  ⟨List.nodup_nil, fun _ => Iff.rfl, Nat.zero_le _⟩

/-- A picture read from pixels is an indexing of their colors. -/
theorem outcome_ofPixels_eq_ok_iff {pixels : Bytes} {size : Size} {limit : Nat}
    {picture : ChunkyPicture} :
    (ofPixels pixels size limit).outcome = .ok picture ↔
      pixels.size = size.pixelCount * 3 ∧ picture.raster.toSize = size ∧
        (Color.ofBytes pixels).foldlM (Indexing.add (min limit 256)) ⟨#[], #[]⟩ =
          .ok ⟨picture.palette, picture.raster.indices⟩ := by
  unfold ofPixels
  by_cases whole : pixels.size = size.pixelCount * 3
  · rw [if_pos whole]
    cases read : (Color.ofBytes pixels).foldlM
        (Indexing.add (min limit 256)) ⟨#[], #[]⟩ with
    | error ordinal => simp
    | ok indexing =>
        constructor
        · intro indexed
          cases built : Raster.ofIndices size indexing.indices with
          | error error =>
              simp only [built] at indexed
              cases indexed
          | ok raster =>
              simp only [built] at indexed
              cases indexed
              obtain ⟨sized, indices⟩ := Raster.ofIndices_eq_ok_iff.mp built
              exact ⟨whole, sized, by rw [indices]⟩
        · intro parts
          obtain ⟨_, sized, same⟩ := parts
          cases same
          simp only [Raster.ofIndices_eq_ok_iff.mpr ⟨sized, rfl⟩, Logged.outcome_silent]
  · simp [whole]

section Read

variable {pixels : Bytes} {size : Size} {limit : Nat} {picture : ChunkyPicture}
  (indexed : (ofPixels pixels size limit).outcome = .ok picture)

include indexed

theorem names_of_ofPixels :
    Indexing.Names ⟨picture.palette, picture.raster.indices⟩
      (Color.ofBytes pixels).toList :=
  names_of_foldlM (outcome_ofPixels_eq_ok_iff.mp indexed).2.2

theorem collects_of_ofPixels :
    Indexing.Collects ⟨picture.palette, picture.raster.indices⟩ (min limit 256)
      (Color.ofBytes pixels).toList := by
  have read := (outcome_ofPixels_eq_ok_iff.mp indexed).2.2
  rw [← Array.foldlM_toList] at read
  exact (collects_empty _).run read

theorem within_of_ofPixels :
    ∀ index ∈ picture.raster.indices, index.toNat < picture.palette.size :=
  fun _ member => (names_of_ofPixels indexed).inside (Array.mem_toList_iff.mpr member)

theorem size_palette_of_ofPixels :
    picture.palette.size = (Color.inPixels pixels).card :=
  (collects_of_ofPixels indexed).size_palette

theorem size_palette_le_of_ofPixels : picture.palette.size ≤ min limit 256 :=
  (collects_of_ofPixels indexed).few

/-- Every color of the palette is in use. -/
theorem card_indices_of_ofPixels :
    picture.raster.indices.toList.toFinset.card = picture.palette.size := by
  apply Nat.le_antisymm
  · have bounded : picture.raster.indices.toList.toFinset.card ≤
        (Finset.range picture.palette.size).card := by
      refine Finset.card_le_card_of_injOn UInt8.toNat (fun index member => ?_)
        fun _ _ _ _ same => UInt8.toNat_inj.mp same
      have used : index ∈ picture.raster.indices := by simpa using member
      simpa using within_of_ofPixels indexed index used
    rwa [Finset.card_range] at bounded
  · have shown : (Color.inPixels pixels).image some =
        picture.raster.indices.toList.toFinset.image (picture.palette[·.toNat]?) := by
      ext color
      have named := congrArg (color ∈ ·) (names_of_ofPixels indexed).named
      simpa [Color.inPixels] using (iff_of_eq named).symm
    calc
      picture.palette.size = ((Color.inPixels pixels).image some).card := by
        rw [Finset.card_image_of_injective _ (Option.some_injective Color),
          size_palette_of_ofPixels indexed]
      _ ≤ picture.raster.indices.toList.toFinset.card := by
        rw [shown]
        exact Finset.card_image_le

end Read

theorem exists_ofPixels_iff {pixels : Bytes} {size : Size} {limit : Nat} :
    (∃ picture, (ofPixels pixels size limit).outcome = .ok picture) ↔
      pixels.size = size.pixelCount * 3 ∧
        (Color.inPixels pixels).card ≤ min limit 256 := by
  constructor
  · intro reads
    obtain ⟨picture, indexed⟩ := reads
    refine ⟨(outcome_ofPixels_eq_ok_iff.mp indexed).1, ?_⟩
    rw [← size_palette_of_ofPixels indexed]
    exact size_palette_le_of_ofPixels indexed
  · intro parts
    obtain ⟨whole, few⟩ := parts
    obtain ⟨last, read⟩ : ∃ last, (Color.ofBytes pixels).toList.foldlM
        (Indexing.add (min limit 256)) ⟨#[], #[]⟩ = .ok last :=
      (collects_empty (min limit 256)).exists_run_iff.mpr few
    rw [Array.foldlM_toList] at read
    have count := congrArg List.length (names_of_foldlM read).named
    have size_indices : last.indices.size = size.pixelCount := by
      simp only [List.length_map, Array.length_toList, Color.size_ofBytes] at count
      omega
    exact ⟨⟨last.palette, ⟨size, last.indices, size_indices⟩⟩,
      outcome_ofPixels_eq_ok_iff.mpr ⟨whole, rfl, read⟩⟩

end ChunkyPicture

end ChunkyPlanar
