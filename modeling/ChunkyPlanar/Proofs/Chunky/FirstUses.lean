import Mathlib
import ChunkyPlanar.Proofs.Chunky.Colors
import ChunkyPlanar.Proofs.FirstUse

/-! Palettes that list colors in the order of their first use. Of all pictures that show
the same pixels, only one has such a palette. -/

namespace ChunkyPlanar

/-- The different colors of pixels, in the order of their first use. -/
def Color.firstUses (pixels : Bytes) : List Color := (ofBytes pixels).toList.eraseDups

theorem Color.length_firstUses (pixels : Bytes) :
    (firstUses pixels).length = (inPixels pixels).card := by
  have same : (firstUses pixels).toFinset = inPixels pixels := by
    ext color
    rw [firstUses, inPixels, List.mem_toFinset, List.mem_toFinset, List.mem_eraseDups]
  have nodup : (firstUses pixels).Nodup := FirstUse.nodup_eraseDups _
  rw [← same, List.toFinset_card_of_nodup nodup]

namespace ChunkyPicture

/-- The place of the first pixel that has an entry of the palette. -/
def firstUse (picture : ChunkyPicture) (entry : Nat) : Nat :=
  (picture.raster.indices.toList.map UInt8.toNat).idxOf entry

/-- The palette has no color twice and none that is not in use, and the pixels come to
its entries in ascending order. -/
structure ListsFirstUses (picture : ChunkyPicture) : Prop where
  nodup : picture.palette.toList.Nodup
  used : ∀ entry < picture.palette.size,
    ∃ index ∈ picture.raster.indices, index.toNat = entry
  ascending : ∀ later < picture.palette.size, ∀ earlier < later,
    picture.firstUse earlier < picture.firstUse later

instance (picture : ChunkyPicture) : Decidable picture.ListsFirstUses :=
  decidable_of_iff (picture.palette.toList.Nodup ∧
      (∀ entry < picture.palette.size,
        ∃ index ∈ picture.raster.indices, index.toNat = entry) ∧
      ∀ later < picture.palette.size, ∀ earlier < later,
        picture.firstUse earlier < picture.firstUse later)
    ⟨fun parts => ⟨parts.1, parts.2.1, parts.2.2⟩,
      fun lists => ⟨lists.nodup, lists.used, lists.ascending⟩⟩

theorem ListsFirstUses.size_palette_le {picture : ChunkyPicture}
    (lists : picture.ListsFirstUses) : picture.palette.size ≤ 256 := by
  by_contra many
  obtain ⟨index, _, last⟩ := lists.used 256 (by omega)
  have small := index.toNat_lt
  omega

/-- The entries come in the order `0, 1, …`. -/
theorem eraseDups_indices_eq_range_iff {picture : ChunkyPicture}
    (within : ∀ index ∈ picture.raster.indices, index.toNat < picture.palette.size) :
    (picture.raster.indices.toList.map UInt8.toNat).eraseDups =
        List.range picture.palette.size ↔
      (∀ entry < picture.palette.size,
        ∃ index ∈ picture.raster.indices, index.toNat = entry) ∧
      ∀ later < picture.palette.size, ∀ earlier < later,
        picture.firstUse earlier < picture.firstUse later := by
  rw [FirstUse.eraseDups_eq_iff]
  refine and_congr ?_ ?_
  · simp only [List.mem_range, List.mem_map, Array.mem_toList_iff]
    refine forall_congr' fun entry => ⟨Iff.mp, fun used => ⟨used, ?_⟩⟩
    rintro ⟨index, member, rfl⟩
    exact within index member
  · rw [List.pairwise_iff_getElem]
    simp only [List.length_range, List.getElem_range]
    constructor
    · intro ascending later inside earlier before
      exact ascending earlier later (before.trans inside) inside before
    · intro ascending earlier later _ inside before
      exact ascending later inside earlier before

section Named

variable {picture : ChunkyPicture} {colors : List Color}
  (names : Indexing.Names ⟨picture.palette, picture.raster.indices⟩ colors)
  (nodup : picture.palette.toList.Nodup)

include names

theorem mem_palette_of_names {color : Color} (shown : color ∈ colors) :
    color ∈ picture.palette.toList := by
  have named : some color ∈ colors.map some := List.mem_map_of_mem shown
  rw [← names.named] at named
  obtain ⟨index, _, found⟩ := List.mem_map.mp named
  exact Array.mem_toList_iff.mpr (Array.mem_of_getElem? found)

include nodup

/-- Each pixel has the place of its color in the palette. -/
theorem indices_of_names :
    picture.raster.indices.toList.map UInt8.toNat =
      colors.map picture.palette.toList.idxOf := by
  have places := congrArg
    (List.map fun color => color.elim 0 picture.palette.toList.idxOf) names.named
  simp only [List.map_map, Function.comp_def, Option.elim_some] at places
  rw [← places]
  apply List.map_congr_left
  intro index member
  have inside := names.inside member
  have inside' : index.toNat < picture.palette.toList.length := by simpa using inside
  rw [Array.getElem?_eq_getElem inside, Option.elim_some, ← Array.getElem_toList inside',
    nodup.idxOf_getElem]

theorem eraseDups_indices_of_names :
    (picture.raster.indices.toList.map UInt8.toNat).eraseDups =
      colors.eraseDups.map picture.palette.toList.idxOf := by
  rw [indices_of_names names nodup, FirstUse.eraseDups_map]
  intro first firstShown second _ same
  exact (List.idxOf_inj (mem_palette_of_names names firstShown)).mp same

theorem listsFirstUses_iff_of_names :
    picture.ListsFirstUses ↔ picture.palette.toList = colors.eraseDups := by
  have within : ∀ index ∈ picture.raster.indices,
      index.toNat < picture.palette.size := fun index member =>
    names.inside (Array.mem_toList_iff.mpr member)
  have entries : picture.palette.toList.map picture.palette.toList.idxOf =
      List.range picture.palette.size := by
    apply List.ext_getElem
    · simp
    · intro entry _ _
      rw [List.getElem_map, nodup.idxOf_getElem, List.getElem_range]
  have ordered : picture.ListsFirstUses ↔
      colors.eraseDups.map picture.palette.toList.idxOf =
        picture.palette.toList.map picture.palette.toList.idxOf := by
    rw [entries, ← eraseDups_indices_of_names names nodup,
      eraseDups_indices_eq_range_iff within]
    exact ⟨fun lists => ⟨lists.used, lists.ascending⟩,
      fun parts => ⟨nodup, parts.1, parts.2⟩⟩
  rw [ordered]
  constructor
  · intro same
    -- Looking the places up again gives the colors back.
    have looked : ∀ listed : List Color,
        (∀ color ∈ listed, color ∈ picture.palette.toList) →
        (listed.map picture.palette.toList.idxOf).map (picture.palette.toList[·]?) =
          listed.map some := by
      intro listed known
      rw [List.map_map]
      apply List.map_congr_left
      intro color member
      exact List.getElem?_idxOf (known color member)
    have again := congrArg (List.map (picture.palette.toList[·]?)) same
    rw [looked _ fun color used => mem_palette_of_names names (List.mem_eraseDups.mp used),
      looked _ fun _ => id] at again
    exact (List.map_injective_iff.mpr (Option.some_injective Color) again).symm
  · rintro listed
    rw [← listed]

end Named

section Shown

variable {picture : ChunkyPicture} {pixels : Bytes}
  (shown : picture.toPixels.outcome = .ok pixels)

include shown

theorem within_of_toPixels :
    ∀ index ∈ picture.raster.indices, index.toNat < picture.palette.size := by
  apply Raster.checkWithin_eq_ok_iff.mp
  unfold toPixels at shown
  rw [Logged.outcome_silent] at shown
  cases checked : picture.raster.checkWithin picture.palette.size with
  | ok => rfl
  | error error =>
      rw [checked] at shown
      cases shown

theorem eq_flatMap_of_toPixels :
    pixels = (picture.raster.indices.map fun index =>
      picture.palette.getD index.toNat .black).flatMap Color.toBytes := by
  rw [outcome_toPixels_of_within (within_of_toPixels shown)] at shown
  rw [Array.flatMap_map]
  exact (Except.ok.inj shown).symm

theorem size_of_toPixels : pixels.size = picture.raster.pixelCount * 3 := by
  rw [eq_flatMap_of_toPixels shown,
    Bytes.size_arrayFlatMap_of_uniform Color.size_toBytes, Array.size_map,
    picture.raster.size_indices, Nat.mul_comm]

theorem names_of_toPixels (small : picture.palette.size ≤ 256) :
    Indexing.Names ⟨picture.palette, picture.raster.indices⟩
      (Color.ofBytes pixels).toList := by
  refine ⟨small, ?_⟩
  rw [eq_flatMap_of_toPixels shown, Color.ofBytes_flatMap_toBytes, Array.toList_map,
    List.map_map]
  apply List.map_congr_left
  intro index member
  have inside := within_of_toPixels shown index (Array.mem_toList_iff.mp member)
  simp [Array.getD, inside]

end Shown

/-- The first uses settle the palette, and the palette settles the indices. -/
theorem eq_of_listsFirstUses {first second : ChunkyPicture} {pixels : Bytes}
    (firstLists : first.ListsFirstUses) (secondLists : second.ListsFirstUses)
    (size : first.raster.toSize = second.raster.toSize)
    (firstShown : first.toPixels.outcome = .ok pixels)
    (secondShown : second.toPixels.outcome = .ok pixels) : first = second := by
  have firstNames := names_of_toPixels firstShown firstLists.size_palette_le
  have secondNames := names_of_toPixels secondShown secondLists.size_palette_le
  have palette : first.palette = second.palette := by
    apply Array.toList_inj.mp
    rw [(listsFirstUses_iff_of_names firstNames firstLists.nodup).mp firstLists,
      (listsFirstUses_iff_of_names secondNames secondLists.nodup).mp secondLists]
  have indices : first.raster.indices = second.raster.indices := by
    apply Array.toList_inj.mp
    apply List.map_injective_iff.mpr (fun _ _ => UInt8.toNat_inj.mp)
    rw [indices_of_names firstNames firstLists.nodup,
      indices_of_names secondNames secondLists.nodup, palette]
  cases first
  cases second
  cases palette
  cases Raster.ext_indices size indices
  rfl

end ChunkyPicture

end ChunkyPlanar
