import Mathlib
import ChunkyPlanar.Proofs.Chunky.FirstUses
import ChunkyPlanar.Proofs.Machine.Indexing

/-! Verdicts on pixels: the first of their faults, or the one picture that shows them
and lists their colors in the order of first use. -/

namespace ChunkyPlanar.ChunkyPicture

/-! The palette of an indexing lists the first uses of the colors read. -/

namespace Indexing

variable {indexing next last : Indexing} {capacity : Nat} {color : Color}
  {seen colors : List Color}

theorem listed_of_add (listed : indexing.palette.toList = seen.eraseDups)
    (added : indexing.add capacity color = .ok next) :
    next.palette.toList = (seen ++ [color]).eraseDups := by
  have known : color ∈ indexing.palette ↔ color ∈ seen := by
    rw [← Array.mem_toList_iff, listed, List.mem_eraseDups]
  rcases add_cases added with ⟨index, found, rfl⟩ | ⟨new, _, rfl⟩
  · have old := known.mp (Array.mem_of_getElem? found)
    rw [FirstUse.eraseDups_append_of_mem old, ← listed]
  · rw [FirstUse.eraseDups_append_of_notMem (mt known.mpr new), ← listed,
      Array.toList_push]

theorem listed_of_run (listed : indexing.palette.toList = seen.eraseDups)
    (read : colors.foldlM (Indexing.add capacity) indexing = .ok last) :
    last.palette.toList = (seen ++ colors).eraseDups :=
  run_induction (motive := fun indexing seen => indexing.palette.toList = seen.eraseDups)
    (fun _ _ _ _ listed added => listed_of_add listed added) listed read

end Indexing

theorem outcome_ofPixels_of_length {pixels : Bytes} {size : Size} {limit : Nat}
    (other : pixels.size ≠ size.pixelCount * 3) :
    (ofPixels pixels size limit).outcome =
      .error (.wrongByteCount (size.pixelCount * 3) pixels.size) := by
  unfold ofPixels
  rw [if_neg other, Logged.outcome_fail]

theorem outcome_ofPixels_of_many {pixels : Bytes} {size : Size} {limit : Nat}
    (whole : pixels.size = size.pixelCount * 3)
    (many : min limit 256 < (Color.firstUses pixels).length) :
    (ofPixels pixels size limit).outcome =
      .error (.tooManyColors limit (min limit 256 + 1)) := by
  have start := collects_empty (min limit 256)
  unfold ofPixels
  rw [if_pos whole, ← Array.foldlM_toList]
  cases read : (Color.ofBytes pixels).toList.foldlM
      (Indexing.add (min limit 256)) ⟨#[], #[]⟩ with
  | ok last =>
      have few : (Color.inPixels pixels).card ≤ min limit 256 :=
        start.exists_run_iff.mp ⟨last, read⟩
      rw [Color.length_firstUses] at many
      omega
  | error ordinal =>
      cases start.ordinal_of_run read
      simp only [Logged.outcome_fail]

section Read

variable {pixels : Bytes} {size : Size} {limit : Nat} {picture : ChunkyPicture}
  (indexed : (ofPixels pixels size limit).outcome = .ok picture)

include indexed

theorem palette_of_ofPixels : picture.palette.toList = Color.firstUses pixels := by
  have read := (outcome_ofPixels_eq_ok_iff.mp indexed).2.2
  have start : (#[] : Array Color).toList = ([] : List Color).eraseDups := rfl
  rw [← Array.foldlM_toList] at read
  exact Indexing.listed_of_run start read

theorem listsFirstUses_of_ofPixels : picture.ListsFirstUses :=
  (listsFirstUses_iff_of_names (names_of_ofPixels indexed)
    (collects_of_ofPixels indexed).nodup).mpr (palette_of_ofPixels indexed)

end Read

/-- What comes of reading pixels: the first fault, in the order in which faults are
looked for, or a picture that shows the pixels. -/
def Verdict (pixels : Bytes) (size : Size) (limit : Nat)
    (outcome : Except ChunkyError ChunkyPicture) : Prop :=
  let colors := Color.firstUses pixels
  let capacity := min limit 256
  if pixels.size ≠ size.pixelCount * 3 then
    outcome = .error (.wrongByteCount (size.pixelCount * 3) pixels.size)
  else if capacity < colors.length then
    outcome = .error (.tooManyColors limit (capacity + 1))
  else
    ∃ picture, outcome = .ok picture ∧ picture.palette.toList = colors ∧
      picture.raster.toSize = size ∧
      (∀ index ∈ picture.raster.indices, index.toNat < colors.length) ∧
      picture.ListsFirstUses ∧ picture.toPixels.outcome = .ok pixels

theorem Verdict.ne_raster {pixels : Bytes} {size : Size} {limit : Nat}
    {outcome : Except ChunkyError ChunkyPicture}
    (verdict : Verdict pixels size limit outcome) (error : RasterError) :
    outcome ≠ .error (.raster error) := by
  rintro rfl
  dsimp only [Verdict] at verdict
  split_ifs at verdict <;> simp at verdict

theorem verdict_outcome_ofPixels (pixels : Bytes) (size : Size) (limit : Nat) :
    Verdict pixels size limit (ofPixels pixels size limit).outcome := by
  dsimp only [Verdict]
  refine ite_prop_iff_and.mpr ⟨outcome_ofPixels_of_length, fun whole => ?_⟩
  have whole := not_not.mp whole
  refine ite_prop_iff_and.mpr ⟨outcome_ofPixels_of_many whole, fun few => ?_⟩
  rw [Color.length_firstUses, not_lt] at few
  obtain ⟨picture, indexed⟩ := exists_ofPixels_iff.mpr ⟨whole, few⟩
  obtain ⟨sized, shown⟩ := toPixels_ofPixels indexed
  refine ⟨picture, indexed, palette_of_ofPixels indexed, sized, fun index member => ?_,
    listsFirstUses_of_ofPixels indexed, shown⟩
  rw [← palette_of_ofPixels indexed, Array.length_toList]
  exact within_of_ofPixels indexed index member

/-- The machine, which looks colors up in its table, reads the same picture. No limit is
asked of the other picture: it may have any palette whose entries the pixels come to in
ascending order. -/
theorem verdict_ofPixels (pixels : Bytes) (size : Size) (limit : Nat) :
    let outcome := (ofPixels pixels size limit).outcome
    Verdict pixels size limit outcome ∧
      (∀ other : ChunkyPicture, other.raster.toSize = size → other.ListsFirstUses →
        other.toPixels.outcome = .ok pixels →
        other.palette.toList = Color.firstUses pixels ∧
          ((Color.firstUses pixels).length ≤ limit → outcome = .ok other)) ∧
      (∀ error, outcome ≠ .error (.raster error)) ∧
      (size.pixelCount * 3 < UInt64.size →
        Machine.ofPixels pixels size limit = .done (ofPixels pixels size limit)) := by
  have verdict := verdict_outcome_ofPixels pixels size limit
  refine ⟨verdict, fun other sized lists shown => ?_, verdict.ne_raster,
    Machine.ofPixels_eq pixels limit⟩
  have names := names_of_toPixels shown lists.size_palette_le
  have palette : other.palette.toList = Color.firstUses pixels :=
    (listsFirstUses_iff_of_names names lists.nodup).mp lists
  refine ⟨palette, fun few => ?_⟩
  have most := lists.size_palette_le
  rw [← Array.length_toList, palette] at most
  have whole := size_of_toPixels shown
  rw [sized] at whole
  rw [Color.length_firstUses] at few most
  obtain ⟨picture, indexed⟩ := exists_ofPixels_iff.mpr ⟨whole, le_min few most⟩
  obtain ⟨sized', shown'⟩ := toPixels_ofPixels indexed
  rw [indexed, eq_of_listsFirstUses (listsFirstUses_of_ofPixels indexed) lists
    (sized'.trans sized.symm) shown' shown]

theorem verdict_ofPixels_row :
    let pixels : Bytes := #[0, 0, 255, 255, 0, 0, 0, 0, 255, 0, 255, 0]
    let other : ChunkyPicture :=
      ⟨#[⟨0, 0, 255⟩, ⟨255, 0, 0⟩, ⟨0, 255, 0⟩], ⟨⟨4, 1⟩, #[0, 1, 0, 2], rfl⟩⟩
    other.ListsFirstUses ∧ other.toPixels.outcome = .ok pixels ∧
      other.palette.toList = Color.firstUses pixels ∧
      (ofPixels pixels ⟨4, 1⟩ 3).outcome = .ok other ∧
      Machine.ofPixels pixels ⟨4, 1⟩ 3 = .done (ofPixels pixels ⟨4, 1⟩ 3) := by
  intro pixels other
  have lists : other.ListsFirstUses := by
    decide +kernel +revert
  have shown : other.toPixels.outcome = .ok pixels := by
    decide +kernel +revert
  have few : (Color.firstUses pixels).length ≤ 3 := by
    decide +kernel +revert
  obtain ⟨_, unique, _, ran⟩ := verdict_ofPixels pixels ⟨4, 1⟩ 3
  obtain ⟨palette, read⟩ := unique other rfl lists shown
  exact ⟨lists, shown, palette, read few, ran (by decide)⟩

end ChunkyPlanar.ChunkyPicture
