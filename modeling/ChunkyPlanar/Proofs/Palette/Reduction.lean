import Mathlib
import ChunkyPlanar.Palette.Reduction
import ChunkyPlanar.Proofs.Palette.Compaction

/-! What a reduction gives, slot by slot, and what it refuses. -/

namespace ChunkyPlanar

namespace HardwarePalette

variable {palette : Array Color} {used : List UInt8} {slots : Nat}

theorem size_ofUsed (fits : used.length ≤ slots) :
    (ofUsed palette used slots).size = slots := by
  simp [ofUsed, size, fits]

theorem get?_ofUsed {rank : Nat} {index : UInt8} {color : Color}
    (ranked : used[rank]? = some index)
    (colored : palette[index.toNat]? = some color) :
    (ofUsed palette used slots).get? rank = some color.toWord := by
  have inside : rank < used.length := (List.getElem?_eq_some_iff.mp ranked).1
  unfold ofUsed get?
  rw [List.getElem?_toArray, List.getElem?_append_left (by simpa using inside),
    List.getElem?_map, ranked, Option.map_some, Array.getD_eq_getD_getElem?, colored,
    Option.getD_some]

theorem words_ofUsed (within : ∀ index ∈ used, index.toNat < palette.size) :
    (ofUsed palette used slots).words.toList.map some =
      used.map (fun index => palette[index.toNat]?.map Color.toWord) ++
        List.replicate (slots - used.length) (some 0) := by
  have colored :
      used.map (fun index => some (palette.getD index.toNat .black).toWord) =
        used.map (fun index => palette[index.toNat]?.map Color.toWord) := by
    apply List.map_congr_left
    intro index member
    simp [within index member, Array.getD]
  simp [ofUsed, ← colored, Function.comp_def]

/-- Where the indices in use leave no gap, the colors stay in their order. -/
theorem words_ofUsed_of_gapless
    (gapless : used.map UInt8.toNat = List.range palette.size) :
    (ofUsed palette used slots).words.toList =
      palette.toList.map Color.toWord ++ List.replicate (slots - palette.size) 0 := by
  have colors : (List.range palette.size).map (palette.getD · .black) =
      palette.toList := by
    apply List.ext_getElem
    · simp
    · intro entry _ inside
      have small : entry < palette.size := by simpa using inside
      simp [Array.getD, small]
  have ordered : used.map (fun index => (palette.getD index.toNat .black).toWord) =
      palette.toList.map Color.toWord := by
    rw [← colors, ← gapless, List.map_map, List.map_map]
    rfl
  simp only [ofUsed, ordered, List.length_map, Array.length_toList]

end HardwarePalette

namespace ChunkyPicture

variable {picture : ChunkyPicture} {slots : Nat}

theorem reduce_of_slots (outside : slots = 0 ∨ HardwarePalette.maxSize < slots) :
    picture.reduce slots =
      .fail s!"Slot count {slots} is out of range" (.slotsOutOfRange slots) := by
  unfold reduce
  rw [if_pos outside]

theorem outcome_reduce_of_slots
    (outside : slots = 0 ∨ HardwarePalette.maxSize < slots) :
    (picture.reduce slots).outcome = .error (.slotsOutOfRange slots) := by
  rw [reduce_of_slots outside, Logged.outcome_fail]

theorem outcome_reduce_of_colors
    (inside : ¬ (slots = 0 ∨ HardwarePalette.maxSize < slots))
    (many : slots < picture.palette.size) :
    (picture.reduce slots).outcome =
      .error (.tooManyColors picture.palette.size slots) := by
  unfold reduce
  rw [if_neg inside, if_pos many, Logged.outcome_fail]

theorem outcome_reduce_of_missing
    (inside : ¬ (slots = 0 ∨ HardwarePalette.maxSize < slots))
    (few : ¬ slots < picture.palette.size)
    (missing : ∃ index ∈ picture.raster.indices,
      picture.palette.size ≤ index.toNat) :
    ∃ index, IsLeast {index | index ∈ picture.raster.indices ∧
        picture.palette.size ≤ index.toNat} index ∧
      (picture.reduce slots).outcome =
        .error (.missingColor index picture.palette.size) := by
  unfold reduce
  rw [if_neg inside, if_neg few]
  cases found : (Compaction.ofRaster picture.raster).members.find? fun index =>
      picture.palette.size ≤ index.toNat with
  | none =>
      obtain ⟨index, member, large⟩ := missing
      have passed := List.find?_eq_none.mp found index
        (Compaction.mem_ofRaster.mpr member)
      exact absurd (decide_eq_true large) passed
  | some index =>
      have least := Compaction.isLeast_of_find? found
      simp only [Compaction.mem_ofRaster, decide_eq_true_eq] at least
      simp only [found, Logged.outcome_fail]
      exact ⟨index, least, rfl⟩

theorem reduce_of_within
    (inside : ¬ (slots = 0 ∨ HardwarePalette.maxSize < slots))
    (few : ¬ slots < picture.palette.size)
    (within : ∀ index ∈ picture.raster.indices,
      index.toNat < picture.palette.size) :
    picture.reduce slots =
      .succeed (.ofUsed picture.palette
        (Compaction.ofRaster picture.raster).members slots,
        Compaction.ofRaster picture.raster) := by
  have unfound : (Compaction.ofRaster picture.raster).members.find?
      (fun index => picture.palette.size ≤ index.toNat) = none := by
    rw [List.find?_eq_none]
    intro index member
    have small := within index (Compaction.mem_ofRaster.mp member)
    simpa using small
  unfold reduce
  rw [if_neg inside, if_neg few]
  simp only [unfound]

theorem outcome_reduce_of_within
    (inside : ¬ (slots = 0 ∨ HardwarePalette.maxSize < slots))
    (few : ¬ slots < picture.palette.size)
    (within : ∀ index ∈ picture.raster.indices,
      index.toNat < picture.palette.size) :
    (picture.reduce slots).outcome =
      .ok (.ofUsed picture.palette
        (Compaction.ofRaster picture.raster).members slots,
        Compaction.ofRaster picture.raster) := by
  rw [reduce_of_within inside few within, Logged.outcome_succeed]

theorem outcome_reduce_eq_ok_iff {reduced : HardwarePalette × Compaction} :
    (picture.reduce slots).outcome = .ok reduced ↔
      ¬ (slots = 0 ∨ HardwarePalette.maxSize < slots) ∧
        ¬ slots < picture.palette.size ∧
        (∀ index ∈ picture.raster.indices, index.toNat < picture.palette.size) ∧
        reduced = (.ofUsed picture.palette
          (Compaction.ofRaster picture.raster).members slots,
          Compaction.ofRaster picture.raster) := by
  constructor
  · intro reduces
    by_cases outside : slots = 0 ∨ HardwarePalette.maxSize < slots
    · rw [outcome_reduce_of_slots outside] at reduces
      cases reduces
    by_cases many : slots < picture.palette.size
    · rw [outcome_reduce_of_colors outside many] at reduces
      cases reduces
    by_cases missing : ∃ index ∈ picture.raster.indices,
        picture.palette.size ≤ index.toNat
    · obtain ⟨index, _, refused⟩ := outcome_reduce_of_missing outside many missing
      rw [refused] at reduces
      cases reduces
    have within : ∀ index ∈ picture.raster.indices,
        index.toNat < picture.palette.size := by
      simpa using missing
    rw [outcome_reduce_of_within outside many within] at reduces
    cases reduces
    exact ⟨outside, many, within, rfl⟩
  · intro parts
    obtain ⟨inside, few, within, reduced⟩ := parts
    rw [reduced]
    exact outcome_reduce_of_within inside few within

end ChunkyPicture

end ChunkyPlanar
