import Mathlib
import ChunkyPlanar.Proofs.Color
import ChunkyPlanar.Proofs.Machine.Remap
import ChunkyPlanar.Proofs.Palette.Reduction

/-! Verdicts on reductions: the first fault, or a palette and a remap that hold the colors in
use and nothing else. Any raster will do, also one that no planes can cover. -/

namespace ChunkyPlanar

theorem Color.toWord_le (color : Color) : color.toWord ≤ 0x0FFF := by
  have red := color.red.toNat_lt
  have green := color.green.toNat_lt
  have blue := color.blue.toNat_lt
  rw [UInt16.le_iff_toNat_le, toNat_toWord]
  change _ ≤ 4095
  omega

namespace HardwarePalette

variable {palette : Array Color} {used : List UInt8} {slots : Nat}

theorem get?_ofUsed_of_le {slot : Nat} (past : used.length ≤ slot)
    (inside : slot < slots) : (ofUsed palette used slots).get? slot = some 0 := by
  unfold ofUsed get?
  rw [List.getElem?_toArray, List.getElem?_append_right (by simpa using past),
    List.length_map, List.getElem?_replicate, if_pos (by omega)]

theorem le_of_mem_ofUsed {word : UInt16}
    (member : word ∈ (ofUsed palette used slots).words) : word ≤ 0x0FFF := by
  unfold ofUsed at member
  rw [List.mem_toArray] at member
  rcases List.mem_append.mp member with stored | padded
  · obtain ⟨index, _, rfl⟩ := List.mem_map.mp stored
    exact Color.toWord_le _
  · rw [List.eq_of_mem_replicate padded]
    exact UInt16.zero_le

end HardwarePalette

namespace ChunkyPicture

open Machine

/-- What a reduction leaves: each index in use has a rank, its rank names the slot of its
color, the slots past the ranks are black, and the ranks in use are all there are. -/
structure Reduces (picture : ChunkyPicture) (slots : Nat) (palette : HardwarePalette)
    (remap : Remap) : Prop where
  size : palette.size = slots
  ranked : ∀ index, (remap.rank? index).isSome ↔ index ∈ picture.raster.indices
  colored : ∀ index rank, remap.rank? index = some rank →
    ∃ color, picture.palette[index.toNat]? = some color ∧
      palette.get? rank.toNat = some color.toWord
  black : ∀ slot, remap.size ≤ slot → slot < slots → palette.get? slot = some 0
  small : ∀ word ∈ palette.words, word ≤ 0x0FFF
  applied : ∃ ranks, remap.apply picture.raster = .done (.succeed ranks) ∧
    ∀ number, (∃ rank ∈ ranks.indices, rank.toNat = number) ↔ number < remap.size

theorem reduces_ofUsed {picture : ChunkyPicture} {slots : Nat}
    (few : picture.palette.size ≤ slots)
    (within : ∀ index ∈ picture.raster.indices, index.toNat < picture.palette.size) :
    picture.Reduces slots
      (.ofUsed picture.palette (Compaction.ofRaster picture.raster).members slots)
      (Compaction.ofRaster picture.raster).toRemap where
  size := HardwarePalette.size_ofUsed
    (Nat.le_trans (Compaction.size_ofRaster_le_of_within within) few)
  ranked := by
    intro index
    rw [Remap.rank?_toRemap, Compaction.isSome_rank?_iff, Compaction.mem_ofRaster]
  colored := by
    intro index rank ranked
    rw [Remap.rank?_toRemap] at ranked
    have named := (Compaction.rank?_eq_some_iff _).mp ranked
    have used := Compaction.mem_ofRaster.mp (List.mem_of_getElem? named)
    have color := Array.getElem?_eq_getElem (within index used)
    exact ⟨_, color, HardwarePalette.get?_ofUsed named color⟩
  black := fun _ past inside => HardwarePalette.get?_ofUsed_of_le past inside
  small := fun _ member => HardwarePalette.le_of_mem_ofUsed member
  applied := by
    obtain ⟨ranks, applied⟩ := Compaction.exists_apply_ofRaster picture.raster
    refine ⟨ranks, ?_, Compaction.exists_mem_ranks_iff applied⟩
    rw [Remap.apply_toRemap, applied]
    rfl

/-- What comes of a reduction: the first fault, in the order in which faults are looked
for, or a palette of the asked size with its remap. -/
def ReductionVerdict (picture : ChunkyPicture) (slots : Nat)
    (outcome : Except PaletteError (HardwarePalette × Remap)) : Prop :=
  let colors := picture.palette.size
  if slots = 0 ∨ 256 < slots then
    outcome = .error (.slotsOutOfRange slots)
  else if slots < colors then
    outcome = .error (.tooManyColors colors slots)
  else if ∃ index ∈ picture.raster.indices, colors ≤ index.toNat then
    ∃ index, IsLeast {index | index ∈ picture.raster.indices ∧ colors ≤ index.toNat}
        index ∧
      outcome = .error (.missingColor index colors)
  else
    ∃ palette remap, outcome = .ok (palette, remap) ∧ picture.Reduces slots palette remap

theorem reductionVerdict_reduce (picture : ChunkyPicture) (slots : Nat) :
    ReductionVerdict picture slots
      ((picture.reduce slots).outcome.map (Prod.map id Compaction.toRemap)) := by
  dsimp only [ReductionVerdict]
  refine ite_prop_iff_and.mpr ⟨fun outside => ?_, fun inside => ?_⟩
  · rw [outcome_reduce_of_slots outside]
    rfl
  refine ite_prop_iff_and.mpr ⟨fun many => ?_, fun few => ?_⟩
  · rw [outcome_reduce_of_colors inside many]
    rfl
  refine ite_prop_iff_and.mpr ⟨fun missing => ?_, fun present => ?_⟩
  · obtain ⟨index, least, refused⟩ := outcome_reduce_of_missing inside few missing
    rw [refused]
    exact ⟨index, least, rfl⟩
  · have within : ∀ index ∈ picture.raster.indices,
        index.toNat < picture.palette.size := by
      simpa using present
    rw [outcome_reduce_of_within inside few within]
    exact ⟨_, _, rfl, reduces_ofUsed (not_lt.mp few) within⟩

/-- The machine, which keeps a table and a list of the indices in use, makes of them what
compactions make. -/
theorem verdict_reduce (picture : ChunkyPicture) (slots : Nat) :
    (∃ result, Machine.reduce picture slots = .done result ∧
      ReductionVerdict picture slots result.outcome) ∧
    Machine.reduce picture slots =
      .done (Prod.map id Compaction.toRemap <$> picture.reduce slots) := by
  have ran := Machine.reduce_eq picture slots
  refine ⟨⟨_, ran, ?_⟩, ran⟩
  rw [Logged.outcome_map]
  exact reductionVerdict_reduce picture slots

end ChunkyPicture

end ChunkyPlanar
