import Mathlib
import ChunkyPlanar.Proofs.Picture.Encoding

/-! Encodings are canonical. Of the palette they show the colors in use, as words and in
the order of their indices, and of the raster the ranks of its indices. -/

namespace ChunkyPlanar

/-- The second picture gives the indices in use other names in the same order, and its
colors under these names are stored as the same words. -/
structure ChunkyPicture.Renames (first second : ChunkyPicture)
    (rename : UInt8 → UInt8) : Prop where
  size : second.raster.toSize = first.raster.toSize
  indices : second.raster.indices = first.raster.indices.map rename
  increasing : ∀ index ∈ first.raster.indices, ∀ other ∈ first.raster.indices,
    index < other → rename index < rename other
  colors : ∀ index ∈ first.raster.indices, ∃ color similar,
    first.palette[index.toNat]? = some color ∧
      second.palette[(rename index).toNat]? = some similar ∧
      similar.toWord = color.toWord

namespace ChunkyPicture.Renames

variable {first second : ChunkyPicture} {rename : UInt8 → UInt8}
  (renames : Renames first second rename)

include renames

theorem mem_iff {index : UInt8} :
    index ∈ second.raster.indices ↔ ∃ name ∈ first.raster.indices, rename name = index := by
  rw [renames.indices, Array.mem_map]

theorem within_first : ∀ index ∈ first.raster.indices,
    index.toNat < first.palette.size := by
  intro index member
  obtain ⟨_, _, found, _⟩ := renames.colors index member
  exact (Array.getElem?_eq_some_iff.mp found).1

theorem within_second : ∀ index ∈ second.raster.indices,
    index.toNat < second.palette.size := by
  intro index member
  obtain ⟨name, used, rfl⟩ := renames.mem_iff.mp member
  obtain ⟨_, _, _, found, _⟩ := renames.colors name used
  exact (Array.getElem?_eq_some_iff.mp found).1

/-- Both lists ascend and have the same members. -/
theorem members_eq :
    (Compaction.ofRaster second.raster).members =
      (Compaction.ofRaster first.raster).members.map rename := by
  have ascending : ((Compaction.ofRaster first.raster).members.map rename).Pairwise
      (· < ·) := by
    rw [List.pairwise_map]
    refine (Compaction.ofRaster first.raster).ascending.imp_of_mem ?_
    intro index other used otherUsed
    exact renames.increasing index (Compaction.mem_ofRaster.mp used) other
      (Compaction.mem_ofRaster.mp otherUsed)
  refine (Compaction.ofRaster second.raster).ascending.eq_of_mem_iff ascending ?_
  intro index
  simp [renames.mem_iff]

theorem rank?_rename {index : UInt8} (member : index ∈ first.raster.indices) :
    (Compaction.ofRaster second.raster).rank? (rename index) =
      (Compaction.ofRaster first.raster).rank? index := by
  obtain ⟨rank, ranked⟩ := Option.isSome_iff_exists.mp
    ((Compaction.isSome_rank?_iff _).mpr (Compaction.mem_ofRaster.mpr member))
  have named := (Compaction.rank?_eq_some_iff _).mp ranked
  rw [ranked, Compaction.rank?_eq_some_iff, Compaction.member?, renames.members_eq,
    List.getElem?_map]
  exact congrArg (Option.map rename) named

theorem apply_second {ranks : Raster}
    (applied : (Compaction.ofRaster first.raster).apply first.raster = .ok ranks) :
    (Compaction.ofRaster second.raster).apply second.raster = .ok ranks := by
  obtain ⟨size, labels⟩ := Raster.relabel_eq_ok_iff.mp applied
  refine Raster.relabel_eq_ok_iff.mpr ⟨size.trans renames.size.symm, ?_⟩
  rw [renames.indices, Array.map_map, ← labels]
  exact Array.map_congr_left fun _ => renames.rank?_rename

theorem ofUsed_eq (slots : Nat) :
    HardwarePalette.ofUsed second.palette
        (Compaction.ofRaster second.raster).members slots =
      HardwarePalette.ofUsed first.palette
        (Compaction.ofRaster first.raster).members slots := by
  have words : (Compaction.ofRaster second.raster).members.map (fun index =>
      (second.palette.getD index.toNat .black).toWord) =
      (Compaction.ofRaster first.raster).members.map fun index =>
        (first.palette.getD index.toNat .black).toWord := by
    rw [renames.members_eq, List.map_map]
    apply List.map_congr_left
    intro index member
    obtain ⟨color, similar, found, foundSimilar, same⟩ :=
      renames.colors index (Compaction.mem_ofRaster.mp member)
    simp [Array.getD_eq_getD_getElem?, found, foundSimilar, same]
  simp only [HardwarePalette.ofUsed, words]

theorem size_eq :
    (Compaction.ofRaster second.raster).size = (Compaction.ofRaster first.raster).size := by
  rw [Compaction.size, renames.members_eq, List.length_map, Compaction.size]

end ChunkyPicture.Renames

namespace PlanarPicture

/-! An encoding looks at a picture's size and otherwise at its ranks only. -/

theorem rankBy_of_slots {slots : Nat}
    (outside : slots = 0 ∨ HardwarePalette.maxSize < slots) (picture : ChunkyPicture) :
    rankBy compact picture slots =
      .fail s!"Slot count {slots} is out of range" (.palette (.slotsOutOfRange slots)) := by
  unfold rankBy
  rw [ChunkyPicture.reduce_of_slots outside, Logged.mapError_fail, Logged.bind_eq,
    Logged.bind_fail]

theorem rankBy_of_within {picture : ChunkyPicture} {slots : Nat} {ranks : Raster}
    (inside : ¬ (slots = 0 ∨ HardwarePalette.maxSize < slots))
    (few : picture.palette.size ≤ slots)
    (within : ∀ index ∈ picture.raster.indices, index.toNat < picture.palette.size)
    (applied : (Compaction.ofRaster picture.raster).apply picture.raster = .ok ranks) :
    rankBy compact picture slots =
      .succeed (.ofUsed picture.palette (Compaction.ofRaster picture.raster).members slots,
        (Compaction.ofRaster picture.raster).size, ranks) := by
  have compacted := (compact_ofRaster picture.raster).trans applied
  unfold rankBy
  rw [ChunkyPicture.reduce_of_within inside (not_lt.mpr few) within,
    Logged.mapError_succeed]
  simp only [Logged.bind_eq, Logged.bind_succeed, compacted]
  rfl

section Renamed

variable {first second : ChunkyPicture} {rename : UInt8 → UInt8} {profile : Profile}
  (renames : ChunkyPicture.Renames first second rename)
  (few : first.palette.size ≤ profile.slots) (fewSecond : second.palette.size ≤ profile.slots)

include renames few fewSecond

theorem rankBy_of_renames :
    rankBy compact second profile.slots = rankBy compact first profile.slots := by
  by_cases outside : profile.slots = 0 ∨ HardwarePalette.maxSize < profile.slots
  · rw [rankBy_of_slots outside, rankBy_of_slots outside]
  · obtain ⟨ranks, applied⟩ := Compaction.exists_apply_ofRaster first.raster
    rw [rankBy_of_within outside few renames.within_first applied,
      rankBy_of_within outside fewSecond renames.within_second
        (renames.apply_second applied),
      renames.ofUsed_eq, renames.size_eq]

theorem ofChunky_of_renames : ofChunky first profile = ofChunky second profile := by
  unfold ofChunky ofChunkyBy
  rw [renames.size, rankBy_of_renames renames few fewSecond]

end Renamed

/-- The second part keeps the raster, so all that its palettes have in common is the words
of the colors in use. -/
theorem ofChunky_canonical :
    (∀ first second rename profile, ChunkyPicture.Renames first second rename →
      first.palette.size ≤ profile.slots → second.palette.size ≤ profile.slots →
      ofChunky first profile = ofChunky second profile) ∧
    ∀ (raster : Raster) (palette other : Array Color) (profile : Profile),
      palette.size ≤ profile.slots → other.size ≤ profile.slots →
      (∀ index ∈ raster.indices, ∃ color similar, palette[index.toNat]? = some color ∧
        other[index.toNat]? = some similar ∧ similar.toWord = color.toWord) →
      ofChunky ⟨palette, raster⟩ profile = ofChunky ⟨other, raster⟩ profile := by
  refine ⟨fun _ _ _ _ => ofChunky_of_renames, ?_⟩
  intro raster palette other profile few fewOther colors
  have renames : ChunkyPicture.Renames ⟨palette, raster⟩ ⟨other, raster⟩ id :=
    ⟨rfl, (Array.map_id raster.indices).symm, fun _ _ _ _ less => less, colors⟩
  exact ofChunky_of_renames renames few fewOther

theorem ofChunky_canonical_row :
    let profile : Profile := { slots := 4, depth? := some 1 }
    let first : ChunkyPicture :=
      ⟨#[⟨255, 0, 0⟩, ⟨16, 32, 48⟩], ⟨⟨8, 1⟩, #[1, 0, 1, 1, 0, 0, 0, 1], rfl⟩⟩
    let second : ChunkyPicture :=
      ⟨#[.black, ⟨240, 15, 7⟩, ⟨9, 9, 9⟩, ⟨31, 47, 63⟩],
        ⟨⟨8, 1⟩, #[3, 1, 3, 3, 1, 1, 1, 3], rfl⟩⟩
    let other : Array Color := #[⟨255, 255, 255⟩, ⟨247, 8, 8⟩, .black, ⟨16, 32, 48⟩]
    let rename : UInt8 → UInt8 := fun index => 2 * index + 1
    let planar : PlanarPicture := ⟨⟨8, 1⟩, ⟨#[0x00F, 0x321, 0, 0]⟩, [⟨0, #[0xB1]⟩]⟩
    ChunkyPicture.Renames first second rename ∧
      (ofChunky first profile).outcome = .ok planar ∧
      ofChunky first profile = ofChunky second profile ∧
      ofChunky second profile = ofChunky ⟨other, second.raster⟩ profile := by
  intro profile first second other rename planar
  obtain ⟨encodes, indices, increasing, used, usedSecond⟩ :
      (ofChunky first profile).outcome = .ok planar ∧
      second.raster.indices = first.raster.indices.map rename ∧
      (∀ index ∈ first.raster.indices, ∀ other ∈ first.raster.indices,
        index < other → rename index < rename other) ∧
      (∀ index ∈ first.raster.indices, index = 0 ∨ index = 1) ∧
      ∀ index ∈ second.raster.indices, index = 1 ∨ index = 3 := by
    decide +kernel +revert
  have renames : ChunkyPicture.Renames first second rename := by
    refine ⟨rfl, indices, increasing, fun index member => ?_⟩
    rcases used index member with rfl | rfl
    · exact ⟨⟨255, 0, 0⟩, ⟨240, 15, 7⟩, rfl, rfl, by decide⟩
    · exact ⟨⟨16, 32, 48⟩, ⟨31, 47, 63⟩, rfl, rfl, by decide⟩
  refine ⟨renames, encodes,
    ofChunky_canonical.1 first second rename profile renames (by decide) (by decide),
    ofChunky_canonical.2 second.raster second.palette other profile (by decide)
      (by decide) fun index member => ?_⟩
  rcases usedSecond index member with rfl | rfl
  · exact ⟨⟨240, 15, 7⟩, ⟨247, 8, 8⟩, rfl, rfl, by decide⟩
  · exact ⟨⟨31, 47, 63⟩, ⟨16, 32, 48⟩, rfl, rfl, by decide⟩

end PlanarPicture

end ChunkyPlanar
