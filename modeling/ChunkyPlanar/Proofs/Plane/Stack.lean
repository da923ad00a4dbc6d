import Mathlib
import ChunkyPlanar.Plane.Stack
import ChunkyPlanar.Proofs.Plane.Shape

/-! Splitting a raster into planes and stacking planes into a raster, bit by bit. A
raster that is split comes back when its planes are stacked, and planes that are
stacked come back, byte by byte, when their raster is split. -/

namespace ChunkyPlanar

namespace Plane

/-- Bit `number` of a stacked index comes from the plane in that place. -/
theorem testBit_stackIndex (planes : List Plane) (position number : Nat) :
    (stackIndex planes position).testBit number =
      planes[number]?.elim false (·.bitAt position) := by
  induction planes generalizing number with
  | nil => simp [stackIndex]
  | cons plane planes ih =>
      change Nat.testBit (2 * stackIndex planes position +
        (plane.bitAt position).toNat) number = _
      cases number with
      | zero =>
          cases bit : plane.bitAt position <;> simp [Nat.testBit_zero, bit]
      | succ number =>
          have rest : (2 * stackIndex planes position +
              (plane.bitAt position).toNat) / 2 = stackIndex planes position := by
            have small := Bool.toNat_lt (plane.bitAt position)
            omega
          rw [Nat.testBit_succ, rest, ih, List.getElem?_cons_succ]

theorem stackIndex_lt (planes : List Plane) (position : Nat) :
    stackIndex planes position < 2 ^ planes.length := by
  apply Nat.lt_pow_two_of_testBit
  intro number high
  rw [testBit_stackIndex, List.getElem?_eq_none high]
  rfl

theorem stackIndex_eq_sum (planes : List Plane) (position : Nat) :
    stackIndex planes position = ∑ number ∈ Finset.range planes.length,
      2 ^ number * (planes[number]?.elim false (·.bitAt position)).toNat := by
  induction planes with
  | nil => rfl
  | cons plane planes ih =>
      have later : ∑ number ∈ Finset.range planes.length, 2 ^ (number + 1) *
          ((plane :: planes)[number + 1]?.elim false (·.bitAt position)).toNat =
          2 * stackIndex planes position := by
        rw [ih, Finset.mul_sum]
        apply Finset.sum_congr rfl
        intro number _
        rw [List.getElem?_cons_succ, pow_succ]
        ring
      rw [List.length_cons, Finset.sum_range_succ', later]
      simp [stackIndex]

end Plane

namespace Raster

@[simp] theorem number_plane (raster : Raster) (number : Nat) :
    (raster.plane number).number = number := rfl

theorem size_bytes_plane {raster : Raster} (fills : raster.FillsPlanes)
    (number : Nat) :
    (raster.plane number).bytes.size =
      raster.width.toNat / 8 * raster.height.toNat := by
  rw [← fills.pixelCount_div_eight, ← raster.size_indices]
  exact Array.size_ofFn

theorem bitAt_plane {raster : Raster} (fills : raster.FillsPlanes) (number : Nat)
    {position : Nat} (inside : position < raster.indices.size) :
    (raster.plane number).bitAt position =
      raster.indices[position].toNat.testBit number := by
  have whole : raster.indices.size % 8 = 0 := by
    rw [raster.size_indices, fills.pixelCount_mod_eight]
  have byte : position / 8 < raster.indices.size / 8 := by omega
  have column : position % 8 < 8 := Nat.mod_lt _ (by decide)
  have place : 8 * (position / 8) + position % 8 = position :=
    Nat.div_add_mod position 8
  have packed : (raster.plane number).bytes.getD (position / 8) 0 =
      Byte.pack fun column =>
        raster.indices[8 * (position / 8) + column.val].toNat.testBit number := by
    simp [plane, Array.getD, byte]
  unfold Plane.bitAt
  rw [packed, Byte.bit_pack _ ⟨position % 8, column⟩]
  simp only [place]

theorem outcome_toPlanes_eq_ok_iff {raster : Raster} {depth : Nat}
    {planes : List Plane} :
    (raster.toPlanes depth).outcome = .ok planes ↔
      raster.FillsPlanes ∧ raster.requiredDepth ≤ depth ∧ depth ≤ maxDepth ∧
        planes = (List.range depth).map raster.plane := by
  unfold toPlanes requiredDepth
  simp only [Logged.bind_eq, Logged.outcome_bind_eq_ok_iff, Logged.pure_eq,
    Logged.outcome_succeed, Except.ok.injEq, Plane.outcome_bytesPerRow_eq_ok_iff,
    Plane.outcome_checkDepth_eq_ok_iff]
  constructor
  · intro splits
    obtain ⟨_, ⟨fills, _⟩, _, ⟨enough, most⟩, split⟩ := splits
    exact ⟨fills, enough, most, split.symm⟩
  · intro parts
    obtain ⟨fills, enough, most, split⟩ := parts
    exact ⟨_, ⟨fills, rfl⟩, (), ⟨enough, most⟩, split.symm⟩

theorem outcome_toPlanes_of_not_within {raster : Raster} {depth : Nat}
    (fills : raster.FillsPlanes)
    (outside : ¬ (raster.requiredDepth ≤ depth ∧ depth ≤ maxDepth)) :
    (raster.toPlanes depth).outcome =
      .error (.depthOutOfRange depth raster.requiredDepth) := by
  have measured := Plane.outcome_bytesPerRow_of_fillsPlanes fills
  have refused := Plane.outcome_checkDepth_of_not_within outside
  unfold toPlanes
  simp only [Logged.bind_eq, Logged.outcome_bind, measured, refused, Except.bind]
  rfl

theorem find?_zipIdx_eq_none_iff {planes : List Plane} {expected : Nat} :
    planes.zipIdx.find? (fun placed => placed.1.bytes.size ≠ expected) = none ↔
      ∀ plane ∈ planes, plane.bytes.size = expected := by
  rw [List.find?_eq_none]
  constructor
  · intro unfound plane member
    obtain ⟨position, inside, rfl⟩ := List.getElem_of_mem member
    have placed : (planes[position], position) ∈ planes.zipIdx := by
      rw [List.mem_zipIdx_iff_getElem?]
      exact List.getElem?_eq_getElem inside
    simpa using unfound _ placed
  · intro uniform entry placed
    obtain ⟨plane, position⟩ := entry
    simpa using uniform plane (List.fst_mem_of_mem_zipIdx placed)

/-- An index takes one bit from each plane, whatever numbers the planes have. -/
theorem outcome_ofPlanes_eq_ok_iff {planes : List Plane} {size : Size}
    {raster : Raster} :
    (ofPlanes planes size).outcome = .ok raster ↔
      size.FillsPlanes ∧ (1 ≤ planes.length ∧ planes.length ≤ maxDepth) ∧
        (∀ plane ∈ planes,
          plane.bytes.size = size.width.toNat / 8 * size.height.toNat) ∧
        raster.toSize = size ∧
        raster.indices = Array.ofFn (n := size.pixelCount) fun position =>
          (Plane.stackIndex planes position).toUInt8 := by
  have count : 1 ≤ min planes.length 255 ∧ min planes.length 255 ≤ maxDepth ↔
      1 ≤ planes.length ∧ planes.length ≤ maxDepth := by
    unfold maxDepth
    omega
  unfold ofPlanes
  simp only [Logged.bind_eq, Logged.outcome_bind_eq_ok_iff,
    Plane.outcome_bytesPerPlane_eq_ok_iff, Plane.outcome_checkDepth_eq_ok_iff,
    Option.elim_none, count]
  constructor
  · intro stacked
    obtain ⟨expected, ⟨fills, plane⟩, _, counted, built⟩ := stacked
    refine ⟨fills, counted, ?_⟩
    cases found : planes.zipIdx.find? fun placed =>
        placed.1.bytes.size ≠ expected with
    | some placed =>
        rw [found] at built
        cases built
    | none =>
        rw [found, plane, fills.bytes_mul_eight] at built
        rw [Logged.outcome_silent, Logged.mapError_eq_ok_iff,
          ofIndices_eq_ok_iff] at built
        rw [plane] at found
        exact ⟨find?_zipIdx_eq_none_iff.mp found, built⟩
  · intro parts
    obtain ⟨fills, counted, uniform, size, indices⟩ := parts
    refine ⟨_, ⟨fills, rfl⟩, (), counted, ?_⟩
    rw [find?_zipIdx_eq_none_iff.mpr uniform, Logged.outcome_silent,
      Logged.mapError_eq_ok_iff, ofIndices_eq_ok_iff, fills.bytes_mul_eight]
    exact ⟨size, indices⟩

theorem exists_outcome_ofPlanes {planes : List Plane} {size : Size}
    (fills : size.FillsPlanes)
    (counted : 1 ≤ planes.length ∧ planes.length ≤ maxDepth)
    (uniform : ∀ plane ∈ planes,
      plane.bytes.size = size.width.toNat / 8 * size.height.toNat) :
    ∃ raster, (ofPlanes planes size).outcome = .ok raster :=
  ⟨⟨size, _, Array.size_ofFn⟩,
    outcome_ofPlanes_eq_ok_iff.mpr ⟨fills, counted, uniform, rfl, rfl⟩⟩

/-- No index has a bit above the planes of the required depth. -/
theorem stackIndex_plane {raster : Raster} {depth : Nat}
    (fills : raster.FillsPlanes) (enough : raster.requiredDepth ≤ depth)
    {position : Nat} (inside : position < raster.indices.size) :
    Plane.stackIndex ((List.range depth).map raster.plane) position =
      raster.indices[position].toNat := by
  have small : raster.indices[position].toNat < 2 ^ depth :=
    (requiredDepth_le_iff.mp enough).2 _ (Array.getElem_mem inside)
  apply Nat.eq_of_testBit_eq
  intro number
  rw [Plane.testBit_stackIndex]
  by_cases present : number < depth
  · simp [present, bitAt_plane fills number inside]
  · have high : raster.indices[position].toNat < 2 ^ number :=
      Nat.lt_of_lt_of_le small (Nat.pow_le_pow_right (by decide) (by omega))
    simp [present, Nat.testBit_lt_two_pow high]

theorem outcome_ofPlanes_map_plane {raster : Raster} {depth : Nat}
    (fills : raster.FillsPlanes) (enough : raster.requiredDepth ≤ depth)
    (most : depth ≤ maxDepth) :
    (ofPlanes ((List.range depth).map raster.plane) raster.toSize).outcome =
      .ok raster := by
  have positive : 1 ≤ depth := (requiredDepth_le_iff.mp enough).1
  refine outcome_ofPlanes_eq_ok_iff.mpr
    ⟨fills, by simpa using ⟨positive, most⟩, ?_, rfl, ?_⟩
  · intro plane member
    obtain ⟨number, _, rfl⟩ := List.mem_map.mp member
    exact size_bytes_plane fills number
  · apply Array.ext
    · rw [Array.size_ofFn, raster.size_indices]
    · intro position inside _
      rw [Array.getElem_ofFn, stackIndex_plane fills enough inside]
      exact UInt8.ofNat_toNat.symm

theorem ofPlanes_toPlanes (raster : Raster) (depth : Nat) (planes : List Plane)
    (split : (raster.toPlanes depth).outcome = .ok planes) :
    (ofPlanes planes raster.toSize).outcome = .ok raster := by
  obtain ⟨fills, enough, most, rfl⟩ := outcome_toPlanes_eq_ok_iff.mp split
  exact outcome_ofPlanes_map_plane fills enough most

theorem ofPlanes_toPlanes_row :
    let row : Raster := ⟨⟨8, 1⟩, #[5, 0, 3, 1, 7, 0, 2, 4], rfl⟩
    let planes : List Plane := [⟨0, #[0xB8]⟩, ⟨1, #[0x2A]⟩, ⟨2, #[0x89]⟩]
    (row.toPlanes 3).outcome = .ok planes ∧
      (ofPlanes planes row.toSize).outcome = .ok row := by
  intro row planes
  have split : (row.toPlanes 3).outcome = .ok planes := by
    decide +kernel +revert
  exact ⟨split, ofPlanes_toPlanes row 3 planes split⟩

section Stacked

variable {planes : List Plane} {size : Size} {raster : Raster}
  (stacked : (ofPlanes planes size).outcome = .ok raster)

include stacked

theorem size_indices_of_stacked : raster.indices.size = size.pixelCount := by
  obtain ⟨_, _, _, sized, _⟩ := outcome_ofPlanes_eq_ok_iff.mp stacked
  rw [raster.size_indices, sized]

theorem toNat_getElem_of_stacked {position : Nat}
    (inside : position < raster.indices.size) :
    raster.indices[position].toNat = Plane.stackIndex planes position := by
  obtain ⟨_, ⟨_, most⟩, _, _, indices⟩ := outcome_ofPlanes_eq_ok_iff.mp stacked
  have small : Plane.stackIndex planes position < 256 := by
    calc
      Plane.stackIndex planes position < 2 ^ planes.length :=
        Plane.stackIndex_lt planes position
      _ ≤ 2 ^ maxDepth := Nat.pow_le_pow_right (by decide) most
      _ = 256 := rfl
  simp [indices, Nat.mod_eq_of_lt small]

theorem requiredDepth_le_of_stacked : raster.requiredDepth ≤ planes.length := by
  obtain ⟨_, ⟨positive, _⟩, _⟩ := outcome_ofPlanes_eq_ok_iff.mp stacked
  refine requiredDepth_le_iff.mpr ⟨positive, fun index member => ?_⟩
  obtain ⟨position, inside, rfl⟩ := Array.getElem_of_mem member
  rw [toNat_getElem_of_stacked stacked inside]
  exact Plane.stackIndex_lt planes position

theorem bytes_plane_of_stacked {number : Nat} (present : number < planes.length) :
    (raster.plane number).bytes = planes[number].bytes := by
  obtain ⟨fills, _, uniform, rfl, _⟩ := outcome_ofPlanes_eq_ok_iff.mp stacked
  have own := uniform planes[number] (List.getElem_mem present)
  apply Array.ext
  · rw [size_bytes_plane fills, own]
  · intro byte _ inside
    -- Column by column the split byte holds the bits that the stacked byte gave.
    have columns : ∀ column : Fin 8,
        ∀ pixel : 8 * byte + column.val < raster.indices.size,
        raster.indices[8 * byte + column.val].toNat.testBit number =
          Byte.bit planes[number].bytes[byte] column := by
      intro column pixel
      have place : (8 * byte + column.val) / 8 = byte := by omega
      have offset : (8 * byte + column.val) % 8 = column.val := by omega
      rw [toNat_getElem_of_stacked stacked pixel, Plane.testBit_stackIndex,
        List.getElem?_eq_getElem present, Option.elim_some, Plane.bitAt, place, offset,
        Array.getD_eq_getD_getElem?, Array.getElem?_eq_getElem inside,
        Option.getD_some]
    have packed : (raster.plane number).bytes[byte] =
        Byte.pack fun column => Byte.bit planes[number].bytes[byte] column := by
      simp only [plane, Array.getElem_ofFn]
      congr 1
      funext column
      exact columns column _
    rw [packed, Byte.pack_bit]

theorem outcome_toPlanes_of_stacked :
    (raster.toPlanes planes.length).outcome =
      .ok (planes.mapIdx fun number plane => ⟨number, plane.bytes⟩) := by
  obtain ⟨fills, ⟨_, most⟩, _, rfl, _⟩ := outcome_ofPlanes_eq_ok_iff.mp stacked
  refine outcome_toPlanes_eq_ok_iff.mpr
    ⟨fills, requiredDepth_le_of_stacked stacked, most, ?_⟩
  apply List.ext_getElem
  · simp
  · intro number present _
    rw [List.length_mapIdx] at present
    rw [List.getElem_mapIdx, List.getElem_map, List.getElem_range,
      ← bytes_plane_of_stacked stacked present]
    rfl

/-- Stacks of one depth differ where a byte of theirs does. -/
theorem map_bytes_eq_of_stacked {others : List Plane} {otherSize : Size}
    (count : others.length = planes.length)
    (same : (ofPlanes others otherSize).outcome = .ok raster) :
    others.map (·.bytes) = planes.map (·.bytes) := by
  apply List.ext_getElem
  · rw [List.length_map, List.length_map, count]
  · intro number present present'
    rw [List.length_map] at present present'
    rw [List.getElem_map, List.getElem_map, ← bytes_plane_of_stacked same present,
      bytes_plane_of_stacked stacked present']

end Stacked

/-- Splitting numbers the planes by their places, whatever numbers they had. -/
theorem toPlanes_ofPlanes (planes : List Plane) (size : Size) (raster : Raster)
    (stacked : (ofPlanes planes size).outcome = .ok raster) :
    (∀ index ∈ raster.indices, index.toNat < 2 ^ planes.length) ∧
      (raster.toPlanes planes.length).outcome =
        .ok (planes.mapIdx fun number plane => ⟨number, plane.bytes⟩) ∧
      ∀ others otherSize, others.length = planes.length →
        (ofPlanes others otherSize).outcome = .ok raster →
        others.map (·.bytes) = planes.map (·.bytes) := by
  refine ⟨?_, outcome_toPlanes_of_stacked stacked, fun others otherSize => ?_⟩
  · exact (requiredDepth_le_iff.mp (requiredDepth_le_of_stacked stacked)).2
  · exact map_bytes_eq_of_stacked stacked

theorem toPlanes_ofPlanes_square :
    let planes : List Plane := [⟨7, #[0xB8, 0x01]⟩, ⟨7, #[0x2A, 0xFF]⟩, ⟨0, #[0x89, 0]⟩]
    let others : List Plane := [⟨0, #[0xB8, 0x01]⟩, ⟨1, #[0x2A, 0xFF]⟩, ⟨2, #[0x89, 0]⟩]
    let square : Raster :=
      ⟨⟨8, 2⟩, #[5, 0, 3, 1, 7, 0, 2, 4, 2, 2, 2, 2, 2, 2, 2, 3], rfl⟩
    (ofPlanes planes ⟨8, 2⟩).outcome = .ok square ∧
      (∀ index ∈ square.indices, index.toNat < 2 ^ planes.length) ∧
      (square.toPlanes planes.length).outcome = .ok others ∧
      (ofPlanes others ⟨8, 2⟩).outcome = .ok square ∧
      others.map (·.bytes) = planes.map (·.bytes) := by
  intro planes others square
  have stacked : (ofPlanes planes ⟨8, 2⟩).outcome = .ok square := by
    decide +kernel +revert
  have same : (ofPlanes others ⟨8, 2⟩).outcome = .ok square := by
    decide +kernel +revert
  obtain ⟨small, split, known⟩ := toPlanes_ofPlanes planes ⟨8, 2⟩ square stacked
  exact ⟨stacked, small, split, same, known others ⟨8, 2⟩ rfl same⟩

end Raster

end ChunkyPlanar
