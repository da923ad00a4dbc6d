import Mathlib
import ChunkyPlanar.Raster

/-! Rasters by their indices: which is the greatest, which of them a palette holds,
and what relabeling makes of them. -/

namespace ChunkyPlanar

private theorem max_eq_ite (first second : UInt8) :
    max first second = if first ≤ second then second else first := rfl

instance lawfulOrderMaxUInt8 : Std.LawfulOrderMax UInt8 :=
  Std.LawfulOrderMax.of_max_le_iff
    (by
      intro first second bound
      rw [max_eq_ite]
      by_cases ordered : first ≤ second
      · rw [if_pos ordered]
        exact ⟨fun above => ⟨UInt8.le_trans ordered above, above⟩, And.right⟩
      · have reversed : second ≤ first := Std.le_of_not_ge ordered
        rw [if_neg ordered]
        exact ⟨fun above => ⟨above, UInt8.le_trans reversed above⟩, And.left⟩)
    (by
      intro first second
      rw [max_eq_ite]
      by_cases ordered : first ≤ second
      · exact .inr (if_pos ordered)
      · exact .inl (if_neg ordered))

/-- The first byte of the kind that is sought. -/
theorem Bytes.exists_findFinIdx? {bytes : Bytes} (sought : UInt8 → Bool)
    (present : ∃ byte ∈ bytes, sought byte = true) :
    ∃ position : Fin bytes.size, bytes.findFinIdx? sought = some position ∧
      sought bytes[position] = true ∧
      ∀ earlier (before : earlier < position.val), sought bytes[earlier] = false := by
  cases found : bytes.findFinIdx? sought with
  | none =>
      obtain ⟨byte, member, holds⟩ := present
      exact absurd holds (Array.findFinIdx?_eq_none_iff.mp found byte member)
  | some position =>
      obtain ⟨holds, first⟩ := Array.findFinIdx?_eq_some_iff.mp found
      refine ⟨position, rfl, holds, fun earlier before => ?_⟩
      have passed := first ⟨earlier, before.trans position.isLt⟩ before
      simpa using passed

namespace Raster

theorem ext_indices {first second : Raster} (size : first.toSize = second.toSize)
    (indices : first.indices = second.indices) : first = second := by
  cases first
  cases second
  cases size
  cases indices
  rfl

theorem ofIndices_eq_ok_iff {size : Size} {indices : Bytes} {raster : Raster} :
    ofIndices size indices = .ok raster ↔
      raster.toSize = size ∧ raster.indices = indices := by
  unfold ofIndices
  constructor
  · intro built
    split at built
    · cases built
      exact ⟨rfl, rfl⟩
    · cases built
  · intro parts
    obtain ⟨rfl, rfl⟩ := parts
    rw [dif_pos raster.size_indices]

theorem greatestIndex?_eq_some_iff {raster : Raster} {index : UInt8} :
    raster.greatestIndex? = some index ↔
      index ∈ raster.indices ∧ ∀ other ∈ raster.indices, other ≤ index :=
  Array.max?_eq_some_iff

theorem greatestIndex?_eq_none_iff {raster : Raster} :
    raster.greatestIndex? = none ↔ raster.indices = #[] :=
  Array.max?_eq_none_iff

theorem checkWithin_eq_ok_iff {raster : Raster} {paletteSize : Nat} :
    raster.checkWithin paletteSize = .ok () ↔
      ∀ index ∈ raster.indices, index.toNat < paletteSize := by
  unfold checkWithin
  cases found : raster.indices.findFinIdx? (paletteSize ≤ ·.toNat) with
  | none =>
      rw [Array.findFinIdx?_eq_none_iff] at found
      simp only [true_iff]
      intro index member
      simpa using found index member
  | some position =>
      rw [Array.findFinIdx?_eq_some_iff] at found
      have tooLarge : paletteSize ≤ raster.indices[position].toNat := by
        simpa using found.1
      simp only [reduceCtorEq, false_iff]
      intro within
      have small := within raster.indices[position] (Array.getElem_mem _)
      omega

/-- The first of the indices that the palette lacks is reported. -/
theorem exists_checkWithin_eq_error {raster : Raster} {paletteSize : Nat}
    (outside : ∃ index ∈ raster.indices, paletteSize ≤ index.toNat) :
    ∃ position, ∃ inside : position < raster.indices.size,
      paletteSize ≤ raster.indices[position].toNat ∧
      (∀ other (before : other < position),
        raster.indices[other].toNat < paletteSize) ∧
      raster.checkWithin paletteSize =
        .error (.indexTooLarge raster.indices[position] position paletteSize) := by
  obtain ⟨position, found, large, first⟩ :=
    Bytes.exists_findFinIdx? (fun index => paletteSize ≤ index.toNat)
      (by simpa using outside)
  unfold checkWithin
  rw [found]
  refine ⟨position, position.isLt, by simpa using large, fun other before => ?_, rfl⟩
  simpa using first other before

theorem pixel?_of_inside {raster : Raster} {x y : UInt32}
    (inside : x < raster.width ∧ y < raster.height) :
    ∃ present : y.toNat * raster.width.toNat + x.toNat < raster.indices.size,
      raster.pixel? x y =
        some raster.indices[y.toNat * raster.width.toNat + x.toNat] := by
  have present : y.toNat * raster.width.toNat + x.toNat < raster.indices.size := by
    rw [raster.size_indices]
    exact Size.position_lt_pixelCount (UInt32.lt_iff_toNat_lt.mp inside.1)
      (UInt32.lt_iff_toNat_lt.mp inside.2)
  unfold pixel?
  rw [if_pos inside]
  exact ⟨present, Array.getElem?_eq_getElem present⟩

theorem pixel?_of_outside {raster : Raster} {x y : UInt32}
    (outside : ¬ (x < raster.width ∧ y < raster.height)) :
    raster.pixel? x y = none := by
  unfold pixel?
  rw [if_neg outside]

theorem exists_pixel? {raster : Raster} {x y : UInt32} (column : x < raster.width)
    (row : y < raster.height) : ∃ index, raster.pixel? x y = some index := by
  obtain ⟨_, found⟩ := pixel?_of_inside ⟨column, row⟩
  exact ⟨_, found⟩

theorem mem_of_pixel?_eq_some {raster : Raster} {x y : UInt32} {index : UInt8}
    (found : raster.pixel? x y = some index) : index ∈ raster.indices := by
  unfold pixel? at found
  split at found
  · exact Array.mem_of_getElem? found
  · cases found

/-- Each index of the result is the label of the index in its place. -/
theorem relabel_eq_ok_iff {raster result : Raster} {lookup : UInt8 → Option UInt8} :
    raster.relabel lookup = .ok result ↔
      result.toSize = raster.toSize ∧
        raster.indices.map lookup = result.indices.map some := by
  unfold relabel
  cases found : raster.indices.findFinIdx? fun index => (lookup index).isNone with
  | none =>
      rw [Array.findFinIdx?_eq_none_iff] at found
      constructor
      · intro built
        cases built
        refine ⟨rfl, ?_⟩
        rw [Array.map_map]
        apply Array.map_congr_left
        intro index member
        have labeled := found index member
        cases label : lookup index with
        | none => simp [label] at labeled
        | some rank => simp [label]
      · intro parts
        obtain ⟨size, labels⟩ := parts
        have indices := congrArg (Array.map fun label => label.getD 0) labels
        simp only [Array.map_map, Function.comp_def, Option.getD_some,
          Array.map_id'] at indices
        exact congrArg Except.ok (ext_indices size.symm indices)
  | some position =>
      rw [Array.findFinIdx?_eq_some_iff] at found
      have unlabeled : lookup raster.indices[position] = none := by
        simpa using found.1
      simp only [reduceCtorEq, false_iff]
      intro parts
      obtain ⟨_, labels⟩ := parts
      have member : (none : Option UInt8) ∈ result.indices.map some := by
        rw [← labels, ← unlabeled]
        exact Array.mem_map_of_mem (Array.getElem_mem _)
      simp at member

theorem exists_relabel_iff {raster : Raster} {lookup : UInt8 → Option UInt8} :
    (∃ result, raster.relabel lookup = .ok result) ↔
      ∀ index ∈ raster.indices, (lookup index).isSome := by
  unfold relabel
  cases found : raster.indices.findFinIdx? fun index => (lookup index).isNone with
  | none =>
      rw [Array.findFinIdx?_eq_none_iff] at found
      simpa [Option.isSome_iff_ne_none] using found
  | some position =>
      rw [Array.findFinIdx?_eq_some_iff] at found
      simp only [reduceCtorEq, exists_false, false_iff]
      intro labeled
      have label := labeled raster.indices[position] (Array.getElem_mem _)
      rw [Option.isSome_iff_ne_none] at label
      exact label (Option.isNone_iff_eq_none.mp found.1)

/-- The first of the indices that have no label is reported. -/
theorem exists_relabel_eq_error {raster : Raster} {lookup : UInt8 → Option UInt8}
    (unlabeled : ∃ index ∈ raster.indices, (lookup index).isNone = true) :
    ∃ position, ∃ inside : position < raster.indices.size,
      lookup raster.indices[position] = none ∧
      (∀ other (before : other < position),
        (lookup raster.indices[other]).isSome = true) ∧
      raster.relabel lookup =
        .error (.unknownIndex raster.indices[position] position) := by
  obtain ⟨position, found, missing, first⟩ := Bytes.exists_findFinIdx? _ unlabeled
  unfold relabel
  rw [found]
  refine ⟨position, position.isLt, by simpa using missing, fun other before => ?_, rfl⟩
  simpa [Option.isSome_iff_ne_none] using first other before

section Relabeled

variable {raster result : Raster} {lookup : UInt8 → Option UInt8}

theorem toSize_of_relabel (relabeled : raster.relabel lookup = .ok result) :
    result.toSize = raster.toSize :=
  (relabel_eq_ok_iff.mp relabeled).1

theorem size_indices_of_relabel (relabeled : raster.relabel lookup = .ok result) :
    result.indices.size = raster.indices.size := by
  rw [result.size_indices, raster.size_indices, toSize_of_relabel relabeled]

theorem getElem?_of_relabel (relabeled : raster.relabel lookup = .ok result)
    (position : Nat) :
    result.indices[position]? = raster.indices[position]?.bind lookup := by
  have labels := congrArg (fun labels => labels[position]?.bind id)
    (relabel_eq_ok_iff.mp relabeled).2
  simpa [Option.bind_map, Function.comp_def] using labels.symm

theorem getElem_of_relabel (relabeled : raster.relabel lookup = .ok result)
    {position : Nat} (before : position < raster.indices.size)
    (after : position < result.indices.size) :
    lookup raster.indices[position] = some result.indices[position] := by
  have label := getElem?_of_relabel relabeled position
  rw [Array.getElem?_eq_getElem before, Array.getElem?_eq_getElem after,
    Option.bind_some] at label
  exact label.symm

theorem pixel?_of_relabel (relabeled : raster.relabel lookup = .ok result)
    (x y : UInt32) :
    result.pixel? x y = (raster.pixel? x y).bind lookup := by
  unfold pixel?
  rw [toSize_of_relabel relabeled]
  by_cases inside : x < raster.width ∧ y < raster.height
  · rw [if_pos inside, if_pos inside, getElem?_of_relabel relabeled]
  · rw [if_neg inside, if_neg inside, Option.bind_none]

/-- A view of the labels is a view of the indices that they stand for. -/
theorem map_indices_of_relabel (relabeled : raster.relabel lookup = .ok result)
    {after before : UInt8 → α}
    (agree : ∀ index ∈ raster.indices, ∀ label, lookup index = some label →
      after label = before index) :
    result.indices.map after = raster.indices.map before := by
  apply Array.ext
  · rw [Array.size_map, Array.size_map, size_indices_of_relabel relabeled]
  · intro position inside' inside
    rw [Array.size_map] at inside inside'
    rw [Array.getElem_map, Array.getElem_map]
    exact agree _ (Array.getElem_mem inside) _
      (getElem_of_relabel relabeled inside inside')

theorem relabel_of_inverse {inverse : UInt8 → Option UInt8}
    (inverts : ∀ index label, lookup index = some label → inverse label = some index)
    (relabeled : raster.relabel lookup = .ok result) :
    result.relabel inverse = .ok raster := by
  refine relabel_eq_ok_iff.mpr ⟨(toSize_of_relabel relabeled).symm, ?_⟩
  exact map_indices_of_relabel relabeled fun index _ label => inverts index label

end Relabeled

end Raster

end ChunkyPlanar
