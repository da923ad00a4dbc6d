import Mathlib
import ChunkyPlanar.Proofs.Chunky.Colors
import ChunkyPlanar.Proofs.Palette.Compaction
import ChunkyPlanar.Proofs.Plane.Stack

/-! The three views of a raster: all indices in one buffer, rows of them, and pixels. However
a raster is made, it has the size that was asked for and its views show the same indices. -/

namespace ChunkyPlanar.Raster

variable {raster : Raster}

theorem dvd_size_indices (raster : Raster) :
    max raster.width.toNat 1 ∣ raster.indices.size := by
  rw [raster.size_indices, Size.pixelCount]
  by_cases empty : raster.width.toNat = 0
  · simp [empty]
  · rw [Nat.max_eq_left (Nat.one_le_iff_ne_zero.mpr empty)]
    exact Nat.dvd_mul_right ..

theorem length_rows (raster : Raster) :
    raster.rows.length = if raster.width = 0 then 0 else raster.height.toNat := by
  rw [rows, Bytes.length_chunks, raster.size_indices, Size.pixelCount]
  split
  · next empty => simp [empty]
  · next some =>
      have positive : 0 < raster.width.toNat :=
        Nat.pos_of_ne_zero fun zero => some (UInt32.toNat_inj.mp zero)
      rw [Nat.max_eq_left positive, Nat.mul_div_cancel_left _ positive]

theorem size_of_mem_rows {row : Bytes} (member : row ∈ raster.rows) :
    row.size = raster.width.toNat := by
  have full := Bytes.size_of_mem_chunks raster.dvd_size_indices member
  by_cases empty : raster.width = 0
  · have none := raster.length_rows
    rw [if_pos empty, List.length_eq_zero_iff] at none
    rw [none] at member
    cases member
  · have positive : raster.width.toNat ≠ 0 := fun zero => empty (UInt32.toNat_inj.mp zero)
    omega

theorem join_rows (raster : Raster) : Bytes.join raster.rows = raster.indices :=
  Bytes.join_chunks raster.dvd_size_indices

theorem getElem?_rows (raster : Raster) (y : Nat) {x : Nat} (column : x < raster.width.toNat) :
    raster.rows[y]?.bind (·[x]?) = raster.indices[y * raster.width.toNat + x]? := by
  have uniform : ∀ row ∈ raster.rows, row.size = raster.width.toNat :=
    fun _ member => size_of_mem_rows member
  rw [← Bytes.getElem?_join_of_uniform uniform y column, join_rows, Nat.mul_comm]

theorem pixel?_eq_getElem? {x y : UInt32} (inside : x < raster.width ∧ y < raster.height) :
    raster.pixel? x y = raster.indices[y.toNat * raster.width.toNat + x.toNat]? := by
  unfold pixel?
  rw [if_pos inside]

theorem isSome_pixel?_iff {x y : UInt32} :
    (raster.pixel? x y).isSome ↔ x < raster.width ∧ y < raster.height := by
  by_cases inside : x < raster.width ∧ y < raster.height
  · obtain ⟨_, found⟩ := exists_pixel? inside.1 inside.2
    simp [found, inside]
  · simp [pixel?_of_outside inside, inside]

/-- The buffer, the rows and the pixels of a raster of this size show the same indices. -/
structure ViewsAgree (size : Size) (raster : Raster) : Prop where
  sized : raster.toSize = size
  counted : raster.indices.size = size.width.toNat * size.height.toNat
  rowCount : raster.rows.length = if size.width = 0 then 0 else size.height.toNat
  rowSize : ∀ row ∈ raster.rows, row.size = size.width.toNat
  joined : Bytes.join raster.rows = raster.indices
  isSome_pixel : ∀ x y, (raster.pixel? x y).isSome ↔ x < size.width ∧ y < size.height
  pixel_row : ∀ x y, x < size.width ∧ y < size.height →
    raster.pixel? x y = raster.rows[y.toNat]?.bind (·[x.toNat]?)
  pixel_buffer : ∀ x y, x < size.width ∧ y < size.height →
    raster.pixel? x y = raster.indices[y.toNat * size.width.toNat + x.toNat]?

theorem viewsAgree (raster : Raster) : raster.ViewsAgree raster.toSize where
  sized := rfl
  counted := raster.size_indices
  rowCount := raster.length_rows
  rowSize := fun _ member => size_of_mem_rows member
  joined := raster.join_rows
  isSome_pixel := fun _ _ => isSome_pixel?_iff
  pixel_row := by
    intro x y inside
    rw [pixel?_eq_getElem? inside,
      raster.getElem?_rows y.toNat (UInt32.lt_iff_toNat_lt.mp inside.1)]
  pixel_buffer := fun _ _ => pixel?_eq_getElem?

theorem ofIndicesWithin_eq_ok_iff {size : Size} {indices : Bytes} {paletteSize : Nat} :
    ofIndicesWithin size indices paletteSize = .ok raster ↔
      ofIndices size indices = .ok raster ∧
        ∀ index ∈ raster.indices, index.toNat < paletteSize := by
  unfold ofIndicesWithin
  cases built : ofIndices size indices with
  | error error => simp [bind, Except.bind]
  | ok own =>
      cases checked : own.checkWithin paletteSize with
      | error error =>
          have outside := mt checkWithin_eq_ok_iff.mpr (by rw [checked]; simp)
          simp only [bind, Except.bind, checked, reduceCtorEq, false_iff, not_and]
          rintro same
          cases same
          exact outside
      | ok _ =>
          have within := checkWithin_eq_ok_iff.mp checked
          simp only [bind, Except.bind, checked, pure, Except.pure, Except.ok.injEq]
          constructor
          · rintro rfl
            exact ⟨rfl, within⟩
          · exact And.left

/-- The ways to make a raster, each with the size that was asked for. -/
inductive Made : Size → Raster → Prop
  | ofIndices {size : Size} {indices : Bytes} {raster : Raster}
      (built : ofIndices size indices = .ok raster) : Made size raster
  | ofIndicesWithin {size : Size} {indices : Bytes} {paletteSize : Nat} {raster : Raster}
      (built : ofIndicesWithin size indices paletteSize = .ok raster) : Made size raster
  | apply {compaction : Compaction} {indices ranks : Raster}
      (applied : compaction.apply indices = .ok ranks) : Made indices.toSize ranks
  | undo {compaction : Compaction} {ranks indices : Raster}
      (undone : compaction.undo ranks = .ok indices) : Made ranks.toSize indices
  | ofPlanes {planes : List Plane} {size : Size} {raster : Raster}
      (stacked : (ofPlanes planes size).outcome = .ok raster) : Made size raster
  | ofPixels {pixels : Bytes} {size : Size} {limit : Nat} {picture : ChunkyPicture}
      (indexed : (ChunkyPicture.ofPixels pixels size limit).outcome = .ok picture) :
      Made size picture.raster

theorem Made.toSize_eq {size : Size} (made : Made size raster) : raster.toSize = size := by
  cases made with
  | ofIndices built => exact (ofIndices_eq_ok_iff.mp built).1
  | ofIndicesWithin built =>
      exact (ofIndices_eq_ok_iff.mp (ofIndicesWithin_eq_ok_iff.mp built).1).1
  | apply applied => exact toSize_of_relabel applied
  | undo undone => exact toSize_of_relabel undone
  | ofPlanes stacked =>
      obtain ⟨_, _, _, sized, _⟩ := outcome_ofPlanes_eq_ok_iff.mp stacked
      exact sized
  | ofPixels indexed => exact (ChunkyPicture.outcome_ofPixels_eq_ok_iff.mp indexed).2.1

theorem viewsAgree_of_made {size : Size} (made : Made size raster) :
    raster.ViewsAgree size := by
  have agree := raster.viewsAgree
  rwa [made.toSize_eq] at agree

/-- Two rows, where the last pixel of the first stands before the first of the second. -/
theorem viewsAgree_of_made_square :
    let planes : List Plane := [⟨0, #[0xB8, 0x01]⟩, ⟨1, #[0x2A, 0xFF]⟩, ⟨2, #[0x89, 0]⟩]
    let square : Raster :=
      ⟨⟨8, 2⟩, #[5, 0, 3, 1, 7, 0, 2, 4, 2, 2, 2, 2, 2, 2, 2, 3], rfl⟩
    (ofPlanes planes ⟨8, 2⟩).outcome = .ok square ∧ Made ⟨8, 2⟩ square ∧
      square.ViewsAgree ⟨8, 2⟩ := by
  intro planes square
  have stacked : (ofPlanes planes ⟨8, 2⟩).outcome = .ok square := by
    decide +kernel +revert
  exact ⟨stacked, .ofPlanes stacked, viewsAgree_of_made (.ofPlanes stacked)⟩

end ChunkyPlanar.Raster
